import Clusteration.Invariants.Observed

open Async Transition

namespace Clusteration

/-- Phases between `_CREATE_VM_LOCK.acquire()` and its release. -/
def RequestPhase.locks : RequestPhase → Bool
  | locked | vacant _ | created _ => true
  | _ => false

/-- One request holds the lock while it is taken, and none while it is free. -/
def Abs.LockHeld (t : Abs) : Prop :=
  t.requests.countP RequestPhase.locks = if t.shared.locked then 1 else 0

section Lock
variable {s s' : Shared} {e : Eff} {a : Ans e}

theorem act_locked (h : Act s e a s') (hl : e ≠ .lock) (hu : e ≠ .unlock) : s'.locked = s.locked := by
  cases e with
  | lock => exact absurd rfl hl
  | unlock => exact absurd rfl hu
  | getJob id =>
    obtain ⟨_, rfl⟩ := act_getJob.mp h
    rfl
  | getVM id =>
    obtain ⟨_, rfl⟩ := act_getVM.mp h
    rfl
  | commit f =>
    obtain rfl := act_commit.mp h
    rfl
  | insertJob job =>
    obtain ⟨_, rfl⟩ := act_insertJob.mp h
    rfl
  | insertVM vm job =>
    obtain ⟨_, rfl⟩ := act_insertVM.mp h
    rfl
  | put p =>
    obtain rfl := act_put.mp h
    rfl
  | http caller req =>
    obtain ⟨i, pve, _, _, rfl⟩ := act_http.mp h
    rfl
  | connect v ip =>
    obtain rfl := act_connect.mp h
    rfl
  | ssh v ip =>
    obtain rfl := act_ssh.mp h
    cases a <;> rfl
  | closeConnection conn =>
    obtain rfl := act_closeConnection.mp h
    rfl
  | seedTemplates rows =>
    obtain rfl := act_seedTemplates.mp h
    rfl
  | recover =>
    obtain rfl := act_recover.mp h
    rfl
  | startWorker =>
    obtain rfl := act_startWorker.mp h
    rfl
  | selectQueued =>
    obtain ⟨rfl, _⟩ := act_selectQueued.mp h
    rfl
  | selectTemplate os =>
    have hread : IsRead none _ := .selectTemplate os
    obtain ⟨_, _, rfl⟩ := act_read hread h
    rfl
  | selectLiveHostname hostname =>
    have hread : IsRead none _ := .selectLiveHostname hostname
    obtain ⟨_, _, rfl⟩ := act_read hread h
    rfl
  | time =>
    have hread : IsRead none _ := .clock .time
    obtain ⟨_, _, rfl⟩ := act_read hread h
    rfl
  | sleep ms =>
    have hread : IsRead none _ := .clock (.sleep ms)
    obtain ⟨_, _, rfl⟩ := act_read hread h
    rfl
  | forever => exact a.elim
  | utcnow =>
    have hread : IsRead none _ := .utcnow
    obtain ⟨_, _, rfl⟩ := act_read hread h
    rfl

theorem countP_set {l : List RequestPhase} {i : Nat} {φ φ' : RequestPhase} (h : l[i]? = some φ) :
    (l.set i φ').countP RequestPhase.locks + (if φ.locks then 1 else 0) =
      l.countP RequestPhase.locks + (if φ'.locks then 1 else 0) := by
  induction l generalizing i with
  | nil => simp at h
  | cons ψ l ih =>
    cases i with
    | zero =>
      obtain rfl : ψ = φ := by simpa using h
      simp only [List.set_cons_zero, List.countP_cons]
      omega
    | succ i =>
      have hrest := ih (i := i) (by simpa using h)
      simp only [List.set_cons_succ, List.countP_cons]
      omega

theorem two_le_countP {l : List RequestPhase} {φ ψ : RequestPhase} (hφ : φ ∈ l) (hψ : ψ ∈ l)
    (hne : φ ≠ ψ) (h : φ.locks = true) (h' : ψ.locks = true) : 2 ≤ l.countP RequestPhase.locks := by
  induction l with
  | nil => cases hφ
  | cons χ l ih =>
    have hpos : ∀ {ω}, ω ∈ l → ω.locks = true → 0 < l.countP RequestPhase.locks := by
      intro ω hω hl
      exact List.countP_pos_iff.mpr ⟨ω, hω, hl⟩
    rw [List.countP_cons]
    rcases List.mem_cons.mp hφ with rfl | hφl
    · rcases List.mem_cons.mp hψ with rfl | hψl
      · exact absurd rfl hne
      · have hrest := hpos hψl h'
        rw [if_pos h]
        omega
    · rcases List.mem_cons.mp hψ with rfl | hψl
      · have hrest := hpos hφl h
        rw [if_pos h']
        omega
      · have hrest := ih hφl hψl
        omega

theorem IsRead.unlocked {caller : Option Caller} (h : IsRead caller e) : e ≠ .lock ∧ e ≠ .unlock := by
  cases h with
  | clock hc => cases hc <;> simp
  | _ => simp

theorem Learns.unlocked {w : Exec} {stage : Stage} (h : Learns w e a stage) :
    e ≠ .lock ∧ e ≠ .unlock := by
  cases h <;> simp

/-- A turn of a request that takes no part in the lock, or takes or releases it. -/
theorem RequestT.locks {φ φ' : RequestPhase} (h : RequestT φ e a φ') :
    (e = .lock ∧ φ.locks = false ∧ φ'.locks = true) ∨
      (e = .unlock ∧ φ.locks = true ∧ φ'.locks = false) ∨
        (e ≠ .lock ∧ e ≠ .unlock ∧ φ'.locks = φ.locks) := by
  cases h with
  | quiet he => exact .inr (.inr ⟨he.unlocked.1, he.unlocked.2, rfl⟩)
  | lock => exact .inl ⟨rfl, rfl, rfl⟩
  | giveUp | giveUpVacant | unlock => exact .inr (.inl ⟨rfl, rfl, rfl⟩)
  | _ => exact .inr (.inr ⟨by simp, by simp, rfl⟩)

theorem BootT.unlocked {φ φ' : BootPhase} (h : BootT φ e a φ') : e ≠ .lock ∧ e ≠ .unlock := by
  cases h <;> simp

theorem WorkerT.unlocked {φ φ' : WorkerPhase} (h : WorkerT φ e a φ') : e ≠ .lock ∧ e ≠ .unlock := by
  cases h with
  | quiet he => exact he.unlocked
  | learn hl => exact hl.unlocked
  | _ => simp

end Lock

theorem Abs.LockHeld.step {t t' : Abs} {l : Label} (h : t.LockHeld) (hb : Base t.view)
    (hs : AStep t l t') : t'.LockHeld := by
  cases hs with
  | crash _ => rfl
  | restart settings ha =>
    have hnone : t.requests = [] := by
      apply hb.closed
      intro ho
      have halive : t.alive = true := ho.1
      rw [ha] at halive
      cases halive
    unfold LockHeld at h ⊢
    rw [hnone] at h
    exact h
  | get _ _ _ _ => exact h
  | receive r _ _ =>
    unfold LockHeld at h ⊢
    simpa [List.countP_append, RequestPhase.locks] using h
  | boot _ ht hact =>
    unfold LockHeld at h ⊢
    rw [act_locked hact ht.unlocked.1 ht.unlocked.2]
    exact h
  | worker _ ht hact =>
    unfold LockHeld at h ⊢
    rw [act_locked hact ht.unlocked.1 ht.unlocked.2]
    exact h
  | @request i e a sh φ φ' _ hφ ht hact =>
    have hcount : (t.requests.set i φ').countP RequestPhase.locks + _ = _ := countP_set hφ
    unfold LockHeld at h ⊢
    dsimp only
    rcases ht.locks with ⟨rfl, h₁, h₂⟩ | ⟨rfl, h₁, h₂⟩ | ⟨hl, hu, heq⟩
    · obtain ⟨hfree, rfl⟩ := act_lock.mp hact
      simp only [h₁, h₂, hfree] at hcount h ⊢
      omega
    · obtain rfl := act_unlock.mp hact
      have hone : t.requests.countP RequestPhase.locks ≤ 1 := by
        rw [h]
        split <;> omega
      simp only [h₁, h₂, if_true, Bool.false_eq_true, if_false] at hcount ⊢
      omega
    · rw [act_locked hact hl hu]
      rw [heq] at hcount
      omega

theorem AReachable.lockHeld {cond : Cond} {t : Abs} (h : AReachable cond t) : t.LockHeld := by
  apply Reach.strengthen (P := fun t : Abs => Base t.view) (Q := Abs.LockHeld)
    (fun _ => AReachable.base) _ _ h
  · intro t hi
    unfold Abs.LockHeld
    rw [hi.requests, hi.unlocked]
    rfl
  · intro t l t' hb _ hl hs _
    exact hl.step hb hs

structure View.Named (m : View) : Prop where
  distinct : ∀ {v v' x x'}, m.vms v = some x → m.vms v' = some x' → x.deletedAt = none →
    x'.deletedAt = none → x.hostname.toLower = x'.hostname.toLower → v = v'
  vacant : ∀ {hostname}, .vacant hostname ∈ m.requests → hostname.toLower = hostname ∧
    ∀ v x, m.vms v = some x → x.deletedAt = none → x.hostname.toLower ≠ hostname

section Step
variable {m m' : View} {l : Label}

theorem Edit.hostname {w : Exec} {stage : Stage} {x : Core} {target : Option Int}
    (h : Edit w stage x target) : x.hostname = w.x.hostname := by
  cases h <;> rfl

/-- A live record was there before the step, live and with its hostname, or has just been created. -/
theorem Move.hostname_back (hb : Base m) (hm : Move m l m') {v : VmId} {x' : Core}
    (hx' : m'.vms v = some x') (hd : x'.deletedAt = none) :
    (∃ x, m.vms v = some x ∧ x.deletedAt = none ∧ x.hostname = x'.hostname) ∨
      ∃ n p, m.requests[n]? = some (.vacant x'.hostname) ∧
        m'.requests = m.requests.set n (.created p) ∧ ∀ u x, m'.vms u = some x → u = v ∨ m.vms u = some x := by
  cases hm.vms_back hx' with
  | same h => exact .inl ⟨x', h, hd, rfl⟩
  | @edit w stage y row target hw hwv hrow he _ hx'' =>
    subst hwv hx''
    obtain ⟨_, _, row', hrow', hag⟩ := hb.exec hw
    obtain rfl := Option.some.inj (hrow.symm.trans hrow')
    have hlive : row.deletedAt = none := hag.deletedAt.trans (he.live hd)
    have hname : row.hostname = y.hostname := hag.hostname.trans he.hostname.symm
    exact .inl ⟨row, hrow, hlive, hname⟩
  | fail _ _ hrow _ _ _ hx'' | mark _ _ hrow hx'' | recover hrow _ _ hx'' =>
    subst hx''
    exact .inl ⟨_, hrow, hd, rfl⟩
  | @create n hostname p hφ hreq hothers _ hx'' =>
    subst hx''
    exact .inr ⟨n, p, hφ, hreq, hothers⟩

/-- A hostname found vacant was so before the step, or the step has just found it. -/
theorem Move.vacant_back (hm : Move m l m') {hostname : String}
    (h : .vacant hostname ∈ m'.requests) : .vacant hostname ∈ m.requests ∨
      (m'.vms = m.vms ∧ hostname.toLower = hostname ∧
        ∀ v x, m.vms v = some x → x.deletedAt = none → x.hostname.toLower ≠ hostname) := by
  have hset : ∀ {i : Nat} {φ : RequestPhase}, .vacant hostname ∈ m.requests.set i φ →
      φ ≠ .vacant hostname → .vacant hostname ∈ m.requests := by
    intro i φ hmem hne
    rcases List.mem_or_eq_of_mem_set hmem with h | h
    · exact h
    · exact absurd h.symm hne
  cases hm with
  | crash _ | restart _ _ => cases h
  | receive r _ _ =>
    rcases List.mem_append.mp h with h | h
    · exact .inl h
    · simp at h
  | turn _ hφ ht =>
    cases ht with
    | @vacant name hlower hfree =>
      by_cases heq : name = hostname
      · subst heq
        exact .inr ⟨rfl, hlower, hfree⟩
      · exact .inl (hset h (by simpa using heq))
    | _ => exact .inl (hset h (by simp))
  | mark _ _ _ | insert _ _ _ _ _ _ _ _ | create _ _ _ _ _ _ _ | put _ _ =>
    exact .inl (hset h (by simp))
  | _ => exact .inl h

theorem View.Named.step (h : m.Named) (hb : Base m) (hm : Move m l m')
    (hsole : m'.requests.countP RequestPhase.locks ≤ 1) : m'.Named := by
  refine ⟨fun {v v' x x'} hx hx' hd hd' heq => ?_, fun {hostname} hmem => ?_⟩
  · rcases hm.hostname_back hb hx hd with ⟨x₀, hx₀, hd₀, h₀⟩ | ⟨n, p, hφ, _, hothers⟩
    · rcases hm.hostname_back hb hx' hd' with ⟨x₁, hx₁, hd₁, h₁⟩ | ⟨n, p, hφ, _, hothers⟩
      · exact h.distinct hx₀ hx₁ hd₀ hd₁ (by rw [h₀, h₁, heq])
      · rcases hothers v x hx with rfl | hold
        · rfl
        · -- the new record's hostname was vacant
          obtain ⟨hlower, hfree⟩ := h.vacant (List.mem_of_getElem? hφ)
          exact absurd (heq.trans hlower) (hfree v x hold hd)
    · rcases hothers v' x' hx' with rfl | hold
      · rfl
      · obtain ⟨hlower, hfree⟩ := h.vacant (List.mem_of_getElem? hφ)
        exact absurd (heq.symm.trans hlower) (hfree v' x' hold hd')
  · rcases hm.vacant_back hmem with hold | ⟨hvms, hlower, hfree⟩
    · obtain ⟨hlower, hfree⟩ := h.vacant hold
      refine ⟨hlower, fun v x' hx' hd => ?_⟩
      rcases hm.hostname_back hb hx' hd with ⟨x, hx, hd, hname⟩ | ⟨n, p, hφ, hreq, _⟩
      · rw [← hname]
        exact hfree v x hx hd
      · -- whoever creates holds the lock, and so does whoever has found a hostname vacant
        exfalso
        have hn : n < m.requests.length := (List.getElem?_eq_some_iff.mp hφ).1
        have hcreated : m'.requests[n]? = some (.created p) := by
          rw [hreq]
          simp [hn]
        have htwo := two_le_countP hmem (List.mem_of_getElem? hcreated) (by simp) rfl rfl
        omega
    · rw [hvms]
      exact ⟨hlower, hfree⟩

end Step

/-- No two live records have hostnames that are equal up to letter case. -/
def Shared.HostnamesDistinct (s : Shared) : Prop :=
  ∀ v v' vm vm', s.db.vms.get v = some vm → s.db.vms.get v' = some vm' → vm.deletedAt = none →
    vm'.deletedAt = none → vm.hostname.toLower = vm'.hostname.toLower → v = v'

theorem hostnames_distinct {s : Sys} (h : Reachable .any s) : s.shared.HostnamesDistinct := by
  intro v v' vm vm' hv hv' hd hd' heq
  obtain ⟨t, ht, href⟩ := h.abstract
  have hnamed : t.view.Named := by
    apply Reach.strengthen (P := fun t : Abs => Base t.view ∧ t.LockHeld)
      (Q := fun t : Abs => t.view.Named)
      (fun _ hr => ⟨AReachable.base hr, AReachable.lockHeld hr⟩) _ _ ht
    · intro t hi
      refine ⟨fun {v _ x _} hx => ?_, fun {hostname} hmem => ?_⟩
      · simp [Abs.view, hi.vms] at hx
      · simp [Abs.view, hi.requests] at hmem
    · intro t l t' hp hp' hq hs _
      apply hq.step hp.1 (hp.1.move hs)
      have hcount := hp'.2
      unfold Abs.LockHeld at hcount
      have hreq : t'.view.requests = t'.requests := rfl
      rw [hreq, hcount]
      split <;> omega
  rw [href.shared] at hv hv'
  have hx : t.view.vms v = some vm.core := congrArg (Option.map VM.core) hv
  have hx' : t.view.vms v' = some vm'.core := congrArg (Option.map VM.core) hv'
  exact hnamed.distinct hx hx' hd hd' heq

open Scenario in
/-- Two requests for one hostname pass the first check together; one gets the lock first, and a third
request creates a VM beside it. -/
def raced : List Choice :=
  let checked : List In :=
    [.none, .none, answer (.int 100) false, listing [], listing [], answer .null false]
  startup [] 0 ++ [.receive (.createVm (body "a" named_a)), .receive (.createVm (body "a" named_a))] ++
    request 0 checked ++ request 1 checked ++ request 1 [.none, .none, .none] ++ request 1 [.none, .none] ++
    request 0 [.none, .none, .none] ++ create 2 (body "b" named_b) 100

theorem raced_ends : (Scenario.panel.run (fun _ _ _ => true) raced).any (fun s =>
    s.shared.db.vms.rows.map VM.hostname = ["a", "b"]) = true := by decide +kernel

theorem raced_runs : (Scenario.panel.run (fun _ _ _ => true) raced).isSome = true :=
  Option.isSome_of_any raced_ends

/-- Of the three, two have left a record. -/
theorem hostnames_distinct_raced :
    let s := (Scenario.panel.run (fun _ _ _ => true) raced).get raced_runs
    s.shared.db.vms.rows.map VM.hostname = ["a", "b"] ∧ s.shared.HostnamesDistinct := by
  intro s
  have hreach : Reachable .any s := @Scenario.reached _ Cond.any (fun _ _ _ _ => trivial) _ raced_runs
  exact ⟨of_decide_eq_true (Option.get_of_any_eq_true _ _ raced_ends), hostnames_distinct hreach⟩

end Clusteration
