import Clusteration.Front.Phases

open Async Transition

namespace Clusteration.Front

/-- The row is closed or expired. -/
def TerminalSessionStatus.Finished (status : TerminalSessionStatus) : Prop :=
  status = .closed ∨ status = .expired

def Sys.Finished (s : Sys) (sid : SessionId) : Prop :=
  ∃ row, s.sessions.get sid = some row ∧ row.status.Finished

/-- The socket's request `i` was accepted after it had read, in this order, the session, a time
before its expiry, and a VM that may have a terminal. -/
def Accepted (hist : List Entry) (i : Nat) (sid : SessionId) (sent : Bool) : Prop :=
  ∃ row now vm,
    [⟨i, .accept sid, sent⟩, ⟨i, .getVM row.vmId, some vm⟩, ⟨i, .utcnow, now⟩,
      ⟨i, .getSession sid, some row⟩].Sublist hist ∧
    now < row.expiresAt ∧ VM.terminalReady vm = true

/-- A claim that is not committed holds the lock of a row that is open. -/
structure Locked (s : Sys) (φs : List Phase) : Prop where
  row : ∀ (i : Nat) sid row now vm, φs[i]? = some (.claimed sid row now vm) →
    s.locks sid = true ∧ ∃ row', s.sessions.get sid = some row' ∧ row'.status.open = true
  alone : ∀ (i i' : Nat) sid row now vm row' now' vm', φs[i]? = some (.claimed sid row now vm) →
    φs[i']? = some (.claimed sid row' now' vm') → i = i'

/-- What one await does to the session rows and their locks, for a request in phase `φ`. -/
inductive SessionMove (s s' : Shared) : Phase → Phase → Prop
  | aside {φ φ' : Phase} : s'.sessions = s.sessions → s'.locks = s.locks →
      (∀ sid row now vm, φ' = .claimed sid row now vm → φ = φ') → SessionMove s s' φ φ'
  | inserted {φ : Phase} {row : TerminalSession} : s'.sessions = s.sessions.insert row →
      s'.locks = s.locks → SessionMove s s' φ φ
  | finished {φ : Phase} {sid : SessionId} {status : Option TerminalSessionStatus}
      {closedAt : Option Nat} : (∀ st, status = some st → st.Finished) →
      s.locks sid = false →
      s'.sessions = s.sessions.update sid (fun row =>
        { row with status := status.getD row.status, closedAt := closedAt.or row.closedAt }) →
      s'.locks = s.locks → SessionMove s s' φ .over
  | claimed {sid : SessionId} {row : TerminalSession} {now : Nat} {vm : VM}
      {row' : TerminalSession} : s.locks sid = false → s.sessions.get sid = some row' →
      row'.status.open = true → s'.sessions = s.sessions →
      s'.locks = Function.update s.locks sid true →
      SessionMove s s' (.checked sid row now vm) (.claimed sid row now vm)
  | granted {sid : SessionId} {row : TerminalSession} {now : Nat} {vm : VM} :
      s'.sessions = s.sessions.update sid (fun row => { row with status := .connected }) →
      s'.locks = Function.update s.locks sid false →
      SessionMove s s' (.claimed sid row now vm) (.granted sid row now vm)

variable {s s' : Shared} {e : Eff} {a : Ans e} {φ φ' : Phase}

theorem sessionMove (hp : PhaseT φ e a φ') (h : Act s e a s') : SessionMove s s' φ φ' := by
  obtain ⟨i, h⟩ := h
  cases hp with
  | aside he hφ =>
    cases he <;> cases i <;> simp only [perform, reduceCtorEq] at h
    case insertSession.none =>
      cases h
      exact .inserted rfl rfl
    case insertExposure.none =>
      split at h <;> cases h <;> exact .aside rfl rfl fun _ _ _ _ _ => rfl
    all_goals
      cases h
      exact .aside rfl rfl fun _ _ _ _ _ => rfl
  | free | taken | unexposed | exposed | looked | unknown | found | expired | unexpired _ | unfit
  | checked _ | accepted =>
    cases i <;> simp only [perform, reduceCtorEq, Option.some.injEq, Prod.mk.injEq] at h
    obtain ⟨-, rfl⟩ := h
    exact .aside rfl rfl (by simp)
  | lost =>
    cases i <;> simp only [perform, reduceCtorEq] at h
    split at h
    · cases h
    · split at h <;> cases h
      exact .aside rfl rfl (by simp)
  | @claimed sid =>
    cases i <;> simp only [perform, reduceCtorEq] at h
    split at h
    · cases h
    · next hlock =>
      split at h <;> cases h
      next hopen =>
      rw [Option.any_eq_true] at hopen
      obtain ⟨row', hr, ho⟩ := hopen
      exact .claimed (by simpa using hlock) hr ho rfl rfl
  | expire =>
    cases i <;> simp only [perform, reduceCtorEq] at h
    split at h <;> cases h
    next hlock =>
    refine .finished ?_ (by simpa using hlock) rfl rfl
    intro st hst
    cases hst
    exact .inr rfl
  | closed hstatus =>
    cases i <;> simp only [perform, reduceCtorEq] at h
    split at h <;> cases h
    next hlock =>
    refine .finished ?_ (by simpa using hlock) rfl rfl
    intro st hst
    rcases hstatus with hnone | hclosed
    · rw [hnone] at hst
      cases hst
    · rw [hclosed] at hst
      cases hst
      exact .inl rfl
  | granted =>
    cases i <;> simp only [perform, reduceCtorEq] at h
    cases h
    exact .granted rfl rfl

/-- Claimed after a move of request `i`. -/
theorem claimed_set {φs : List Phase} {i j : Nat} {sid : SessionId} {row : TerminalSession}
    {now : Nat} {vm : VM} (hi : φs[i]? = some φ)
    (hφ : ∀ sid row now vm, φ' = .claimed sid row now vm → φ = φ')
    (hj : (φs.set i φ')[j]? = some (.claimed sid row now vm)) :
    φs[j]? = some (.claimed sid row now vm) := by
  rcases Crew.phase_set hj with ⟨rfl, heq⟩ | ⟨-, hj⟩
  · rw [hi, hφ sid row now vm heq.symm, heq]
  · exact hj

theorem Locked.move {t t' : Sys} {φs : List Phase} {i : Nat} (h : Locked t φs)
    (hi : φs[i]? = some φ) (hm : SessionMove t.shared s' φ φ') (hses : t'.sessions = s'.sessions)
    (hloc : t'.locks = s'.locks) : Locked t' (φs.set i φ') := by
  have hkeep : (∀ sid row now vm, φ' = .claimed sid row now vm → φ = φ') →
      (∀ (j : Nat) sid row now vm, φs[j]? = some (.claimed sid row now vm) → t'.locks sid = t.locks sid ∧
        ∀ row', t.sessions.get sid = some row' → row'.status.open = true →
          ∃ row'', t'.sessions.get sid = some row'' ∧ row''.status.open = true) →
      Locked t' (φs.set i φ') := by
    intro hφ hrow
    constructor
    · intro j sid row now vm hj
      have hj := claimed_set hi hφ hj
      obtain ⟨hlock, row', hr, ho⟩ := h.row j sid row now vm hj
      obtain ⟨hl, hkept⟩ := hrow j sid row now vm hj
      exact ⟨hl.trans hlock, hkept row' hr ho⟩
    · intro j j' sid row now vm row' now' vm' hj hj'
      exact h.alone j j' sid row now vm row' now' vm' (claimed_set hi hφ hj)
        (claimed_set hi hφ hj')
  have hsame : t'.sessions = t.sessions → t'.locks = t.locks →
      ∀ (j : Nat) sid row now vm, φs[j]? = some (.claimed sid row now vm) → t'.locks sid = t.locks sid ∧
        ∀ row', t.sessions.get sid = some row' → row'.status.open = true →
          ∃ row'', t'.sessions.get sid = some row'' ∧ row''.status.open = true := by
    intro hs hl j sid row now vm _
    rw [hs, hl]
    exact ⟨rfl, fun row' hr ho => ⟨row', hr, ho⟩⟩
  cases hm with
  | aside hs hl hφ => exact hkeep hφ (hsame (hses.trans hs) (hloc.trans hl))
  | inserted hs hl =>
    refine hkeep (fun _ _ _ _ _ => rfl) fun j sid row now vm _ => ⟨congrFun (hloc.trans hl) sid, ?_⟩
    intro row' hr ho
    have hs' : t'.sessions = t.sessions.insert _ := hses.trans hs
    rw [hs']
    exact ⟨row', Table.get_insert_of_some hr, ho⟩
  | @finished _ sid₀ _ _ _ hfree hs hl =>
    -- a claimed row is locked, so it is another one that is written
    refine hkeep (by simp) fun j sid row now vm hj => ⟨congrFun (hloc.trans hl) sid, ?_⟩
    intro row' hr ho
    have hne : sid₀ ≠ sid := by
      intro heq
      subst heq
      have hlock := (h.row j sid₀ row now vm hj).1
      have hfree' : t.locks sid₀ = false := hfree
      rw [hlock] at hfree'
      cases hfree'
    have hs' : t'.sessions = t.sessions.update sid₀ _ := hses.trans hs
    rw [hs', Table.get_update_ne _ _ hne]
    exact ⟨row', hr, ho⟩
  | @claimed sid₀ row₀ now₀ vm₀ row' hfree hr ho hs hl =>
    have hs' : t'.sessions = t.sessions := hses.trans hs
    have hl' : t'.locks = Function.update t.locks sid₀ true := hloc.trans hl
    have hfree' : t.locks sid₀ = false := hfree
    have hother : ∀ (j : Nat) sid row now vm, φs[j]? = some (.claimed sid row now vm) → sid₀ ≠ sid := by
      intro j sid row now vm hj heq
      subst heq
      rw [(h.row j sid₀ row now vm hj).1] at hfree'
      cases hfree'
    constructor
    · intro j sid row now vm hj
      rw [hl', hs']
      rcases Crew.phase_set hj with ⟨rfl, heq⟩ | ⟨-, hj⟩
      · cases heq
        exact ⟨Function.update_self .., row', hr, ho⟩
      · rw [Function.update_of_ne (Ne.symm (hother j sid row now vm hj))]
        exact h.row j sid row now vm hj
    · intro j j' sid row now vm row'' now' vm' hj hj'
      rcases Crew.phase_set hj with ⟨rfl, heq⟩ | ⟨-, hk⟩
      · cases heq
        rcases Crew.phase_set hj' with ⟨heq', -⟩ | ⟨-, hk'⟩
        · exact heq'.symm
        · exact absurd rfl (hother j' sid₀ row'' now' vm' hk')
      · rcases Crew.phase_set hj' with ⟨rfl, heq⟩ | ⟨-, hk'⟩
        · cases heq
          exact absurd rfl (hother j sid₀ row now vm hk)
        · exact h.alone j j' sid row now vm row'' now' vm' hk hk'
  | @granted sid₀ row₀ now₀ vm₀ hs hl =>
    have hs' : t'.sessions = t.sessions.update sid₀ _ := hses.trans hs
    have hl' : t'.locks = Function.update t.locks sid₀ false := hloc.trans hl
    have hback : ∀ (j : Nat) sid row now vm, (φs.set i (.granted sid₀ row₀ now₀ vm₀))[j]? =
        some (.claimed sid row now vm) → φs[j]? = some (.claimed sid row now vm) ∧ sid₀ ≠ sid := by
      intro j sid row now vm hj
      rcases Crew.phase_set hj with ⟨-, heq⟩ | ⟨hne, hj⟩
      · cases heq
      · refine ⟨hj, ?_⟩
        intro heq
        subst heq
        exact hne (h.alone j i sid₀ row now vm row₀ now₀ vm₀ hj hi)
    constructor
    · intro j sid row now vm hj
      obtain ⟨hj, hne⟩ := hback j sid row now vm hj
      rw [hl', hs', Function.update_of_ne (Ne.symm hne), Table.get_update_ne _ _ hne]
      exact h.row j sid row now vm hj
    · intro j j' sid row now vm row' now' vm' hj hj'
      exact h.alone j j' sid row now vm row' now' vm' (hback j sid row now vm hj).1
        (hback j' sid row' now' vm' hj').1

/-- What a request in this phase has done, newest first. -/
def Phase.trace (i : Nat) : Phase → List Entry
  | .found sid row => [⟨i, .getSession sid, some row⟩]
  | .unexpired sid row now => [⟨i, .utcnow, now⟩, ⟨i, .getSession sid, some row⟩]
  | .checked sid row now vm | .claimed sid row now vm | .granted sid row now vm =>
    [⟨i, .getVM row.vmId, some vm⟩, ⟨i, .utcnow, now⟩, ⟨i, .getSession sid, some row⟩]
  | _ => []

/-- What it has made sure of. -/
def Phase.Sure : Phase → Prop
  | .unexpired _ row now => now < row.expiresAt
  | .checked _ row now vm | .claimed _ row now vm | .granted _ row now vm =>
    now < row.expiresAt ∧ VM.terminalReady vm = true
  | _ => True

structure Traced (hist : List Entry) (φs : List Phase) : Prop where
  phase : ∀ (i : Nat) φ, φs[i]? = some φ → (φ.trace i).Sublist hist ∧ φ.Sure
  accepted : ∀ i sid sent, ⟨i, .accept sid, sent⟩ ∈ hist → Accepted hist i sid sent

theorem Phase.trace_step {i : Nat} (hp : PhaseT φ e a φ') (hs : φ.Sure) :
    ((φ'.trace i).Sublist (⟨i, e, a⟩ :: φ.trace i) ∧ φ'.Sure) := by
  cases hp with
  | aside he hφ => exact ⟨List.sublist_cons_self _ _, hs⟩
  | found => exact ⟨List.Sublist.refl _, trivial⟩
  | unexpired hnow => exact ⟨List.Sublist.refl _, hnow⟩
  | checked hready => exact ⟨List.Sublist.refl _, hs, hready⟩
  | claimed => exact ⟨List.sublist_cons_self _ _, hs⟩
  | granted => exact ⟨List.sublist_cons_self _ _, hs⟩
  | _ => exact ⟨List.nil_sublist _, trivial⟩

theorem Accepted.later {hist : List Entry} {entry : Entry} {i : Nat} {sid : SessionId} {sent : Bool}
    (h : Accepted hist i sid sent) : Accepted (entry :: hist) i sid sent := by
  obtain ⟨row, now, vm, hsub, hnow, hready⟩ := h
  exact ⟨row, now, vm, hsub.cons _, hnow, hready⟩

theorem Traced.move {hist : List Entry} {φs : List Phase} {i : Nat} (h : Traced hist φs)
    (hi : φs[i]? = some φ) (hp : PhaseT φ e a φ') :
    Traced (⟨i, e, a⟩ :: hist) (φs.set i φ') := by
  obtain ⟨hsub, hsure⟩ := h.phase i φ hi
  constructor
  · intro j ψ hj
    rcases Crew.phase_set hj with ⟨rfl, rfl⟩ | ⟨-, hj⟩
    · obtain ⟨hstep, hsure'⟩ := Phase.trace_step (i := j) hp hsure
      exact ⟨hstep.trans (hsub.cons_cons _), hsure'⟩
    · obtain ⟨hsub', hsure'⟩ := h.phase j ψ hj
      exact ⟨hsub'.cons _, hsure'⟩
  · intro j sid sent hmem
    rcases List.mem_cons.mp hmem with heq | hmem
    · cases heq
      cases hp with
      | aside he _ => cases he
      | accepted =>
        obtain ⟨hnow, hready⟩ := hsure
        exact ⟨_, _, _, hsub.cons_cons _, hnow, hready⟩
    · exact (h.accepted j sid sent hmem).later

theorem Reachable.terminals {cond : Cond} {t : Sys} (h : Reachable cond t) :
    ∃ φs, t.In φs ∧ Locked t φs ∧ Traced t.hist φs := by
  refine Reachable.phased (I := fun t φs => Locked t φs ∧ Traced t.hist φs) ?_ ?_ h
  · intro t ht
    refine ⟨⟨by simp, by simp⟩, ⟨by simp, ?_⟩⟩
    simp [ht.hist]
  · intro t φs l t' φs' _ _ hI hstep _
    obtain ⟨hl, htr⟩ := hI
    cases hstep with
    | panel _ _ => exact ⟨⟨hl.row, hl.alone⟩, htr⟩
    | crash _ =>
      have hover : ∀ (j : Nat) ψ, (φs.map fun _ => Phase.over)[j]? = some ψ → ψ = .over := by
        intro j ψ hj
        rw [List.getElem?_map, Option.map_eq_some_iff] at hj
        obtain ⟨_, _, rfl⟩ := hj
        rfl
      refine ⟨⟨?_, ?_⟩, ⟨?_, htr.accepted⟩⟩
      · intro j sid row now vm hj
        cases hover j _ hj
      · intro j j' sid row now vm row' now' vm' hj
        cases hover j _ hj
      · intro j ψ hj
        obtain rfl := hover j ψ hj
        exact ⟨List.nil_sublist _, trivial⟩
    | receive r =>
      have hback : ∀ (j : Nat) ψ, (φs ++ [Phase.fresh])[j]? = some ψ → ψ = .fresh ∨ φs[j]? = some ψ := by
        intro j ψ hj
        rw [List.getElem?_append] at hj
        split at hj
        · exact .inr hj
        · rw [List.getElem?_singleton] at hj
          split at hj <;> cases hj
          exact .inl rfl
      have hclaimed : ∀ (j : Nat) sid row now vm, (φs ++ [Phase.fresh])[j]? =
          some (.claimed sid row now vm) → φs[j]? = some (.claimed sid row now vm) := by
        intro j sid row now vm hj
        rcases hback j _ hj with heq | hj
        · cases heq
        · exact hj
      refine ⟨⟨?_, ?_⟩, ⟨?_, htr.accepted⟩⟩
      · intro j sid row now vm hj
        exact hl.row j sid row now vm (hclaimed j sid row now vm hj)
      · intro j j' sid row now vm row' now' vm' hj hj'
        exact hl.alone j j' sid row now vm row' now' vm' (hclaimed j sid row now vm hj)
          (hclaimed j' sid row' now' vm' hj')
      · intro j ψ hj
        rcases hback j ψ hj with rfl | hj
        · exact ⟨List.nil_sublist _, trivial⟩
        · exact htr.phase j ψ hj
    | await hi hp hact =>
      exact ⟨hl.move hi (sessionMove hp hact) rfl rfl, htr.move hi hp⟩

/-- A finished row stays so, in each step of a request in phase `φ`. -/
theorem SessionMove.finished_stays {sid : SessionId} {row : TerminalSession}
    (hm : SessionMove s s' φ φ') (hr : s.sessions.get sid = some row) (hf : row.status.Finished)
    (hlock : ∀ row₀ now vm, φ ≠ .claimed sid row₀ now vm) :
    ∃ row', s'.sessions.get sid = some row' ∧ row'.status.Finished := by
  cases hm with
  | aside hs _ _ => exact ⟨row, by rw [hs, hr], hf⟩
  | inserted hs _ => exact ⟨row, by rw [hs, Table.get_insert_of_some hr], hf⟩
  | @finished _ sid₀ status closedAt hst _ hs _ =>
    rw [hs, Table.get_update, hr]
    split
    · refine ⟨_, rfl, ?_⟩
      cases status with
      | none => exact hf
      | some st => exact hst st rfl
    · exact ⟨row, rfl, hf⟩
  | claimed _ _ _ hs _ => exact ⟨row, by rw [hs, hr], hf⟩
  | @granted sid₀ row₀ now vm hs _ =>
    have hne : sid₀ ≠ sid := by
      intro heq
      subst heq
      exact hlock row₀ now vm rfl
    exact ⟨row, by rw [hs, Table.get_update_ne _ _ hne, hr], hf⟩

theorem Finished.not_open {status : TerminalSessionStatus} (h : status.Finished) :
    status.open = false := by
  rcases h with h | h
  · rw [h]
    rfl
  · rw [h]
    rfl

/-- One step keeps a finished session finished and does not claim it. -/
theorem Sys.Finished.step {cond : Cond} {t t' : Sys} {l : Label} {sid : SessionId}
    (ht : Reachable cond t) (hf : t.Finished sid) (hs : Step t l t') :
    t'.Finished sid ∧ ∀ i, l ≠ .await i (.claim sid) true := by
  obtain ⟨row, hr, hfin⟩ := hf
  obtain ⟨φs, hin, hlock, -⟩ := ht.terminals
  obtain ⟨φs', -, hstep⟩ := In.step hin hs
  cases hstep with
  | panel _ _ => exact ⟨⟨row, hr, hfin⟩, by simp⟩
  | crash _ => exact ⟨⟨row, hr, hfin⟩, by simp⟩
  | receive r => exact ⟨⟨row, hr, hfin⟩, by simp⟩
  | @await i e a sh _ φ φ' hi hp hact =>
    have hm := sessionMove hp hact
    have hnot : ∀ row₀ now vm, φ ≠ .claimed sid row₀ now vm := by
      intro row₀ now vm heq
      subst heq
      obtain ⟨-, row', hr', ho⟩ := hlock.row i sid row₀ now vm hi
      obtain rfl := Option.some.inj (hr.symm.trans hr')
      rw [Finished.not_open hfin] at ho
      cases ho
    refine ⟨hm.finished_stays hr hfin hnot, ?_⟩
    intro j heq
    cases heq
    obtain ⟨input, hact⟩ := hact
    cases input <;> simp only [perform, reduceCtorEq] at hact
    have hr' : t.shared.sessions.get sid = some row := hr
    simp only [hr', Option.any_some, Finished.not_open hfin] at hact
    split at hact <;> simp at hact

/-- In every run, under any interleaving: a session row that is closed or expired stays so and is
not claimed again, and a socket is accepted only after it read the session, a time before its
expiry, and then its VM as live, running and SSH-ready. -/
theorem terminal_sessions {t : Sys} (h : Reachable Cond.any t) :
    (∀ sid t', t.Finished sid → Path Step Cond.any t t' →
      t'.Finished sid ∧ ∀ l t'', Step t' l t'' → ∀ i, l ≠ .await i (.claim sid) true) ∧
    ∀ i sid sent, ⟨i, .accept sid, sent⟩ ∈ t.hist → Accepted t.hist i sid sent := by
  constructor
  · intro sid t' hf hpath
    have hf' : t'.Finished sid := by
      induction hpath with
      | refl => exact hf
      | next hp hstep _ ih => exact (ih.step (Reach.path h hp) hstep).1
    refine ⟨hf', ?_⟩
    intro l t'' hstep
    exact (hf'.step (Reach.path h hpath) hstep).2
  · obtain ⟨φs, -, -, htr⟩ := h.terminals
    exact htr.accepted

/-- The request and the session of an accepted socket. -/
def Entry.accepted : Entry → Option (Nat × SessionId)
  | ⟨i, .accept sid, true⟩ => some (i, sid)
  | _ => none

theorem Entry.eq_of_accepted {entry : Entry} {i : Nat} {sid : SessionId}
    (h : entry.accepted = some (i, sid)) : entry = ⟨i, .accept sid, true⟩ := by
  unfold accepted at h
  split at h
  · cases h
    rfl
  · cases h

namespace Trials
open Scenario

/-- A VM is created, booted and found ready. -/
def ready : List Choice :=
  panel (startup [] 0 ++ create 0 (body "a" named_a) 100 ++ clone "0" 100 ++
    boot "0" 100 "10.0.0.5" ++ identify "0" "10.0.0.5" "10.0.0.6" ++ check)

/-- Request 0 makes a session, and request 1 is its socket, accepted and closed again. -/
def terminal : List Choice :=
  ready ++ [.receive (.createTerminalSession 0)] ++ runs 0 [.none, .nat 0, .none] ++
    [.receive (.terminalWs (some 0))] ++
    runs 1 [.none, .nat 10, .none, .none, .none, .none, .bool true, .bool true, .nat 0, .bool true,
      .bool true, .pump (.done "session_closed"), .none, .nat 20, .none]

theorem terminal_ends : (front.run (fun _ _ _ => true) terminal).any (fun t =>
    (t.sessions.get 0).map TerminalSession.status = some .closed ∧
      (t.hist.any fun entry => entry.accepted = some (1, 0)) = true) = true := by decide +kernel

theorem terminal_runs : (front.run (fun _ _ _ => true) terminal).isSome = true :=
  Option.isSome_of_any terminal_ends

end Trials

open Trials in
theorem terminal_session_closed :
    let t := (front.run (fun _ _ _ => true) terminal).get terminal_runs
    t.Finished 0 ∧ Accepted t.hist 1 0 true := by
  intro t
  have hreach : Reachable Cond.any t := reached (fun _ _ _ _ => trivial) terminal_runs
  obtain ⟨hrow, hany⟩ := of_decide_eq_true (Option.get_of_any_eq_true _ _ terminal_ends)
  have hfin : t.Finished 0 := by
    obtain ⟨row, hr, hs⟩ := Option.map_eq_some_iff.mp hrow
    exact ⟨row, hr, .inl hs⟩
  obtain ⟨hstays, haccepted⟩ := terminal_sessions hreach
  refine ⟨(hstays 0 t hfin (.refl t)).1, haccepted 1 0 true ?_⟩
  obtain ⟨entry, hmem, heq⟩ := List.any_eq_true.mp hany
  rw [decide_eq_true_eq] at heq
  exact Entry.eq_of_accepted heq ▸ hmem

end Clusteration.Front
