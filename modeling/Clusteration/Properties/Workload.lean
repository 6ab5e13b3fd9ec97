import Mathlib
import Clusteration.Properties.RequeueOrder

open Async Transition

namespace Clusteration

/-- The jobs a payload may bring: its own, and the readiness check of a guest that it boots. -/
def Payload.work (p : Payload) : Nat := if p.type.followedUp then 2 else 1

/-- The jobs that may still come of the one the worker is in. -/
def WorkerPhase.work : WorkerPhase → Nat
  | fetched p | gotJob p _ | loaded p _ _ _ => p.work - 1
  | exec w => if w.type.followedUp then 1 else 0
  | succeeded _ => 1
  | inserted p => p.work
  | .over | noVm _ _ | orphan _ => 0

/-- The request may still put a payload. -/
def RequestPhase.owes : RequestPhase → Bool
  | .over => false
  | _ => true

/-- The jobs that may still come of what the panel was asked, without its first `n` requests. -/
def View.work (n : Nat) (m : View) : Nat :=
  (m.queue.map Payload.work).sum + m.worker.work + 2 * (m.requests.drop n).countP RequestPhase.owes

/-- How many jobs the worker has called `dispatch` for. -/
def dispatches (hist : List Ev) : Nat := (dispatched hist).length

theorem Payload.work_le (p : Payload) : p.work ≤ 2 := by
  unfold Payload.work
  split <;> omega

theorem Payload.work_pos (p : Payload) : 1 ≤ p.work := by
  unfold Payload.work
  split <;> omega

theorem dispatches_cons (j : JobId) (hist : List Ev) :
    dispatches (.dispatch j :: hist) = dispatches hist + 1 := by
  have happend := dispatched_append [.dispatch j] hist
  simp only [List.singleton_append] at happend
  unfold dispatches
  rw [happend, List.length_append]
  rfl

theorem dispatches_append {evs hist : List Ev} (h : ∀ ev ∈ evs, ∀ j, ev.takes j = false) :
    dispatches (evs ++ hist) = dispatches hist := by
  unfold dispatches
  rw [dispatched_append, dispatched_of_not_takes h, List.append_nil]

section Step
variable {m m' : View} {l : Label} {n : Nat}

/-- The phases of the requests from `n` on after one of them has moved. -/
theorem owes_set {i : Nat} {φ : RequestPhase} (φ' : RequestPhase) (hn : n ≤ i)
    (hφ : m.requests[i]? = some φ) :
    ((m.requests.set i φ').drop n).countP RequestPhase.owes + (if φ.owes then 1 else 0) =
      (m.requests.drop n).countP RequestPhase.owes + if φ'.owes then 1 else 0 := by
  obtain ⟨hi, hget⟩ := List.getElem?_eq_some_iff.mp hφ
  have hk : i - n < (m.requests.drop n).length := by
    rw [List.length_drop]
    omega
  have hat : (m.requests.drop n)[i - n] = φ := by
    rw [List.getElem_drop]
    simpa [Nat.add_sub_cancel' hn] using hget
  rw [List.drop_set, if_neg (by omega), List.countP_set hk, hat]
  have hpos : φ.owes = true → 1 ≤ (m.requests.drop n).countP RequestPhase.owes := by
    intro howes
    rw [Nat.succ_le_iff, List.countP_pos_iff]
    exact ⟨φ, hat ▸ List.getElem_mem hk, howes⟩
  cases howes : φ.owes with
  | true =>
    have hle := hpos howes
    simp only [if_true]
    omega
  | false => simp

theorem owes_turn {i : Nat} {φ : RequestPhase} (φ' : RequestPhase) (hn : n ≤ i)
    (hφ : m.requests[i]? = some φ) (howes : φ.owes = true) :
    ((m.requests.set i φ').drop n).countP RequestPhase.owes ≤
      (m.requests.drop n).countP RequestPhase.owes := by
  have hset := owes_set φ' hn hφ
  rw [if_pos howes] at hset
  split at hset <;> omega

/-- A step takes as much from what is to come as it adds to what was done, unless a request comes
in. -/
theorem View.work_step (hb : Base m) (hm : Move m l m') (ha : m.alive = true) (ho : m.boot = .over)
    (hl : l ≠ .crash) (hreq : ∀ i e a, l = .await (.request i) e a → n ≤ i)
    (hn : n ≤ m.requests.length) :
    m'.alive = true ∧ m'.boot = .over ∧ m.requests.length ≤ m'.requests.length ∧
      dispatches m'.hist + m'.work n + 2 * m.requests.length ≤
        dispatches m.hist + m.work n + 2 * m'.requests.length := by
  have hboot : ∀ {φ : BootPhase}, m.boot = φ → φ ≠ .over → False := by
    intro φ hφ hne
    exact hne (hφ.symm.trans ho)
  cases hm with
  | crash _ => exact absurd rfl hl
  | restart _ hdead =>
    rw [ha] at hdead
    cases hdead
  | seed _ h | recover _ _ h _ | startWorker _ h | select _ h _ _ _ | requeue _ h | abandon _ h =>
    exact (hboot h (by simp)).elim
  | @get p rest _ hw hq =>
    refine ⟨ha, ho, Nat.le_refl _, ?_⟩
    have hpos := p.work_pos
    simp only [View.work, dispatches_cons, hq, hw, WorkerPhase.work, List.map_cons, List.sum_cons]
    omega
  | receive r _ _ =>
    refine ⟨ha, ho, by simp, ?_⟩
    simp only [View.work, List.drop_append_of_le_length hn, List.countP_append, List.length_append,
      List.length_singleton]
    simp only [List.countP_singleton, RequestPhase.owes, if_true]
    omega
  | observe evs hquiet =>
    have hsame : dispatches (evs ++ m.hist) = dispatches m.hist := by
      apply dispatches_append
      intro ev hev j
      have hq := hquiet ev hev
      cases ev with
      | time _ => rfl
      | _ => exact hq.elim
    exact ⟨ha, ho, Nat.le_refl _, by simp only [View.work, hsame, Nat.le_refl]⟩
  | @job p job _ hw _ | @vm p job v vm _ hw _ _ =>
    refine ⟨ha, ho, Nat.le_refl _, ?_⟩
    simp only [View.work, hw, WorkerPhase.work, Nat.le_refl]
  | @enter p job v vm row f _ hw hrow =>
    refine ⟨ha, ho, Nat.le_refl _, ?_⟩
    have htype : job.type = p.type := congrArg JobCore.type (hb.loaded hw).2.1
    have hsame : dispatches (.enter p.jobId (some row) :: m.hist) = dispatches m.hist := rfl
    simp only [View.work, hsame, hw, WorkerPhase.work, Exec.begin, htype, Payload.work]
    split <;> omega
  | @http w req i stage pve _ hw _ _ =>
    refine ⟨ha, ho, Nat.le_refl _, ?_⟩
    have hsame : dispatches (httpEvents m.pve (some w.caller) req i ++ m.hist) = dispatches m.hist :=
      dispatches_append fun ev hev => httpEvents_takes hev
    simp only [View.work, hsame, hw, WorkerPhase.work, Nat.le_refl]
  | @ssh w ip _ hw _ _ _ =>
    refine ⟨ha, ho, Nat.le_refl _, ?_⟩
    have hsame : dispatches (.sshOk w.v ip :: m.hist) = dispatches m.hist := rfl
    simp only [View.work, hsame, hw, WorkerPhase.work, Nat.le_refl]
  | @clock w stage now _ hw _ =>
    refine ⟨ha, ho, Nat.le_refl _, ?_⟩
    have hsame : dispatches (.time now :: m.hist) = dispatches m.hist := rfl
    simp only [View.work, hsame, hw, WorkerPhase.work, Nat.le_refl]
  | edit _ hw _ _ =>
    refine ⟨ha, ho, Nat.le_refl _, ?_⟩
    simp only [View.work, hw, WorkerPhase.work, Nat.le_refl]
  | fail _ hw _ _ _ =>
    refine ⟨ha, ho, Nat.le_refl _, ?_⟩
    simp only [View.work, hw, WorkerPhase.work]
    omega
  | @finish w f _ hw _ =>
    refine ⟨ha, ho, Nat.le_refl _, ?_⟩
    have hwork : (if w.type.followedUp then WorkerPhase.succeeded w.v else .over).work =
        (WorkerPhase.exec w).work := by
      show _ = if w.type.followedUp then 1 else 0
      split <;> rfl
    simp only [View.work, hw, hwork, Nat.le_refl]
  | follow _ hw _ =>
    refine ⟨ha, ho, Nat.le_refl _, ?_⟩
    simp only [View.work, hw, WorkerPhase.work, Payload.work, sshPayload, JobType.followedUp,
      Bool.false_eq_true, if_false, Nat.le_refl]
  | @followPut p _ hw =>
    refine ⟨ha, ho, Nat.le_refl _, ?_⟩
    simp only [View.work, hw, WorkerPhase.work, List.map_append, List.map_cons, List.map_nil,
      List.sum_append, List.sum_cons, List.sum_nil]
    omega
  | @turn i e a φ φ' _ hφ hturn =>
    have hle := owes_turn φ' (hreq i e a rfl) hφ (by cases hturn <;> rfl)
    refine ⟨ha, ho, by simp, ?_⟩
    simp only [View.work, List.length_set]
    omega
  | @mark i v vm row f _ hφ _ =>
    have hle := owes_turn (.marked v) (hreq i _ _ rfl) hφ rfl
    refine ⟨ha, ho, by simp, ?_⟩
    simp only [View.work, List.length_set]
    omega
  | @insert i φ type v job j p _ hφ hadds _ _ _ _ _ =>
    have hle := owes_turn (.inserted p) (hreq i _ _ rfl) hφ (by cases hadds <;> rfl)
    refine ⟨ha, ho, by simp, ?_⟩
    simp only [View.work, List.length_set]
    omega
  | @create i hostname v j vm job p _ hφ _ _ _ _ _ =>
    have hle := owes_turn (.created p) (hreq i _ _ rfl) hφ rfl
    refine ⟨ha, ho, by simp, ?_⟩
    simp only [View.work, List.length_set]
    omega
  | @put i p _ hφ =>
    have hset := owes_set .over (hreq i _ _ rfl) hφ
    have hp := p.work_le
    refine ⟨ha, ho, by simp, ?_⟩
    simp only [RequestPhase.owes, if_true, Bool.false_eq_true, if_false] at hset
    simp only [View.work, List.length_set, List.map_append, List.map_cons, List.map_nil,
      List.sum_append, List.sum_cons, List.sum_nil]
    omega

end Step

/-- Requests that have returned take no further step. -/
theorem returned_kept {s s' : Sys} {l : Label} {n : Nat} (hs : Step s l s') (hl : l ≠ .crash)
    (ha : s.alive = true) (hn : n ≤ s.requests.length)
    (h : ∀ i p, i < n → s.requests[i]? = some p → Prog.isRet p = true) :
    (∀ i p, i < n → s'.requests[i]? = some p → Prog.isRet p = true) ∧
      ∀ i e a, l = .await (.request i) e a → n ≤ i := by
  cases hs with
  | crash _ => exact absurd rfl hl
  | restart _ hdead =>
    rw [ha] at hdead
    cases hdead
  | receive r _ _ =>
    refine ⟨?_, by simp⟩
    intro i p hi hp
    rw [List.getElem?_append_left (by omega)] at hp
    exact h i p hi hp
  | @request i e k a sh _ hk hact =>
    have hlate : n ≤ i := by
      by_contra hlt
      have hret := h i _ (by omega) hk
      cases hret
    refine ⟨?_, ?_⟩
    · intro j p hj hp
      rw [List.getElem?_set_ne (by omega)] at hp
      exact h j p hj hp
    · intro j e' a' heq
      cases heq
      exact hlate
  | _ => exact ⟨h, by simp⟩

/-- The same over a piece of a run without a crash, from a moment when nothing is in flight. -/
theorem work_path {s s' : Sys} {t : Abs} {n : Nat} (hr : Refines s t) (hreach : AReachable .any t)
    (hp : Path Step Cond.uncrashed.ok s s') (ha : s.alive = true) (hboot : t.boot = .over)
    (hn : n ≤ s.requests.length)
    (hret : ∀ i p, i < n → s.requests[i]? = some p → Prog.isRet p = true) :
    ∃ t', Refines s' t' ∧ AReachable .any t' ∧ s'.alive = true ∧ t'.boot = .over ∧
      s.requests.length ≤ s'.requests.length ∧
      (∀ i p, i < n → s'.requests[i]? = some p → Prog.isRet p = true) ∧
      dispatches s'.shared.hist + t'.view.work n + 2 * s.requests.length ≤
        dispatches s.shared.hist + t.view.work n + 2 * s'.requests.length := by
  induction hp with
  | refl => exact ⟨t, hr, hreach, ha, hboot, Nat.le_refl _, hret, Nat.le_refl _⟩
  | @next s₁ s₂ l _ hs hok ih =>
    obtain ⟨t₁, hr₁, hreach₁, ha₁, hboot₁, hlen₁, hret₁, hwork₁⟩ := ih
    obtain ⟨t₂, hs₂, hr₂⟩ := hr₁.step hs
    have hlength : ∀ {s t}, Refines s t → t.view.requests.length = s.requests.length :=
      fun hr => hr.requests.length_eq.symm
    obtain ⟨hret₂, hlate⟩ := returned_kept hs hok ha₁ (by omega) hret₁
    have halive : t₁.view.alive = true := hr₁.alive.symm.trans ha₁
    obtain ⟨halive₂, hboot₂, hlen₂, hwork₂⟩ := View.work_step hreach₁.base
      (hreach₁.base.move hs₂) halive hboot₁ hok hlate (by rw [hlength hr₁]; omega)
    rw [hlength hr₁, hlength hr₂] at hlen₂ hwork₂
    have hhist : ∀ {s t}, Refines s t → t.view.hist = s.shared.hist :=
      fun hr => congrArg Shared.hist hr.shared.symm
    rw [hhist hr₁, hhist hr₂] at hwork₂
    have halive' : s₂.alive = true := hr₂.alive.trans halive₂
    exact ⟨t₂, hr₂, .next hreach₁ hs₂ trivial, halive', hboot₂, by omega, hret₂, by omega⟩

/-- What the worker is given to do: since a moment when nothing is in flight, and as long as the
process lives, `dispatch` is called at most twice for each request, and once or twice for each payload
that waited. -/
theorem dispatches_bounded {s s' : Sys} (h : Reachable .any s) (hb : s.Between)
    (hp : Path Step Cond.uncrashed.ok s s') :
    dispatches s'.shared.hist ≤ dispatches s.shared.hist + (s.shared.queue.map Payload.work).sum +
      2 * (s'.requests.length - s.requests.length) := by
  obtain ⟨t, ht, hr⟩ := h.abstract
  have hret : ∀ i p, i < s.requests.length → s.requests[i]? = some p → Prog.isRet p = true :=
    fun i p _ hp => hb.answered p (List.mem_of_getElem? hp)
  obtain ⟨t', -, -, -, -, hlen, -, hwork⟩ :=
    work_path hr ht hp hb.alive (hr.boot_over hb.started) (Nat.le_refl _) hret
  have hstart : t.view.work s.requests.length = (s.shared.queue.map Payload.work).sum := by
    have hworker : t.view.worker = .over := hr.worker_over hb.idle
    have hqueue : t.view.queue = s.shared.queue := congrArg Shared.queue hr.shared.symm
    have hdrop : t.view.requests.drop s.requests.length = [] := by
      rw [List.drop_eq_nil_iff]
      exact Nat.le_of_eq hr.requests.length_eq.symm
    simp [View.work, hworker, hqueue, hdrop, WorkerPhase.work]
  omega

open Scenario in
/-- The creation of a VM brings the worker two jobs, and no more may come of it. -/
theorem dispatches_bounded_creation :
    ∃ s s', Reachable .any s ∧ s.Between ∧ Path Step Cond.uncrashed.ok s s' ∧
      dispatches s'.shared.hist = 2 ∧
      dispatches s'.shared.hist ≤ dispatches s.shared.hist +
        (s.shared.queue.map Payload.work).sum + 2 * (s'.requests.length - s.requests.length) := by
  have hrun : (panel.run (fun _ _ _ => true) (startup [] 0 ++ create 0 (body "a" named_a) 100)).any
      (fun s => decide s.Between && (s.run (fun _ l _ => Cond.uncrashedCheck l)
        (clone "0" 100 ++ boot "0" 100 "10.0.0.5" ++ identify "0" "10.0.0.5" "10.0.0.6" ++ check)).any
          fun s' => dispatches s'.shared.hist = 2) = true := by
    decide +kernel
  obtain ⟨s, hs, hbetween⟩ := evaluated_any hrun
  rw [Bool.and_eq_true, decide_eq_true_eq, Option.any_eq_true] at hbetween
  obtain ⟨hbetween, s', hs', htwo⟩ := hbetween
  have hpath : Path Step Cond.uncrashed.ok s s' :=
    run_path (fun _ _ _ h => Cond.uncrashedCheck_sound h) hs' (.refl s)
  exact ⟨s, s', hs, hbetween, hpath, by simpa using htwo, dispatches_bounded hs hbetween hpath⟩

end Clusteration
