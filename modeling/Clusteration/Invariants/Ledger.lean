import Mathlib.Data.List.Nodup
import Clusteration.Invariants.Origin

namespace Clusteration

variable {m m' : View} {l : Label}

theorem flatMap_set {α β : Type} {xs : List α} {f : α → List β} {i : Nat} {a b : α}
    (h : xs[i]? = some a) : (f a ++ (xs.set i b).flatMap f).Perm (f b ++ xs.flatMap f) := by
  induction xs generalizing i with
  | nil => simp at h
  | cons x xs ih =>
    cases i with
    | zero =>
      simp only [List.getElem?_cons_zero, Option.some.injEq] at h
      subst h
      simpa only [List.set_cons_zero, List.flatMap_cons] using List.perm_append_comm_assoc _ _ _
    | succ i =>
      simp only [List.getElem?_cons_succ] at h
      simp only [List.set_cons_succ, List.flatMap_cons]
      refine (List.perm_append_comm_assoc _ _ _).trans ?_
      exact ((ih h).append_left _).trans (List.perm_append_comm_assoc _ _ _)

theorem View.count_held (m : View) (i : JobId) :
    m.held.count i = (m.queue.map Payload.jobId).count i +
      ((m.worker.payloads.map Payload.jobId).count i +
        ((m.boot.payloads.map Payload.jobId).count i +
          ((m.requests.flatMap RequestPhase.payloads).map Payload.jobId).count i)) +
      (m.boot.abandoned.map Prod.fst).count i := by
  simp only [View.held, View.payloads, List.map_append, List.count_append]

/-- A request's turn, in terms of the payloads held. -/
theorem View.count_set {m : View} {n : Nat} {φ : RequestPhase} (h : m.requests[n]? = some φ)
    (φ' : RequestPhase) (i : JobId) :
    (φ.payloads.map Payload.jobId).count i +
      (((m.requests.set n φ').flatMap RequestPhase.payloads).map Payload.jobId).count i =
    (φ'.payloads.map Payload.jobId).count i +
      ((m.requests.flatMap RequestPhase.payloads).map Payload.jobId).count i := by
  have hp := (flatMap_set (f := RequestPhase.payloads) (b := φ') h).map Payload.jobId
  simpa only [List.map_append, List.count_append] using hp.count_eq i

theorem View.queuedCount_update {m m' : View} {j : JobId} {c : JobCore}
    (h : m'.jobs = Function.update m.jobs j (some c)) (i : JobId) :
    m'.queuedCount i =
      if i = j then (if c.status = .queued then 1 else 0) else m.queuedCount i := by
  unfold View.queuedCount
  rw [h]
  by_cases hi : i = j
  · subst hi
    simp
  · simp [hi]

theorem View.queuedCount_some {m : View} {i : JobId} {c : JobCore} (h : m.jobs i = some c) :
    m.queuedCount i = if c.status = .queued then 1 else 0 := by
  simp [View.queuedCount, h]

theorem View.queuedCount_none {m : View} {i : JobId} (h : m.jobs i = none) :
    m.queuedCount i = 0 := by
  simp [View.queuedCount, h]

/-- For each job a step keeps the payloads held in line with its queued row. -/
def View.Balanced (m m' : View) : Prop :=
  ∀ i, m.held.count i = m.queuedCount i → m'.held.count i = m'.queuedCount i

/-- A payload moves, and no row changes. -/
theorem View.Balanced.moved (hj : m'.jobs = m.jobs) (hh : ∀ i, m'.held.count i = m.held.count i) :
    m.Balanced m' := by
  intro i h
  have hq : m'.queuedCount i = m.queuedCount i := by
    unfold View.queuedCount
    rw [hj]
  rw [hh, hq, h]

/-- One row changes, which is queued neither before nor after. -/
theorem View.Balanced.kept {j : JobId} {c₀ c : JobCore} (h₀ : m.jobs j = some c₀)
    (hj : m'.jobs = Function.update m.jobs j (some c)) (hs₀ : c₀.status ≠ .queued)
    (hs : c.status ≠ .queued) (hh : ∀ i, m'.held.count i = m.held.count i) : m.Balanced m' := by
  intro i h
  rw [hh, h, View.queuedCount_update hj]
  by_cases hi : i = j
  · subst hi
    rw [View.queuedCount_some h₀, if_neg hs₀, if_pos rfl, if_neg hs]
  · rw [if_neg hi]

/-- A queued row is taken up, and its payload is held no more. -/
theorem View.Balanced.taken {j : JobId} {c₀ c : JobCore} (h₀ : m.jobs j = some c₀)
    (hj : m'.jobs = Function.update m.jobs j (some c)) (hs₀ : c₀.status = .queued)
    (hs : c.status ≠ .queued) (hh : ∀ i, m.held.count i = [j].count i + m'.held.count i) :
    m.Balanced m' := by
  intro i h
  rw [hh] at h
  rw [View.queuedCount_update hj]
  by_cases hi : i = j
  · subst hi
    rw [View.queuedCount_some h₀, if_pos hs₀, List.count_singleton_self] at h
    rw [if_pos rfl, if_neg hs]
    omega
  · rw [List.count_singleton, if_neg (by simpa using Ne.symm hi)] at h
    rw [if_neg hi, ← h, Nat.zero_add]

/-- A queued row is added, and its payload is held. -/
theorem View.Balanced.added {j : JobId} {c : JobCore} (h₀ : m.jobs j = none)
    (hj : m'.jobs = Function.update m.jobs j (some c)) (hs : c.status = .queued)
    (hh : ∀ i, m'.held.count i = [j].count i + m.held.count i) : m.Balanced m' := by
  intro i h
  rw [hh, h, View.queuedCount_update hj]
  by_cases hi : i = j
  · subst hi
    rw [View.queuedCount_none h₀, List.count_singleton_self, if_pos rfl, if_pos hs]
  · rw [List.count_singleton, if_neg (by simpa using Ne.symm hi), if_neg hi, Nat.zero_add]

/-- The worker holds more payloads, and nobody else holds others. -/
theorem View.count_worker {d : List Payload} (hp : m'.worker.payloads = d ++ m.worker.payloads)
    (hq : m'.queue = m.queue) (hb : m'.boot = m.boot) (hr : m'.requests = m.requests) (i : JobId) :
    m'.held.count i = (d.map Payload.jobId).count i + m.held.count i := by
  rw [View.count_held, View.count_held, hq, hb, hr, hp, List.map_append, List.count_append]
  omega

theorem View.count_worker_same (hp : m'.worker.payloads = m.worker.payloads)
    (hq : m'.queue = m.queue) (hb : m'.boot = m.boot) (hr : m'.requests = m.requests) (i : JobId) :
    m'.held.count i = m.held.count i := by
  have h := View.count_worker (d := []) hp hq hb hr i
  rw [h, List.map_nil, List.count_nil, Nat.zero_add]

/-- One request holds more payloads, and nobody else holds others. -/
theorem View.count_request {n : Nat} {φ φ' : RequestPhase} {d : List Payload}
    (hφ : m.requests[n]? = some φ) (hp : φ'.payloads = d ++ φ.payloads)
    (hr : m'.requests = m.requests.set n φ') (hq : m'.queue = m.queue) (hb : m'.boot = m.boot)
    (hw : m'.worker = m.worker) (i : JobId) :
    m'.held.count i = (d.map Payload.jobId).count i + m.held.count i := by
  have hset := View.count_set hφ φ' i
  rw [hp, List.map_append, List.count_append] at hset
  rw [View.count_held, View.count_held, hq, hb, hw, hr]
  omega

theorem View.count_request_same {n : Nat} {φ φ' : RequestPhase} (hφ : m.requests[n]? = some φ)
    (hp : φ'.payloads = φ.payloads) (hr : m'.requests = m.requests.set n φ')
    (hq : m'.queue = m.queue) (hb : m'.boot = m.boot) (hw : m'.worker = m.worker) (i : JobId) :
    m'.held.count i = m.held.count i := by
  have h := View.count_request (d := []) hφ hp hr hq hb hw i
  rw [h, List.map_nil, List.count_nil, Nat.zero_add]

/-- A step of the worker. -/
theorem Base.balanced_worker (hb : Base m) {e : Eff} {a : Ans e}
    (hm : Move m (.await .worker e a) m') : m.Balanced m' := by
  cases hm with
  | observe _ _ => exact fun i h => h
  | job _ hw _ | vm _ hw _ _ | http _ hw _ _ | ssh _ hw _ _ _ | clock _ hw _ =>
    exact .moved rfl (View.count_worker_same (by rw [hw]; rfl) rfl rfl rfl)
  | @enter p _ _ _ _ _ _ hw _ =>
    obtain ⟨hj, _, _, _⟩ := hb.loaded hw
    exact .taken hj rfl rfl (by simp) (View.count_worker (d := [p]) (by rw [hw]; rfl) rfl rfl rfl)
  | edit _ hw _ _ | fail _ hw _ _ _ =>
    exact .kept (hb.exec hw).job rfl (by simp) (by simp)
      (View.count_worker_same (by rw [hw]; rfl) rfl rfl rfl)
  | finish _ hw _ =>
    refine .kept (hb.exec hw).job rfl (by simp) (by simp) (View.count_worker_same ?_ rfl rfl rfl)
    rw [hw]
    dsimp only
    split <;> rfl
  | @follow v _ j _ hw hj =>
    exact .added hj rfl rfl (View.count_worker (d := [sshPayload j v]) (by rw [hw]; rfl) rfl rfl rfl)
  | followPut _ hw =>
    refine .moved rfl fun i => ?_
    rw [View.count_held, View.count_held]
    simp only [hw, WorkerPhase.payloads, List.map_append, List.count_append, List.map_nil,
      List.count_nil]
    omega

/-- A step of a request. -/
theorem Move.balanced_request {n : Nat} {e : Eff} {a : Ans e}
    (hm : Move m (.await (.request n) e a) m') : m.Balanced m' := by
  cases hm with
  | observe _ _ => exact fun i h => h
  | turn _ hφ ht =>
    exact .moved rfl (View.count_request_same hφ (by cases ht <;> rfl) rfl rfl rfl rfl)
  | @mark _ v _ _ _ _ hφ _ =>
    have hp : (RequestPhase.marked v).payloads = [] := rfl
    exact .moved rfl (View.count_request_same hφ hp rfl rfl rfl rfl)
  | @insert _ φ _ _ job j p _ hφ ha hj hc _ hpj _ =>
    subst hpj
    exact .added hj rfl (by rw [hc])
      (View.count_request (d := [p]) hφ (by cases ha <;> rfl) rfl rfl rfl rfl)
  | @create _ _ _ j _ _ p _ hφ _ hj _ hpj _ =>
    subst hpj
    exact .added hj rfl rfl (View.count_request (d := [p]) hφ rfl rfl rfl rfl rfl)
  | put _ hφ =>
    refine .moved rfl fun i => ?_
    have hset := View.count_set hφ .over i
    rw [View.count_held, View.count_held]
    simp only [RequestPhase.payloads, List.map_nil, List.count_nil, List.map_append,
      List.count_append, List.map_cons] at hset ⊢
    omega

/-- The selection hands the queued rows to the startup. -/
theorem Base.select_counts (hb : Base m) {jobs : List (JobId × Job)} (hboot : m.boot = .started)
    (hjobs : ∀ j ∈ jobs, m.jobs j.1 = some j.2.core ∧ j.2.status = .queued)
    (hnd : (jobs.map Prod.fst).Nodup)
    (hall : ∀ i c, m.jobs i = some c → c.status = .queued → i ∈ jobs.map Prod.fst) (i : JobId) :
    (View.held { m with
      boot := .putting
        ((jobs.filter fun j => !j.2.type.needsPassword).map fun j => requeuePayload j.1 j.2)
        (jobs.filter fun j => j.2.type.needsPassword) }).count i = m.queuedCount i := by
  obtain ⟨hw, hq⟩ := hb.early (.inr (by simp [hboot, BootPhase.early]))
  have hr := hb.closed (by simp [View.Open, hboot])
  have hperm := ((List.filter_append_perm (fun j => j.2.type.needsPassword) jobs).map
    Prod.fst).count_eq i
  rw [View.count_held]
  simp only [hw, hq, hr, WorkerPhase.payloads, BootPhase.payloads, BootPhase.abandoned,
    List.map_map, List.map_nil, List.count_nil, List.flatMap_nil]
  have hcomp : (Payload.jobId ∘ fun j : JobId × Job => requeuePayload j.1 j.2) = Prod.fst := rfl
  rw [hcomp]
  simp only [List.map_append, List.count_append] at hperm
  have hcount : (jobs.map Prod.fst).count i = m.queuedCount i := by
    by_cases hi : i ∈ jobs.map Prod.fst
    · obtain ⟨j, hj, rfl⟩ := List.mem_map.mp hi
      rw [List.nodup_iff_count_eq_one.mp hnd _ hi, View.queuedCount_some (hjobs j hj).1]
      simp [(hjobs j hj).2]
    · rw [List.count_eq_zero_of_not_mem hi]
      cases hc : m.jobs i with
      | none => rw [View.queuedCount_none hc]
      | some c => rw [View.queuedCount_some hc, if_neg fun hs => hi (hall i c hc hs)]
  omega

/-- The startup gives up the jobs whose passwords are lost. -/
theorem View.balanced_abandon {abandoned : List (JobId × Job)} (hboot : m.boot = .putting [] abandoned) :
    m.Balanced { m with
      boot := .over
      jobs := fun i =>
        if i ∈ abandoned.map Prod.fst then (m.jobs i).map fun c => { c with status := .failed }
        else m.jobs i } := by
  intro i h
  rw [View.count_held] at h ⊢
  simp only [hboot, BootPhase.payloads, BootPhase.abandoned, List.map_nil, List.count_nil] at h ⊢
  by_cases hi : i ∈ abandoned.map Prod.fst
  · have hpos := List.count_pos_iff.mpr hi
    have hle : m.queuedCount i ≤ 1 := by
      unfold View.queuedCount
      split <;> omega
    have hzero : ((m.jobs i).map fun c => { c with status := JobStatus.failed }).any
        (fun c => c.status = .queued) = false := by
      cases m.jobs i <;> simp
    simp only [View.queuedCount, if_pos hi, hzero, Bool.false_eq_true, if_false]
    omega
  · have hz := List.count_eq_zero_of_not_mem hi
    simp only [View.queuedCount, if_neg hi] at h ⊢
    omega

theorem Base.step_counts (hb : Base m) (hm : Move m l m') (he : ¬ m'.Early) (i : JobId) :
    m'.held.count i = m'.queuedCount i := by
  cases l with
  | await t e a =>
    cases t with
    | worker =>
      by_cases hw : m.worker = .over
      · cases hm with
        | observe _ _ => exact hb.counts he i
        | job _ hw' _ | vm _ hw' _ _ | enter _ hw' _ | http _ hw' _ _ | ssh _ hw' _ _ _
        | clock _ hw' _ | edit _ hw' _ _ | fail _ hw' _ _ _ | finish _ hw' _ | follow _ hw' _
        | followPut _ hw' =>
          rw [hw] at hw'
          cases hw'
      · exact hb.balanced_worker hm i (hb.counts (hb.late (.inl hw)) i)
    | request n =>
      have hlate : ¬ m.Early := by
        cases hm with
        | observe _ _ => exact he
        | turn _ hφ _ | mark _ hφ _ | insert _ hφ _ _ _ _ _ _ | create _ hφ _ _ _ _ _ | put _ hφ =>
          obtain ⟨ha, hboot⟩ := hb.open_of_request hφ
          simp [View.Early, BootPhase.early, ha, hboot]
      exact hm.balanced_request i (hb.counts hlate i)
    | boot =>
      cases hm with
      | observe _ _ => exact hb.counts he i
      | seed _ _ | recover _ _ _ _ | startWorker _ _ =>
        simp [View.Early, BootPhase.early] at he
      | select _ hboot hjobs hnd hall => exact hb.select_counts hboot hjobs hnd hall i
      | requeue ha hboot =>
        have h := hb.counts (by simp [View.Early, hboot, ha, BootPhase.early]) i
        refine View.Balanced.moved (m := m) (by rfl) (fun i => ?_) i h
        rw [View.count_held, View.count_held]
        simp only [hboot, BootPhase.payloads, BootPhase.abandoned, List.map_cons, List.map_nil,
          List.map_append, List.count_append, List.count_cons, List.count_nil]
        omega
      | abandon ha hboot =>
        have h := hb.counts (by simp [View.Early, hboot, ha, BootPhase.early]) i
        exact View.balanced_abandon hboot i h
  | crash | restart _ =>
    cases hm
    simp [View.Early, BootPhase.early] at he
  | get _ =>
    cases hm with
    | get _ hw hq =>
      have h := hb.counts (hb.late (.inr (by simp [hq]))) i
      refine View.Balanced.moved (m := m) (by rfl) (fun i => ?_) i h
      rw [View.count_held, View.count_held]
      simp only [hw, hq, WorkerPhase.payloads, List.map_cons, List.map_nil, List.count_cons,
        List.count_nil]
      omega
  | receive _ =>
    cases hm with
    | receive _ _ _ =>
      refine View.Balanced.moved (m := m) (by rfl) (fun i => ?_) i (hb.counts he i)
      rw [View.count_held, View.count_held, List.flatMap_append]
      simp [RequestPhase.payloads]

end Clusteration
