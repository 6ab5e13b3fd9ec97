import Clusteration.Properties.JobLife

open Transition

namespace Clusteration

/-- The jobs the worker has called `dispatch` for, the oldest first. -/
def dispatched (evs : List Ev) : List JobId :=
  (evs.filterMap fun
    | .dispatch j => some j
    | _ => none).reverse

/-- The jobs it has called `dispatch` for since the history was `hist`. -/
def takenSince (hist hist' : List Ev) : List JobId :=
  dispatched (hist'.take (hist'.length - hist.length))

/-- The jobs that have begun, the oldest first. -/
def entered (evs : List Ev) : List JobId :=
  (evs.filterMap fun
    | .enter j _ => some j
    | _ => none).reverse

/-- The jobs that have begun since the history was `hist`. -/
def begunSince (hist hist' : List Ev) : List JobId :=
  entered (hist'.take (hist'.length - hist.length))

/-- The keys of the jobs that `requeue_queued_jobs` puts back. -/
def resumed (jobs : List (JobId × Job)) : List JobId :=
  (jobs.filter fun j => !j.2.type.needsPassword).map Prod.fst

/-- Of two resumed jobs of one VM, the one that is to go first does so in `order`. -/
def InOrder (before : JobId → JobId → Prop) (jobs : List (JobId × Job)) (order : List JobId) : Prop :=
  ∀ a ∈ jobs, ∀ b ∈ jobs, a.2.type.needsPassword = false → b.2.type.needsPassword = false →
    a.2.vmId = b.2.vmId → before a.1 b.1 → [a.1, b.1].Sublist order

/-- The request for `i` was accepted before the one for `k`: rows get their keys in this order. -/
def Accepted (i k : JobId) : Prop := i < k

def Cond.uncrashed : Cond := fun _ l _ => l ≠ .crash

/-- What the worker has taken since `s₁`, and then what waits. -/
def Sys.executed (s₂ s₁ : Sys) : List JobId :=
  takenSince s₁.shared.hist s₂.shared.hist ++ s₂.shared.queue.map Payload.jobId

/-- However the process goes on without a crash, `k` begins only after `i` has. -/
def Sys.Precedes (s : Sys) (i k : JobId) : Prop :=
  ∀ s', Path Step Cond.uncrashed.ok s s' → k ∈ begunSince s.shared.hist s'.shared.hist →
    [i, k].Sublist (begunSince s.shared.hist s'.shared.hist)

/-- Since the history was `hist`, the jobs `ids` have been taken, or wait, in this order. -/
structure View.Scheduled (m : View) (ids : List JobId) (hist : List Ev) : Prop where
  alive : m.alive = true
  late : m.boot.early = false
  rows : ∀ i ∈ ids, ∃ c, m.jobs i = some c
  order : ∃ evs, m.hist = evs ++ hist ∧ (dispatched evs ++
    (m.queue ++ m.boot.payloads).map Payload.jobId).filter (fun i => i ∈ ids) = ids
  worker : ∀ p, m.worker = .inserted p → p.jobId ∉ ids
  requests : ∀ φ ∈ m.requests, ∀ p ∈ φ.payloads, p.jobId ∉ ids

theorem dispatched_append (evs evs' : List Ev) :
    dispatched (evs ++ evs') = dispatched evs' ++ dispatched evs := by
  simp [dispatched, List.filterMap_append]

theorem dispatched_of_not_takes {evs : List Ev} (h : ∀ ev ∈ evs, ∀ j, ev.takes j = false) :
    dispatched evs = [] := by
  unfold dispatched
  rw [List.reverse_eq_nil_iff, List.filterMap_eq_nil_iff]
  intro ev hev
  cases ev with
  | dispatch j =>
    have htakes := h _ hev j
    simp [Ev.takes] at htakes
  | _ => rfl

section Step
variable {m m' : View} {l : Label} {ids : List JobId} {hist : List Ev}

/-- A step that takes up no job and leaves the queue and the startup alone. -/
theorem View.Scheduled.order_kept (h : m.Scheduled ids hist) (hm : Move m l m')
    (hno : ∀ p rest, l = .get p → m.queue ≠ p :: rest) (hq : m'.queue = m.queue)
    (hboot : m'.boot.payloads = m.boot.payloads) :
    ∃ evs, m'.hist = evs ++ hist ∧ (dispatched evs ++
      (m'.queue ++ m'.boot.payloads).map Payload.jobId).filter (fun i => i ∈ ids) = ids := by
  obtain ⟨evs, hist₁, horder⟩ := h.order
  rw [hq, hboot]
  have hnew : ∃ evs', m'.hist = evs' ++ m.hist ∧ dispatched evs' = [] := by
    cases hm with
    | get _ _ hqueue => exact absurd hqueue (hno _ _ rfl)
    | observe evs' hquiet =>
      refine ⟨evs', rfl, dispatched_of_not_takes fun ev hev j => ?_⟩
      have hq := hquiet ev hev
      cases ev with
      | dispatch _ | enter _ _ => exact hq.elim
      | _ => rfl
    | enter _ _ _ => exact ⟨[_], rfl, rfl⟩
    | ssh _ _ _ _ _ | clock _ _ _ => exact ⟨[_], rfl, rfl⟩
    | http _ _ _ _ => exact ⟨_, rfl, dispatched_of_not_takes fun ev hev => httpEvents_takes hev⟩
    | _ => exact ⟨[], rfl, rfl⟩
  obtain ⟨evs', hist₂, hnil⟩ := hnew
  refine ⟨evs' ++ evs, ?_, ?_⟩
  · rw [hist₂, hist₁, List.append_assoc]
  · rw [dispatched_append, hnil, List.append_nil]
    exact horder

theorem View.Scheduled.requests_set (h : m.Scheduled ids hist) {i : Nat} {φ φ' : RequestPhase}
    (hφ : m.requests[i]? = some φ)
    (hnew : ∀ p ∈ φ'.payloads, p ∈ φ.payloads ∨ p.jobId ∉ ids) :
    ∀ ψ ∈ m.requests.set i φ', ∀ p ∈ ψ.payloads, p.jobId ∉ ids := by
  intro ψ hψ p hp
  rcases List.mem_or_eq_of_mem_set hψ with hψ | rfl
  · exact h.requests ψ hψ p hp
  · rcases hnew p hp with hp | hp
    · exact h.requests φ (List.mem_of_getElem? hφ) p hp
    · exact hp

/-- Putting another job's payload into the queue leaves the order of these. -/
theorem filter_put {taken : List JobId} {queue rest : List Payload} {p : Payload}
    (hp : p.jobId ∉ ids) :
    (taken ++ ((queue ++ [p]) ++ rest).map Payload.jobId).filter (fun i => i ∈ ids) =
      (taken ++ (queue ++ rest).map Payload.jobId).filter (fun i => i ∈ ids) := by
  simp [List.filter_append, hp]

theorem View.Scheduled.step (h : m.Scheduled ids hist) (hb : Base m) (hm : Move m l m')
    (hl : l ≠ .crash) : m'.Scheduled ids hist := by
  have hrows : ∀ i ∈ ids, ∃ c, m'.jobs i = some c := by
    intro i hi
    obtain ⟨c, hc⟩ := h.rows i hi
    obtain ⟨c', hc', _⟩ := hm.jobs_forward hb hc
    exact ⟨c', hc'⟩
  have hfresh : ∀ j, m.jobs j = none → j ∉ ids := by
    intro j hj hmem
    obtain ⟨c, hc⟩ := h.rows j hmem
    rw [hj] at hc
    cases hc
  have hnoget : ∀ {t e a}, l = .await t e a → ∀ p rest, l = .get p → m.queue ≠ p :: rest := by
    intro t e a hawait p rest hget
    rw [hawait] at hget
    cases hget
  have hearly : ∀ {φ : BootPhase}, φ.early = true → m.boot ≠ φ := by
    intro φ hφ hboot
    have hlate := h.late
    rw [hboot, hφ] at hlate
    cases hlate
  obtain ⟨evs, hist₁, horder⟩ := h.order
  have hmove := hm
  cases hm with
  | crash _ => exact absurd rfl hl
  | restart _ hdead =>
    rw [h.alive] at hdead
    cases hdead
  | seed _ hboot => exact absurd hboot (hearly rfl)
  | recover _ _ hboot _ => exact absurd hboot (hearly rfl)
  | startWorker _ hboot => exact absurd hboot (hearly rfl)
  | select _ hboot _ _ _ => exact absurd hboot (hearly rfl)
  | @get p rest _ _ hq =>
    refine ⟨h.alive, h.late, hrows, ⟨.dispatch p.jobId :: evs, ?_, ?_⟩, fun p hp => ?_, h.requests⟩
    · simp [hist₁]
    · have htaken : dispatched (.dispatch p.jobId :: evs) = dispatched evs ++ [p.jobId] :=
        dispatched_append [.dispatch p.jobId] evs
      rw [htaken]
      rw [hq] at horder
      simpa using horder
    · cases hp
  | receive r _ _ =>
    refine ⟨h.alive, h.late, hrows, h.order_kept hmove (fun p rest hg => by cases hg) rfl rfl, h.worker,
      fun φ hφ p hp => ?_⟩
    rcases List.mem_append.mp hφ with hφ | hφ
    · exact h.requests φ hφ p hp
    · rw [List.mem_singleton.mp hφ] at hp
      cases hp
  | observe _ _ =>
    exact ⟨h.alive, h.late, hrows, h.order_kept hmove (hnoget rfl) rfl rfl, h.worker, h.requests⟩
  | @requeue p rest abandoned _ hboot =>
    refine ⟨h.alive, rfl, hrows, ⟨evs, hist₁, ?_⟩, h.worker, h.requests⟩
    rw [hboot] at horder
    simpa [BootPhase.payloads] using horder
  | abandon _ hboot =>
    refine ⟨h.alive, rfl, hrows, h.order_kept hmove (hnoget rfl) rfl ?_, h.worker, h.requests⟩
    rw [hboot]
    rfl
  | job _ _ _ | vm _ _ _ _ | enter _ _ _ | http _ _ _ _ | ssh _ _ _ _ _ | clock _ _ _ | edit _ _ _ _
  | fail _ _ _ _ _ =>
    exact ⟨h.alive, h.late, hrows, h.order_kept hmove (hnoget rfl) rfl rfl, fun p hp => (by cases hp),
      h.requests⟩
  | finish _ _ _ =>
    refine ⟨h.alive, h.late, hrows, h.order_kept hmove (hnoget rfl) rfl rfl, fun p hp => ?_, h.requests⟩
    dsimp only at hp
    split at hp <;> cases hp
  | @follow v job j _ _ hj =>
    refine ⟨h.alive, h.late, hrows, h.order_kept hmove (hnoget rfl) rfl rfl, fun p hp => ?_, h.requests⟩
    cases hp
    exact hfresh j hj
  | @followPut p _ hw =>
    refine ⟨h.alive, h.late, hrows, ⟨evs, hist₁, ?_⟩, fun p hp => (by cases hp), h.requests⟩
    rw [filter_put (h.worker p hw)]
    exact horder
  | turn _ hφ ht =>
    refine ⟨h.alive, h.late, hrows, h.order_kept hmove (hnoget rfl) rfl rfl, h.worker,
      h.requests_set hφ fun p hp => ?_⟩
    cases ht with
    | unlock => exact .inl hp
    | _ => cases hp
  | mark _ hφ _ =>
    exact ⟨h.alive, h.late, hrows, h.order_kept hmove (hnoget rfl) rfl rfl, h.worker,
      h.requests_set hφ fun p hp => by cases hp⟩
  | insert _ hφ _ hj _ _ hpj _ | create _ hφ _ hj _ hpj _ =>
    refine ⟨h.alive, h.late, hrows, h.order_kept hmove (hnoget rfl) rfl rfl, h.worker,
      h.requests_set hφ fun p hp => .inr ?_⟩
    rw [List.mem_singleton.mp hp, hpj]
    exact hfresh _ hj
  | @put i p _ hφ =>
    refine ⟨h.alive, h.late, hrows, ⟨evs, hist₁, ?_⟩, h.worker,
      h.requests_set hφ fun p hp => by cases hp⟩
    have hp : p.jobId ∉ ids := h.requests _ (List.mem_of_getElem? hφ) p (by simp [RequestPhase.payloads])
    rw [filter_put hp]
    exact horder

/-- The restart has just selected the queued jobs. -/
theorem View.Scheduled.select (hb : Base m) (hboot : m.boot = .started) (ha : m.alive = true)
    {jobs : List (JobId × Job)} (hrows : ∀ j ∈ jobs, m.jobs j.1 = some j.2.core ∧ j.2.status = .queued) :
    View.Scheduled { m with
      boot := .putting
        ((jobs.filter fun j => !j.2.type.needsPassword).map fun j => requeuePayload j.1 j.2)
        (jobs.filter fun j => j.2.type.needsPassword) } (resumed jobs) m.hist := by
  have hearly : m.Early := .inr (by rw [hboot]; rfl)
  obtain ⟨hworker, hqueue⟩ := hb.early hearly
  have hclosed : m.requests = [] := by
    apply hb.closed
    intro ho
    rw [ho.2] at hboot
    cases hboot
  refine ⟨ha, rfl, fun i hi => ?_, ⟨[], rfl, ?_⟩, fun p hp => ?_, fun φ hφ => ?_⟩
  · obtain ⟨j, hj, rfl⟩ := List.mem_map.mp hi
    exact ⟨_, (hrows j (List.mem_filter.mp hj).1).1⟩
  · have hids : ((jobs.filter fun j => !j.2.type.needsPassword).map fun j =>
        requeuePayload j.1 j.2).map Payload.jobId = resumed jobs := by
      rw [List.map_map]
      rfl
    simp only [hqueue, List.nil_append, BootPhase.payloads, hids, dispatched, List.filterMap_nil,
      List.reverse_nil]
    rw [List.filter_eq_self]
    intro i hi
    simpa using hi
  · rw [hworker] at hp
    cases hp
  · rw [hclosed] at hφ
    cases hφ

end Step

/-- The job the worker has fetched and has not begun. -/
def WorkerPhase.hand : WorkerPhase → List JobId
  | fetched p | gotJob p _ | loaded p _ _ _ => [p.jobId]
  | _ => []

/-- Since the history was `hist` and the worker had `first` in its hand, it has begun its jobs in the
order in which it took them. -/
structure View.Sequenced (m : View) (first : List JobId) (hist : List Ev) : Prop where
  alive : m.alive = true
  order : ∃ evs, m.hist = evs ++ hist ∧ entered evs ++ m.worker.hand = first ++ dispatched evs

theorem entered_append (evs evs' : List Ev) : entered (evs ++ evs') = entered evs' ++ entered evs := by
  simp [entered, List.filterMap_append]

theorem entered_of_not_takes {evs : List Ev} (h : ∀ ev ∈ evs, ∀ j, ev.takes j = false) :
    entered evs = [] := by
  unfold entered
  rw [List.reverse_eq_nil_iff, List.filterMap_eq_nil_iff]
  intro ev hev
  cases ev with
  | enter j row =>
    have htakes := h _ hev j
    simp [Ev.takes] at htakes
  | _ => rfl

section Hands
variable {m m' : View} {l : Label} {first : List JobId} {hist evs' : List Ev}

theorem View.Sequenced.kept (h : m.Sequenced first hist) (ha : m'.alive = true)
    (hnew : m'.hist = evs' ++ m.hist) (hnot : ∀ ev ∈ evs', ∀ j, ev.takes j = false)
    (hhand : m'.worker.hand = m.worker.hand) : m'.Sequenced first hist := by
  obtain ⟨evs, hist₁, horder⟩ := h.order
  refine ⟨ha, evs' ++ evs, ?_, ?_⟩
  · rw [hnew, hist₁, List.append_assoc]
  · rw [entered_append, dispatched_append, entered_of_not_takes hnot, dispatched_of_not_takes hnot,
      hhand, List.append_nil, List.append_nil]
    exact horder

theorem View.Sequenced.step (h : m.Sequenced first hist) (hm : Move m l m') (hl : l ≠ .crash) :
    m'.Sequenced first hist := by
  obtain ⟨evs, hist₁, horder⟩ := h.order
  have hnone : ∀ ev ∈ ([] : List Ev), ∀ j, ev.takes j = false := fun ev hev => by cases hev
  cases hm with
  | crash _ => exact absurd rfl hl
  | restart _ hdead =>
    rw [h.alive] at hdead
    cases hdead
  | @get p rest _ hw _ =>
    refine ⟨h.alive, .dispatch p.jobId :: evs, by simp [hist₁], ?_⟩
    have htaken : dispatched (.dispatch p.jobId :: evs) = dispatched evs ++ [p.jobId] :=
      dispatched_append [.dispatch p.jobId] evs
    rw [hw] at horder
    rw [htaken, ← List.append_assoc, ← horder]
    simp [WorkerPhase.hand, entered]
  | @enter p job v vm row _ _ hw _ =>
    refine ⟨h.alive, .enter p.jobId (some row) :: evs, by simp [hist₁], ?_⟩
    have hbegun : entered (.enter p.jobId (some row) :: evs) = entered evs ++ [p.jobId] :=
      entered_append [.enter p.jobId (some row)] evs
    rw [hw] at horder
    rw [hbegun]
    simpa [WorkerPhase.hand, dispatched] using horder
  | observe evs' hquiet =>
    refine h.kept h.alive rfl (fun ev hev j => ?_) rfl
    have hq := hquiet ev hev
    cases ev with
    | dispatch _ | enter _ _ => exact hq.elim
    | _ => rfl
  | http _ hw _ _ =>
    refine h.kept h.alive rfl (fun ev hev => httpEvents_takes hev) ?_
    rw [hw]
    rfl
  | @ssh w ip _ hw _ _ _ =>
    have hadded : ({ m with worker := .exec { w with stage := .reached }
                            hist := .sshOk w.v ip :: m.hist } : View).hist = [.sshOk w.v ip] ++ m.hist := rfl
    refine h.kept h.alive hadded (fun ev hev j => ?_) ?_
    · rw [List.mem_singleton.mp hev]
      rfl
    · rw [hw]
      rfl
  | @clock w stage now _ hw _ =>
    have hadded : ({ m with worker := .exec { w with stage }
                            hist := .time now :: m.hist } : View).hist = [.time now] ++ m.hist := rfl
    refine h.kept h.alive hadded (fun ev hev j => ?_) ?_
    · rw [List.mem_singleton.mp hev]
      rfl
    · rw [hw]
      rfl
  | job _ hw _ | vm _ hw _ _ | edit _ hw _ _ | fail _ hw _ _ _ | follow _ hw _ | followPut _ hw =>
    refine h.kept h.alive (List.nil_append _).symm hnone ?_
    rw [hw]
    rfl
  | finish _ hw _ =>
    refine h.kept h.alive (List.nil_append _).symm hnone ?_
    rw [hw]
    dsimp only
    split <;> rfl
  | _ => exact h.kept h.alive (List.nil_append _).symm hnone rfl

end Hands

theorem View.held_nodup {m : View} (hb : Base m) (hlate : ¬ m.Early) : m.held.Nodup := by
  rw [List.nodup_iff_count_le_one]
  intro i
  rw [hb.counts hlate i]
  unfold View.queuedCount
  split <;> omega

/-- What waits in `JOB_QUEUE` waits nowhere else. -/
theorem View.Scheduled.queued {m : View} (hb : Base m) (hq : m.queue ≠ []) :
    m.Scheduled (m.queue.map Payload.jobId) m.hist ∧ (m.queue.map Payload.jobId).Nodup ∧
      ∀ i ∈ m.queue.map Payload.jobId, i ∉ m.worker.hand := by
  have hlate : ¬ m.Early := fun he => hq (hb.early he).2
  have hnodup := (List.nodup_append.mp (m.held_nodup hb hlate)).1
  unfold View.payloads at hnodup
  rw [List.map_append, List.nodup_append, List.map_append] at hnodup
  obtain ⟨hqueue, _, hdisjoint⟩ := hnodup
  have hworker : ∀ i ∈ m.queue.map Payload.jobId, i ∉ m.worker.payloads.map Payload.jobId :=
    fun i hi hmem => hdisjoint i hi i (List.mem_append_left _ hmem) rfl
  have hrest : ∀ i ∈ m.queue.map Payload.jobId,
      i ∉ (m.boot.payloads ++ m.requests.flatMap RequestPhase.payloads).map Payload.jobId :=
    fun i hi hmem => hdisjoint i hi i (List.mem_append_right _ hmem) rfl
  have hboot : ∀ i ∈ m.boot.payloads.map Payload.jobId, i ∉ m.queue.map Payload.jobId := by
    intro i hi hmem
    apply hrest i hmem
    rw [List.map_append]
    exact List.mem_append_left _ hi
  refine ⟨⟨?_, ?_, ?_, ⟨[], rfl, ?_⟩, ?_, ?_⟩, hqueue, ?_⟩
  · exact Bool.of_not_eq_false fun ha => hlate (.inl ha)
  · exact Bool.of_not_eq_true fun ha => hlate (.inr ha)
  · intro i hi
    obtain ⟨p, hp, rfl⟩ := List.mem_map.mp hi
    obtain ⟨⟨v, _, hrow⟩, _⟩ := hb.carried (View.mem_payloads.mpr (.inl hp))
    exact ⟨_, hrow⟩
  · have hnil : (m.boot.payloads.map Payload.jobId).filter
        (fun i => i ∈ m.queue.map Payload.jobId) = [] := by
      rw [List.filter_eq_nil_iff]
      intro i hi
      simpa using hboot i hi
    have htaken : dispatched [] = [] := rfl
    rw [htaken, List.nil_append, List.map_append, List.filter_append, hnil, List.append_nil,
      List.filter_eq_self]
    intro i hi
    exact decide_eq_true hi
  · intro p hw hmem
    apply hworker p.jobId hmem
    rw [hw]
    exact List.mem_singleton_self _
  · intro φ hφ p hp hmem
    apply hrest p.jobId hmem
    rw [List.map_append]
    exact List.mem_append_right _ (List.mem_map_of_mem (List.mem_flatMap.mpr ⟨φ, hφ, hp⟩))
  · intro i hi hmem
    apply hworker i hi
    cases hw : m.worker <;> rw [hw] at hmem <;> first | exact hmem | cases hmem

section Run
variable {t t' : Abs} {ids first : List JobId} {hist : List Ev}

theorem AReachable.scheduled_path (ht : AReachable .any t) (h : t.view.Scheduled ids hist)
    (hp : Path AStep Cond.uncrashed.aok t t') : t'.view.Scheduled ids hist ∧ AReachable .any t' := by
  induction hp with
  | refl => exact ⟨h, ht⟩
  | next _ hs hok ih =>
    obtain ⟨hsched, hreach⟩ := ih
    exact ⟨hsched.step hreach.base (hreach.base.move hs) hok, .next hreach hs trivial⟩

theorem AReachable.sequenced_path (ht : AReachable .any t) (h : t.view.Sequenced first hist)
    (hp : Path AStep Cond.uncrashed.aok t t') : t'.view.Sequenced first hist ∧ AReachable .any t' := by
  induction hp with
  | refl => exact ⟨h, ht⟩
  | next _ hs hok ih =>
    obtain ⟨hseq, hreach⟩ := ih
    exact ⟨hseq.step (hreach.base.move hs) hok, .next hreach hs trivial⟩

end Run

theorem sublist_of_append {i k : JobId} {a b : List JobId} (h : [i, k].Sublist (a ++ b))
    (hk : k ∉ b) : [i, k].Sublist a := by
  obtain ⟨l₁, l₂, heq, ha, hb⟩ := List.sublist_append_iff.mp h
  have hnil : l₂ = [] := by
    rcases List.eq_nil_or_concat l₂ with hnil | ⟨l, x, rfl⟩
    · exact hnil
    · rw [List.concat_eq_append, ← List.append_assoc] at heq
      have hlast : k = x := by simpa using congrArg List.getLast? heq
      exact absurd (hb.subset (by simp [hlast])) hk
  rw [hnil, List.append_nil] at heq
  rwa [heq]

/-- `JOB_QUEUE` is first in, first out. -/
theorem Reachable.queue_precedes {s : Sys} (h : Reachable .any s) {i k : JobId}
    (hik : [i, k].Sublist (s.shared.queue.map Payload.jobId)) : s.Precedes i k := by
  obtain ⟨t, ht, hr⟩ := h.abstract
  intro s' hp hbegun
  obtain ⟨t', hp', hr'⟩ := hr.path hp
  rw [hr.shared] at hik hbegun ⊢
  rw [hr'.shared] at hbegun ⊢
  have hk : k ∈ t.view.queue.map Payload.jobId := hik.subset (by simp)
  have hne : t.view.queue ≠ [] := by
    rintro hnil
    rw [hnil] at hk
    cases hk
  obtain ⟨hsched, hnodup, hfree⟩ := View.Scheduled.queued ht.base hne
  have hstart : t.view.Sequenced t.view.worker.hand t.view.hist :=
    ⟨hsched.alive, [], rfl, by simp [entered, dispatched]⟩
  obtain ⟨evs, hist, horder⟩ := (ht.scheduled_path hsched hp').1.order
  obtain ⟨evs₁, hist₁, hseq⟩ :=
    (ht.sequenced_path hstart hp').1.order
  obtain rfl : evs = evs₁ := List.append_cancel_right (hist.symm.trans hist₁)
  have hsince : begunSince t.shared.hist t'.shared.hist = entered evs := by
    have hview : t'.shared.hist = evs ++ t.shared.hist := hist
    unfold begunSince
    rw [hview, List.length_append, Nat.add_sub_cancel, List.take_left]
  rw [hsince] at hbegun ⊢
  -- `k` stands once among what was taken and what still waits
  have hcount := congrArg (List.count k) horder
  rw [List.count_filter (by simpa using hk), List.count_eq_one_of_mem hnodup hk,
    List.count_append] at hcount
  have hseqCount := congrArg (List.count k) hseq
  rw [List.count_append, List.count_append, List.count_eq_zero_of_not_mem (hfree k hk)] at hseqCount
  have hpos := List.count_pos_iff.mpr hbegun
  have htaken : [i, k].Sublist (dispatched evs) := by
    have hall : [i, k].Sublist (dispatched evs ++
        (t'.view.queue ++ t'.view.boot.payloads).map Payload.jobId) := by
      have hids : [i, k].Sublist (t.view.queue.map Payload.jobId) := hik
      rw [← horder] at hids
      exact hids.trans List.filter_sublist
    apply sublist_of_append hall
    rw [← List.count_eq_zero]
    omega
  apply sublist_of_append (b := t'.view.worker.hand)
  · rw [hseq]
    exact htaken.trans (List.sublist_append_right _ _)
  · rw [← List.count_eq_zero]
    omega

/-- The queued rows are `rows`, and no process has selected them yet. -/
structure View.Dormant (m : View) (rows : JobId → JobCore → Prop) : Prop where
  early : m.Early
  queued : ∀ i c, m.jobs i = some c ∧ c.status = .queued ↔ rows i c

theorem JobCore.interrupted_queued (row : Option JobCore) (c : JobCore) :
    row.map JobCore.interrupted = some c ∧ c.status = .queued ↔ row = some c ∧ c.status = .queued := by
  cases row with
  | none => simp
  | some d =>
    unfold JobCore.interrupted
    by_cases hrun : d.status = .running
    · simp only [Option.map_some, hrun, if_true, Option.some.injEq]
      constructor
      · rintro ⟨rfl, hq⟩
        cases hq
      · rintro ⟨rfl, hq⟩
        rw [hrun] at hq
        cases hq
    · simp [hrun]

/-- No startup gets to its query. -/
def Cond.unselected : Cond := fun _ l _ => ∀ jobs, l ≠ .await .boot .selectQueued jobs

theorem View.Dormant.step {m m' : View} {l : Label} {rows : JobId → JobCore → Prop}
    (h : m.Dormant rows) (hb : Base m) (hm : Move m l m')
    (hl : ∀ jobs, l ≠ .await .boot .selectQueued jobs) : m'.Dormant rows := by
  obtain ⟨hworker, hqueue⟩ := hb.early h.early
  have hno : ∀ {w : WorkerPhase}, w ≠ .over → m.worker ≠ w := by
    rintro w hne rfl
    exact hne hworker
  have hlate : ∀ {φ : BootPhase}, m.alive = true → φ.early = false → m.boot ≠ φ := by
    rintro φ ha hφ rfl
    rcases h.early with hdead | hearly
    · rw [ha] at hdead
      cases hdead
    · rw [hφ] at hearly
      cases hearly
  have hnone : ∀ {i : Nat} {φ : RequestPhase}, m.requests[i]? ≠ some φ := by
    intro i φ hφ
    have hclosed : m.requests = [] := hb.closed fun ho => hlate ho.1 rfl ho.2
    rw [hclosed] at hφ
    cases hφ
  cases hm with
  | crash _ => exact ⟨.inl rfl, h.queued⟩
  | restart _ _ | seed _ _ | startWorker _ _ => exact ⟨.inr rfl, h.queued⟩
  | recover _ _ _ _ =>
    refine ⟨.inr rfl, fun i c => ?_⟩
    rw [← h.queued i c]
    exact JobCore.interrupted_queued (m.jobs i) c
  | observe _ _ => exact ⟨h.early, h.queued⟩
  | select _ _ _ _ _ => exact absurd rfl (hl _)
  | get _ _ hq =>
    rw [hqueue] at hq
    cases hq
  | receive _ ha hboot | requeue ha hboot | abandon ha hboot => exact absurd hboot (hlate ha rfl)
  | job _ hw _ | vm _ hw _ _ | enter _ hw _ | http _ hw _ _ | ssh _ hw _ _ _ | clock _ hw _
  | edit _ hw _ _
  | fail _ hw _ _ _ | finish _ hw _ | follow _ hw _ | followPut _ hw =>
    exact absurd hw (hno (by simp))
  | turn _ hφ _ | mark _ hφ _ | insert _ hφ _ _ _ _ _ _ | create _ hφ _ _ _ _ _ | put _ hφ =>
    exact absurd hφ hnone

theorem AReachable.dormant_path {t t' : Abs} {rows : JobId → JobCore → Prop}
    (ht : AReachable .any t) (h : t.view.Dormant rows) (hp : Path AStep Cond.unselected.aok t t') :
    t'.view.Dormant rows ∧ AReachable .any t' := by
  induction hp with
  | refl => exact ⟨h, ht⟩
  | next _ hs hok ih =>
    obtain ⟨hrows, hreach⟩ := ih
    exact ⟨hrows.step hreach.base (hreach.base.move hs) hok, .next hreach hs trivial⟩

/-- Among the resumed jobs the order of the rows and the order of the resumed jobs are one. -/
theorem inOrder_resumed {before : JobId → JobId → Prop} {jobs : List (JobId × Job)}
    (hn : (jobs.map Prod.fst).Nodup) {order : List JobId}
    (ho : order.filter (fun i => i ∈ resumed jobs) = resumed jobs) :
    InOrder before jobs order ↔ InOrder before jobs (jobs.map Prod.fst) := by
  have hmem : ∀ j ∈ jobs, j.1 ∈ resumed jobs ↔ j.2.type.needsPassword = false := by
    intro j hj
    constructor
    · intro hids
      obtain ⟨j', hj', heq⟩ := List.mem_map.mp hids
      obtain ⟨hmem', hpw⟩ := List.mem_filter.mp hj'
      obtain rfl : j' = j := List.inj_on_of_nodup_map hn hmem' hj heq
      simpa using hpw
    · intro hpw
      exact List.mem_map.mpr ⟨j, List.mem_filter.mpr ⟨hj, by simp [hpw]⟩, rfl⟩
  have hrows : (jobs.map Prod.fst).filter (fun i => i ∈ resumed jobs) = resumed jobs := by
    rw [List.filter_map]
    unfold resumed
    congr 1
    apply List.filter_congr
    intro j hj
    have hiff := hmem j hj
    cases hpw : j.2.type.needsPassword <;> simp_all [resumed]
  -- either order has the pair exactly when the resumed jobs have it
  have hpair : ∀ {l : List JobId}, l.filter (fun i => i ∈ resumed jobs) = resumed jobs →
      ∀ {i k : JobId}, i ∈ resumed jobs → k ∈ resumed jobs →
        ([i, k].Sublist l ↔ [i, k].Sublist (resumed jobs)) := by
    intro l hl i k hi hk
    constructor
    · intro h
      have hfilter := h.filter fun i => decide (i ∈ resumed jobs)
      rw [hl] at hfilter
      simpa [hi, hk] using hfilter
    · intro h
      rw [← hl] at h
      exact h.trans List.filter_sublist
  unfold InOrder
  constructor
  · intro h a ha b hb hpa hpb hv hlt
    have hia := (hmem a ha).mpr hpa
    have hib := (hmem b hb).mpr hpb
    exact (hpair hrows hia hib).mpr ((hpair ho hia hib).mp (h a ha b hb hpa hpb hv hlt))
  · intro h a ha b hb hpa hpb hv hlt
    have hia := (hmem a ha).mpr hpa
    have hib := (hmem b hb).mpr hpb
    exact (hpair ho hia hib).mpr ((hpair hrows hia hib).mp (h a ha b hb hpa hpb hv hlt))

/-- The rows the restart selects are those that were queued when the process ended. -/
theorem Reachable.selected {s sc s₀ s₁ : Sys} {jobs : List (JobId × Job)} (h : Reachable .any s)
    (hc : Step s .crash sc) (h₀ : Path Step Cond.unselected.ok sc s₀)
    (hs : Step s₀ (.await .boot .selectQueued jobs) s₁) (i : JobId) (c : JobCore) :
    (s.shared.db.jobs.get i).map Job.core = some c ∧ c.status = .queued ↔
      ∃ j ∈ jobs, j.1 = i ∧ j.2.core = c := by
  obtain ⟨t, ht, hr⟩ := h.abstract
  obtain ⟨tc, htc, hrc⟩ := hr.step hc
  obtain ⟨t₀, hp₀, hr₀⟩ := hrc.path h₀
  have hstart : tc.view.Dormant fun i c => t.view.jobs i = some c ∧ c.status = .queued := by
    cases htc with
    | crash _ => exact ⟨.inl rfl, fun _ _ => Iff.rfl⟩
  have hreach : AReachable .any tc := .next ht htc trivial
  have hqueued := (hreach.dormant_path hstart hp₀).1.queued i c
  obtain ⟨t₁, ht₁, _⟩ := hr₀.step hs
  rw [hr.shared]
  refine hqueued.symm.trans ?_
  cases ht₁ with
  | boot _ _ hact =>
    obtain ⟨rfl, hrows, _, hall⟩ := act_selected hact
    constructor
    · rintro ⟨hrow, hst⟩
      obtain ⟨job, hjob, rfl⟩ := Option.map_eq_some_iff.mp hrow
      obtain ⟨j, hj, rfl⟩ := List.mem_map.mp (hall _ _ hjob hst)
      obtain ⟨hrow', _⟩ := hrows j hj
      rw [hjob] at hrow'
      cases hrow'
      exact ⟨j, hj, rfl, rfl⟩
    · rintro ⟨j, hj, rfl, rfl⟩
      obtain ⟨hrow, hst⟩ := hrows j hj
      exact ⟨congrArg (Option.map Job.core) hrow, hst⟩

/-- A process ends, and the next one selects the jobs that were queued. The worker takes those of
each VM that are resumed in the order in which they were accepted, and as the process before would
have begun them, exactly when the query has returned their rows in both orders. Among the jobs that
stood in `JOB_QUEUE` the second order is that of the queue. -/
theorem requeued_in_order {s sc s₀ s₁ s₂ : Sys} {jobs : List (JobId × Job)} (h : Reachable .any s)
    (hc : Step s .crash sc) (h₀ : Path Step Cond.unselected.ok sc s₀)
    (hs : Step s₀ (.await .boot .selectQueued jobs) s₁) (hp : Path Step Cond.uncrashed.ok s₁ s₂)
    (hb : s₂.boot.isRet = true) :
    (∀ i c, (s.shared.db.jobs.get i).map Job.core = some c ∧ c.status = .queued ↔
      ∃ j ∈ jobs, j.1 = i ∧ j.2.core = c) ∧
    (∀ i k, [i, k].Sublist (s.shared.queue.map Payload.jobId) → s.Precedes i k) ∧
    (InOrder Accepted jobs (s₂.executed s₁) ∧ InOrder s.Precedes jobs (s₂.executed s₁) ↔
      InOrder Accepted jobs (jobs.map Prod.fst) ∧ InOrder s.Precedes jobs (jobs.map Prod.fst)) := by
  refine ⟨h.selected hc h₀ hs, fun i k hik => h.queue_precedes hik, ?_⟩
  have hreached : Reachable .any s₀ := (h.next hc trivial).path (h₀.mono fun _ _ _ _ => trivial)
  obtain ⟨t, ht, hr⟩ := hreached.abstract
  obtain ⟨t₁, ht₁, hr₁⟩ := hr.step hs
  obtain ⟨t₂, hp₂, hr₂⟩ := hr₁.path hp
  have hreach₁ : AReachable .any t₁ := .next ht ht₁ trivial
  have hstart : (jobs.map Prod.fst).Nodup ∧ t₁.view.Scheduled (resumed jobs) t₁.view.hist := by
    cases ht₁ with
    | @boot _ _ sh φ ha hT hact =>
      obtain ⟨rfl, hrows, hnodup, _⟩ := act_selected hact
      generalize hphase : t.boot = φ₀ at hT
      cases hT with
      | select _ =>
        have hboot : t.view.boot = .started := hphase
        refine ⟨hnodup, View.Scheduled.select ht.base hboot ha fun j hj => ?_⟩
        obtain ⟨hrow, hst⟩ := hrows j hj
        exact ⟨congrArg (Option.map Job.core) hrow, hst⟩
  obtain ⟨hnodup, hsched⟩ := hstart
  obtain ⟨hsched₂, _⟩ := hreach₁.scheduled_path hsched hp₂
  obtain ⟨evs, hist, horder⟩ := hsched₂.order
  have hover : t₂.view.boot.payloads = [] := by
    have hboot : t₂.view.boot = .over := hr₂.boot_over hb
    rw [hboot]
    rfl
  have hevs : takenSince t₁.shared.hist t₂.shared.hist = dispatched evs := by
    have hview : t₂.shared.hist = evs ++ t₁.shared.hist := hist
    unfold takenSince
    rw [hview, List.length_append, Nat.add_sub_cancel, List.take_left]
  rw [hover, List.append_nil, ← hevs] at horder
  have hsame : s₂.executed s₁ = takenSince t₁.shared.hist t₂.shared.hist ++
      t₂.view.queue.map Payload.jobId := by
    unfold Sys.executed
    rw [hr₁.shared, hr₂.shared]
    rfl
  rw [← hsame] at horder
  exact and_congr (inOrder_resumed hnodup horder) (inOrder_resumed hnodup horder)

/-- The startup's query, with the rows in the order of these keys. -/
def Sys.selecting (s : Sys) (order : List JobId) : Option (List (JobId × Job) × Sys) :=
  match s.boot with
  | .await .selectQueued k =>
    if s.alive && order.isPerm (s.shared.db.jobs.select fun job => job.status = .queued) then
      let jobs := order.filterMap fun j => (s.shared.db.jobs.get j).map fun job => (j, job)
      some (jobs, { s with boot := k jobs })
    else none
  | _ => none

theorem selecting_sound {s s' : Sys} {order : List JobId} {jobs : List (JobId × Job)}
    (h : s.selecting order = some (jobs, s')) : Step s (.await .boot .selectQueued jobs) s' := by
  unfold Sys.selecting at h
  split at h
  · next k hboot =>
    rw [Option.ite_none_right_eq_some, Bool.and_eq_true, List.isPerm_iff] at h
    obtain ⟨⟨ha, hperm⟩, heq⟩ := h
    cases heq
    exact .boot ha hboot (act_selectQueued.mpr ⟨rfl, order, hperm, rfl⟩)
  · cases h

def Cond.uncrashedCheck : Label → Bool
  | .crash => false
  | _ => true

def Cond.unselectedCheck : Label → Bool
  | .await .boot .selectQueued _ => false
  | _ => true

theorem Cond.unselectedCheck_sound {s s' : Sys} {l : Label} (h : Cond.unselectedCheck l = true) :
    Cond.unselected.ok s l s' := by
  rintro jobs rfl
  cases h

theorem Cond.uncrashedCheck_sound {s s' : Sys} {l : Label} (h : Cond.uncrashedCheck l = true) :
    Cond.uncrashed.ok s l s' := by
  rintro rfl
  cases h

/-- Whether the resumed jobs stand in the order of their requests. -/
def inOrder (jobs : List (JobId × Job)) (order : List JobId) : Bool :=
  jobs.all fun a => jobs.all fun b => a.2.type.needsPassword || b.2.type.needsPassword ||
    a.2.vmId ≠ b.2.vmId || b.1 ≤ a.1 || [a.1, b.1].isSublist order

theorem inOrder_iff {jobs : List (JobId × Job)} {order : List JobId} :
    inOrder jobs order = true ↔ InOrder Accepted jobs order := by
  unfold inOrder InOrder Accepted
  simp only [List.all_eq_true, Bool.or_eq_true, decide_eq_true_eq, List.isSublist_iff_sublist]
  constructor
  · intro h a ha b hb hpa hpb hv hlt
    rcases h a ha b hb with (((h | h) | h) | h) | h
    · rw [hpa] at h
      cases h
    · rw [hpb] at h
      cases h
    · exact absurd hv h
    · exact absurd hlt (Nat.not_lt.mpr h)
    · exact h
  · intro h a ha b hb
    by_cases hpa : a.2.type.needsPassword = true
    · exact .inl (.inl (.inl (.inl hpa)))
    by_cases hpb : b.2.type.needsPassword = true
    · exact .inl (.inl (.inl (.inr hpb)))
    by_cases hv : a.2.vmId = b.2.vmId
    · by_cases hlt : a.1 < b.1
      · exact .inr (h a ha b hb (by simpa using hpa) (by simpa using hpb) hv hlt)
      · exact .inl (.inr (Nat.le_of_not_lt hlt))
    · exact .inl (.inl (.inr hv))

/-- The process has ended. -/
def Sys.ended (s : Sys) : Sys := { shared := s.shared.crash, settings := s.settings }

open Scenario in
/-- A VM runs; its stop and its deletion are accepted, and wait. -/
def interrupted : List Choice :=
  startup [] 0 ++ create 0 (body "a" named_a) 100 ++ clone "0" 100 ++ boot "0" 100 "10.0.0.5" ++
    identify "0" "10.0.0.5" "10.0.0.6" ++ check ++ .receive (.stopVm 0) :: request 1 [.none, .none, .none] ++
    delete 2 0 "a"

/-- The next process starts up to its query. -/
def restarting : List Choice := .restart Scenario.settings :: List.replicate 3 (.run .boot .none)

/-- The rest of the startup. -/
def requeuing : List Choice := List.replicate 3 (.run .boot .none)

/-- The rows come in the order stored, and so the worker takes the jobs. -/
def Sys.endsStored (s₀ : Sys) : Bool :=
  (s₀.selecting [2, 3]).any fun out =>
    (out.2.run (fun _ l _ => Cond.uncrashedCheck l) (requeuing ++ [.get])).any fun s₂ =>
      s₂.boot.isRet && decide (s₂.executed out.2 = [2, 3])

/-- The rows come the other way round. -/
def Sys.endsReversed (s₀ : Sys) : Bool :=
  (s₀.selecting [3, 2]).any fun out =>
    (out.2.run (fun _ l _ => Cond.uncrashedCheck l) requeuing).any fun s₂ =>
      s₂.boot.isRet && !inOrder out.1 (s₂.executed out.2)

/-- The run is evaluated once. -/
theorem interrupted_ends : (Scenario.panel.run (fun _ _ _ => true) interrupted).any (fun s =>
    s.alive && (s.ended.run (fun _ l _ => Cond.unselectedCheck l) restarting).any fun s₀ =>
      s₀.endsStored && s₀.endsReversed) = true := by decide +kernel

theorem interrupted_runs : (Scenario.panel.run (fun _ _ _ => true) interrupted).isSome = true :=
  Option.isSome_of_any interrupted_ends

/-- The state in which the process ends. -/
def interruptedSys : Sys := (Scenario.panel.run (fun _ _ _ => true) interrupted).get interrupted_runs

theorem interruptedSys_reachable : Reachable .any interruptedSys :=
  @Scenario.reached _ Cond.any (fun _ _ _ _ => trivial) _ interrupted_runs

theorem interruptedSys_ends : interruptedSys.alive = true ∧
    (interruptedSys.ended.run (fun _ l _ => Cond.unselectedCheck l) restarting).any (fun s₀ =>
      s₀.endsStored && s₀.endsReversed) = true :=
  (Bool.and_eq_true _ _).mp (Option.get_of_any_eq_true _ _ interrupted_ends)

theorem interruptedSys_crash : Step interruptedSys .crash interruptedSys.ended :=
  .crash interruptedSys_ends.1

theorem restarting_runs :
    (interruptedSys.ended.run (fun _ l _ => Cond.unselectedCheck l) restarting).isSome = true :=
  Option.isSome_of_any interruptedSys_ends.2

/-- The next process is about to select the queued jobs. -/
def restartedSys : Sys :=
  (interruptedSys.ended.run (fun _ l _ => Cond.unselectedCheck l) restarting).get restarting_runs

theorem restartedSys_path : Path Step Cond.unselected.ok interruptedSys.ended restartedSys :=
  run_path (fun _ _ _ h => Cond.unselectedCheck_sound h) (Option.some_get restarting_runs).symm (.refl _)

theorem restartedSys_ends : restartedSys.endsStored = true ∧ restartedSys.endsReversed = true :=
  (Bool.and_eq_true _ _).mp (Option.get_of_any_eq_true _ _ interruptedSys_ends.2)

theorem stored_selects : (restartedSys.selecting [2, 3]).isSome = true :=
  Option.isSome_of_any restartedSys_ends.1

theorem stored_runs : (((restartedSys.selecting [2, 3]).get stored_selects).2.run
    (fun _ l _ => Cond.uncrashedCheck l) (requeuing ++ [.get])).isSome = true :=
  Option.isSome_of_any (Option.get_of_any_eq_true _ _ restartedSys_ends.1)

/-- The rows come in the order stored, and the worker has begun with the stop. -/
theorem requeued_in_order_stored :
    let s := interruptedSys
    let out := (restartedSys.selecting [2, 3]).get stored_selects
    let s₂ := (out.2.run (fun _ l _ => Cond.uncrashedCheck l) (requeuing ++ [.get])).get stored_runs
    s₂.executed out.2 = [2, 3] ∧
      (∀ i c, (s.shared.db.jobs.get i).map Job.core = some c ∧ c.status = .queued ↔
        ∃ j ∈ out.1, j.1 = i ∧ j.2.core = c) ∧
      (∀ i k, [i, k].Sublist (s.shared.queue.map Payload.jobId) → s.Precedes i k) ∧
      (InOrder Accepted out.1 (s₂.executed out.2) ∧ InOrder s.Precedes out.1 (s₂.executed out.2) ↔
        InOrder Accepted out.1 (out.1.map Prod.fst) ∧
          InOrder s.Precedes out.1 (out.1.map Prod.fst)) := by
  intro s out s₂
  have hpath : Path Step Cond.uncrashed.ok out.2 s₂ :=
    run_path (fun _ _ _ h => Cond.uncrashedCheck_sound h) (Option.some_get stored_runs).symm (.refl _)
  have hstep : Step restartedSys (.await .boot .selectQueued out.1) out.2 :=
    selecting_sound (Option.some_get stored_selects).symm
  obtain ⟨hboot, htaken⟩ := (Bool.and_eq_true _ _).mp
    (Option.get_of_any_eq_true _ _ (Option.get_of_any_eq_true _ _ restartedSys_ends.1))
  exact ⟨of_decide_eq_true htaken, requeued_in_order interruptedSys_reachable interruptedSys_crash
    restartedSys_path hstep hpath hboot⟩

/-- The deletion is put back before the stop. -/
theorem requeued_out_of_order : ¬ ∀ s sc s₀ s₁ s₂ jobs, Reachable .any s → Step s .crash sc →
    Path Step Cond.unselected.ok sc s₀ → Step s₀ (.await .boot .selectQueued jobs) s₁ →
      Path Step Cond.uncrashed.ok s₁ s₂ → s₂.boot.isRet = true →
        InOrder Accepted jobs (s₂.executed s₁) ∧ InOrder s.Precedes jobs (s₂.executed s₁) := by
  intro h
  obtain ⟨out, hout, hends⟩ := (Option.any_eq_true _ _).mp restartedSys_ends.2
  obtain ⟨s₂, hs₂, hends⟩ := (Option.any_eq_true _ _).mp hends
  obtain ⟨hboot, hbad⟩ := (Bool.and_eq_true _ _).mp hends
  have hpath : Path Step Cond.uncrashed.ok out.2 s₂ :=
    run_path (fun _ _ _ h => Cond.uncrashedCheck_sound h) hs₂ (.refl _)
  have hgood := (h _ _ _ _ _ _ interruptedSys_reachable interruptedSys_crash restartedSys_path
    (selecting_sound hout) hpath hboot).1
  rw [inOrder_iff.mpr hgood] at hbad
  cases hbad

end Clusteration
