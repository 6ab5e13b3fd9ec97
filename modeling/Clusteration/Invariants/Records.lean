import Clusteration.Invariants.Ledger

namespace Clusteration

section Fields
variable {m m' : View} {l : Label}

theorem Base.step_dead (hb : Base m) (hm : Move m l m') : m'.alive = false → m'.boot = .over := by
  cases hm with
  | crash _ => exact fun _ => rfl
  | restart _ _ => simp
  | seed ha _ | recover _ ha _ _ | startWorker ha _ | select ha _ _ _ _ | requeue ha _
  | abandon ha _ => simp [ha]
  | _ => exact hb.dead

theorem Base.step_early (hb : Base m) (hm : Move m l m') :
    m'.Early → m'.worker = .over ∧ m'.queue = [] := by
  have hlate : ∀ w, m.worker = w → w ≠ .over → ¬ m.Early := fun w hw hne =>
    hb.late (.inl (by rwa [hw]))
  cases hm with
  | crash _ => exact fun _ => ⟨rfl, rfl⟩
  | restart _ hd => exact fun _ => ⟨rfl, (hb.early (.inl hd)).2⟩
  | get _ _ hq => exact fun he => absurd he (hb.late (.inr (by simp [hq])))
  | seed _ h | recover _ _ h _ | startWorker _ h => exact fun _ => hb.early (.inr (by simp [h, BootPhase.early]))
  | select ha _ _ _ _ | requeue ha _ | abandon ha _ => simp [View.Early, BootPhase.early, ha]
  | job _ hw _ | vm _ hw _ _ | enter _ hw _ | http _ hw _ _ | ssh _ hw _ _ _ | clock _ hw _ | edit _ hw _ _
  | fail _ hw _ _ _ | finish _ hw _ | follow _ hw _ | followPut _ hw =>
    exact fun he => absurd he (hlate _ hw (by simp))
  | put ha hφ =>
    have ho := hb.open_of_request hφ
    exact fun he => absurd he (by simp [View.Early, BootPhase.early, ho.1, ho.2])
  | _ => exact hb.early

theorem Base.step_closed (hb : Base m) (hm : Move m l m') : ¬ m'.Open → m'.requests = [] := by
  cases hm with
  | crash _ | restart _ _ => exact fun _ => rfl
  | receive _ ha ho => exact fun h => absurd ⟨ha, ho⟩ h
  | seed _ h | recover _ _ h _ | startWorker _ h | select _ h _ _ _ | requeue _ h | abandon _ h =>
    exact fun _ => hb.closed (by simp [View.Open, h])
  | turn _ hφ _ | mark _ hφ _ | insert _ hφ _ _ _ _ _ _ | create _ hφ _ _ _ _ _ | put _ hφ =>
    exact fun h => absurd (hb.open_of_request hφ) h
  | _ => exact hb.closed

theorem Base.step_refs (hb : Base m) (hm : Move m l m') {i : JobId} {c' : JobCore}
    (h : m'.jobs i = some c') : (c'.status = .queued → c'.target = none) ∧
      ∃ v x, c'.vmId = some v ∧ m'.vms v = some x := by
  cases hm.jobs_back hb h with
  | same hc ht hv hq =>
    obtain ⟨htarget, v, x, hcv, hx⟩ := hb.refs hc
    obtain ⟨x', hx'⟩ := hm.vms_kept hx
    exact ⟨fun hs => by cases hq hs; exact htarget hs, v, x', hv.trans hcv, hx'⟩
  | added _ hc _ hk _ =>
    subst hc
    obtain ⟨x', hx'⟩ := (hk.step hb hm).row
    exact ⟨fun _ => rfl, _, x', rfl, hx'⟩
  | created _ hc _ hx _ =>
    subst hc
    exact ⟨fun _ => rfl, _, _, rfl, hx⟩

theorem View.mem_payloads {m : View} {p : Payload} : p ∈ m.payloads ↔ p ∈ m.queue ∨
    p ∈ m.worker.payloads ∨ p ∈ m.boot.payloads ∨ ∃ φ ∈ m.requests, p ∈ φ.payloads := by
  simp only [View.payloads, List.mem_append, List.mem_flatMap]

/-- A payload that was put together in this step. -/
structure Payload.Minted (p : Payload) (m' : View) : Prop where
  matching : p.Matches m'
  allowed : ¬ m'.Open → p.type.needsPassword = false

theorem Move.payloads_back (hb : Base m) (hm : Move m l m') {p : Payload} (hp : p ∈ m'.payloads) :
    p ∈ m.payloads ∨ p.Minted m' := by
  rw [View.mem_payloads] at hp ⊢
  have hset : ∀ {n : Nat} {φ' : RequestPhase}, (∃ φ ∈ m.requests.set n φ', p ∈ φ.payloads) →
      p ∈ φ'.payloads ∨ ∃ φ ∈ m.requests, p ∈ φ.payloads := by
    rintro n φ' ⟨φ, hφ, hp⟩
    rcases List.mem_or_eq_of_mem_set hφ with hφ | rfl
    · exact Or.inr ⟨φ, hφ, hp⟩
    · exact Or.inl hp
  cases hm with
  | crash _ => simp [WorkerPhase.payloads, BootPhase.payloads] at hp
  | restart _ _ =>
    simp [WorkerPhase.payloads, BootPhase.payloads] at hp
    grind
  | get _ hw hq =>
    simp only [WorkerPhase.payloads, List.mem_cons, List.not_mem_nil, or_false] at hp
    rw [hq, List.mem_cons]
    grind
  | receive _ _ _ =>
    simp only [List.mem_append, List.mem_singleton] at hp
    rcases hp with hp | hp | hp | ⟨φ, hφ | rfl, hp⟩
    · exact .inl (.inl hp)
    · exact .inl (.inr (.inl hp))
    · exact .inl (.inr (.inr (.inl hp)))
    · exact .inl (.inr (.inr (.inr ⟨φ, hφ, hp⟩)))
    · simp [RequestPhase.payloads] at hp
  | seed _ _ | recover _ _ _ _ | startWorker _ _ =>
    simp only [BootPhase.payloads, List.not_mem_nil, false_or] at hp
    grind
  | @select jobs _ hboot hjobs _ _ =>
    simp only [BootPhase.payloads] at hp
    rcases hp with hp | hp | hp | hp
    · exact .inl (.inl hp)
    · exact .inl (.inr (.inl hp))
    · obtain ⟨j, hj, rfl⟩ := List.mem_map.mp hp
      obtain ⟨hj, hn⟩ := List.mem_filter.mp hj
      obtain ⟨hc, hs⟩ := hjobs j hj
      obtain ⟨ht, v, x, hv, hx⟩ := hb.refs hc
      refine .inr ⟨⟨v, hv, ?_⟩, fun _ => by simpa [requeuePayload] using hn⟩
      have hcore : j.2.core = ⟨j.2.type, .queued, some v, none⟩ := by
        simp only [Job.core_vmId, Job.core_status, Job.core_target] at hv ht
        simp only [Job.core, hs, hv, ht hs]
      exact hc.trans (congrArg some hcore)
    · exact .inl (.inr (.inr (.inr hp)))
  | requeue _ hboot =>
    simp only [BootPhase.payloads, hboot, List.mem_append, List.mem_cons] at hp ⊢
    grind
  | abandon _ hboot =>
    simp only [BootPhase.payloads, List.not_mem_nil, false_or] at hp
    grind
  | job _ hw _ | vm _ hw _ _ =>
    simp only [WorkerPhase.payloads, hw] at hp ⊢
    grind
  | enter _ hw _ | edit _ hw _ _ | fail _ hw _ _ _ | http _ hw _ _ | ssh _ hw _ _ _ | clock _ hw _ =>
    simp only [WorkerPhase.payloads, List.not_mem_nil, false_or] at hp
    grind
  | finish _ hw _ =>
    have hnil : ∀ w : Exec, (if w.type.followedUp then WorkerPhase.succeeded w.v else .over).payloads =
        [] := fun w => by split <;> rfl
    simp only [hnil, List.not_mem_nil, false_or] at hp
    grind
  | @follow v _ j _ hw _ =>
    simp only [WorkerPhase.payloads, List.mem_singleton] at hp
    rcases hp with hp | rfl | hp
    · exact .inl (.inl hp)
    · exact .inr ⟨⟨v, rfl, by simp [sshPayload]⟩, fun _ => rfl⟩
    · exact .inl (.inr (.inr hp))
  | followPut _ hw =>
    simp only [WorkerPhase.payloads, hw, List.mem_append, List.mem_singleton, List.not_mem_nil,
      false_or] at hp ⊢
    grind
  | turn _ hφ ht =>
    rcases hp with hp | hp | hp | hp
    · exact .inl (.inl hp)
    · exact .inl (.inr (.inl hp))
    · exact .inl (.inr (.inr (.inl hp)))
    · rcases hset hp with hp | hp
      · cases ht with
        | unlock => exact .inl (.inr (.inr (.inr ⟨_, List.mem_of_getElem? hφ, hp⟩)))
        | _ => simp [RequestPhase.payloads] at hp
      · exact .inl (.inr (.inr (.inr hp)))
  | mark _ hφ _ =>
    rcases hp with hp | hp | hp | hp
    · exact .inl (.inl hp)
    · exact .inl (.inr (.inl hp))
    · exact .inl (.inr (.inr (.inl hp)))
    · rcases hset hp with hp | hp
      · simp [RequestPhase.payloads] at hp
      · exact .inl (.inr (.inr (.inr hp)))
  | @insert n φ type v job j q _ hφ _ _ hc ht hj hv =>
    rcases hp with hp | hp | hp | hp
    · exact .inl (.inl hp)
    · exact .inl (.inr (.inl hp))
    · exact .inl (.inr (.inr (.inl hp)))
    · rcases hset hp with hp | hp
      · simp only [RequestPhase.payloads, List.mem_singleton] at hp
        subst hp
        exact .inr ⟨⟨v, hv, by simp [hj, hc, ht]⟩, fun h => absurd (hb.open_of_request hφ) h⟩
      · exact .inl (.inr (.inr (.inr hp)))
  | @create n _ v j _ _ q _ hφ _ _ ht hj hv =>
    rcases hp with hp | hp | hp | hp
    · exact .inl (.inl hp)
    · exact .inl (.inr (.inl hp))
    · exact .inl (.inr (.inr (.inl hp)))
    · rcases hset hp with hp | hp
      · simp only [RequestPhase.payloads, List.mem_singleton] at hp
        subst hp
        exact .inr ⟨⟨v, hv, by simp [hj, ht]⟩, fun h => absurd (hb.open_of_request hφ) h⟩
      · exact .inl (.inr (.inr (.inr hp)))
  | @put n q _ hφ =>
    simp only [List.mem_append, List.mem_singleton] at hp
    rcases hp with (hp | rfl) | hp | hp | hp
    · exact .inl (.inl hp)
    · exact .inl (.inr (.inr (.inr ⟨_, List.mem_of_getElem? hφ, by simp [RequestPhase.payloads]⟩)))
    · exact .inl (.inr (.inl hp))
    · exact .inl (.inr (.inr (.inl hp)))
    · rcases hset hp with hp | hp
      · simp [RequestPhase.payloads] at hp
      · exact .inl (.inr (.inr (.inr hp)))
  | observe _ _ => exact .inl hp

theorem View.Early.no_payloads {m : View} (he : m.Early) (hd : m.alive = false → m.boot = .over)
    (hq : m.worker = .over ∧ m.queue = []) (hr : ¬ m.Open → m.requests = []) : m.payloads = [] := by
  have ho : ¬ m.Open := by
    rintro ⟨ha, hb⟩
    rcases he with he | he
    · rw [ha] at he
      cases he
    · rw [hb] at he
      cases he
  have hboot : m.boot.payloads = [] := by
    rcases he with he | he
    · rw [hd he]
      rfl
    · cases h : m.boot with
      | putting _ _ =>
        rw [h] at he
        cases he
      | _ => rfl
  simp [View.payloads, hq.1, hq.2, hr ho, hboot, WorkerPhase.payloads]

/-- The row of a job that is held has not been touched. -/
theorem Base.held_row (hb : Base m) (hm : Move m l m') (he : ¬ m'.Early) {i : JobId}
    (hi : i ∈ m'.held) {c : JobCore} (hc : m.jobs i = some c) : m'.jobs i = some c := by
  have hcount := hb.step_counts hm he i
  have hpos : 0 < m'.held.count i := List.count_pos_iff.mpr hi
  cases hc' : m'.jobs i with
  | none =>
    rw [View.queuedCount_none hc'] at hcount
    omega
  | some c' =>
    rw [View.queuedCount_some hc'] at hcount
    have hs : c'.status = .queued := by
      by_contra hs
      rw [if_neg hs] at hcount
      omega
    cases hm.jobs_back hb hc' with
    | same hold _ _ hq => rw [hq hs, ← hold, hc]
    | added hn _ _ _ _ | created hn _ _ _ _ =>
      rw [hc] at hn
      cases hn

theorem Base.step_carried (hb : Base m) (hm : Move m l m') {p : Payload} (hp : p ∈ m'.payloads) :
    p.Matches m' ∧ (¬ m'.Open → p.type.needsPassword = false) := by
  have hlate : ¬ m'.Early := by
    intro he
    rw [he.no_payloads (hb.step_dead hm) (hb.step_early hm he) (hb.step_closed hm)] at hp
    cases hp
  rcases hm.payloads_back hb hp with hold | hnew
  · obtain ⟨⟨v, hv, hj⟩, ho⟩ := hb.carried hold
    have hheld : p.jobId ∈ m'.held := List.mem_append_left _ (List.mem_map_of_mem hp)
    refine ⟨⟨v, hv, hb.held_row hm hlate hheld hj⟩, fun hno => ?_⟩
    by_cases hopen : m.Open
    · exfalso
      cases hm with
      | crash _ => exact hlate (.inl rfl)
      | restart _ hd => exact hlate (.inr rfl)
      | seed _ h | recover _ _ h _ | startWorker _ h | select _ h _ _ _ | requeue _ h | abandon _ h =>
        rw [hopen.2] at h
        cases h
      | _ => exact hno hopen
    · exact ho hopen
  · exact ⟨hnew.matching, hnew.allowed⟩

theorem Base.step_abandoned (hb : Base m) (hm : Move m l m') {j : JobId × Job}
    (hj : j ∈ m'.boot.abandoned) : m'.jobs j.1 = some j.2.core ∧ j.2.status = .queued ∧
      j.2.type.needsPassword = true := by
  have hlate : ¬ m'.Early := by
    rintro (he | he)
    · rw [hb.step_dead hm he] at hj
      cases hj
    · cases h : m'.boot <;> rw [h] at hj he
      · cases hj
      · cases hj
      · cases hj
      · cases hj
      · cases he
      · cases hj
  have hold : m.jobs j.1 = some j.2.core ∧ j.2.status = .queued ∧
      j.2.type.needsPassword = true := by
    cases hm with
    | crash _ | restart _ _ | seed _ _ | recover _ _ _ _ | startWorker _ _ | abandon _ _ => cases hj
    | select _ _ hjobs _ _ =>
      obtain ⟨hmem, hp⟩ := List.mem_filter.mp hj
      exact ⟨(hjobs j hmem).1, (hjobs j hmem).2, hp⟩
    | requeue _ hboot => exact hb.abandoned (by rw [hboot]; exact hj)
    | _ => exact hb.abandoned hj
  have hheld : j.1 ∈ m'.held := List.mem_append_right _ (List.mem_map_of_mem hj)
  exact ⟨hb.held_row hm hlate hheld hold.1, hold.2⟩

theorem View.Unrecovered.early {m : View} (h : m.Unrecovered) : m.Early := by
  rcases h with h | h | h
  · exact .inl h
  · exact .inr (by simp [h, BootPhase.early])
  · exact .inr (by simp [h, BootPhase.early])

/-- Once the startup has recovered, only the worker has a running job. -/
theorem Base.running_exec (hb : Base m) (hu : ¬ m.Unrecovered) {i : JobId} {c : JobCore}
    (h : m.jobs i = some c) (hs : c.status = .running) : ∃ w, m.worker = .exec w ∧ w.j = i :=
  (hb.running h hs).resolve_left hu

theorem Base.step_running (hb : Base m) (hm : Move m l m') {i : JobId} {c' : JobCore}
    (h : m'.jobs i = some c') (hs : c'.status = .running) :
    m'.Unrecovered ∨ ∃ w, m'.worker = .exec w ∧ w.j = i := by
  -- a running job of a worker that is not at one has to be left over from the last process
  have hidle : (∀ w, m.worker ≠ .exec w) → m.worker ≠ .over → m.jobs i ≠ some c' := by
    intro hne hw hold
    obtain ⟨w, hw', _⟩ := hb.running_exec (fun hu => hb.late (.inl hw) hu.early) hold hs
    exact hne w hw'
  have hbusy : ∀ {w}, m.worker = .exec w → m.jobs i = some c' → i = w.j := by
    intro w hw hold
    obtain ⟨w', hw', rfl⟩ := hb.running_exec
      (fun hu => hb.late (.inl (by simp [hw])) hu.early) hold hs
    rw [hw] at hw'
    cases hw'
    rfl
  cases hm with
  | crash _ => exact .inl (.inl rfl)
  | restart _ _ => exact .inl (.inr (.inl rfl))
  | seed _ _ => exact .inl (.inr (.inr rfl))
  | recover adopted _ _ _ =>
    simp only [Option.map_eq_some_iff] at h
    obtain ⟨c, _, rfl⟩ := h
    unfold JobCore.interrupted at hs
    split at hs
    · cases hs
    · next hne => exact absurd hs hne
  | startWorker ha hboot | select ha hboot _ _ _ | requeue ha hboot =>
    exact .inr (hb.running_exec (by simp [View.Unrecovered, ha, hboot]) h hs)
  | abandon ha hboot =>
    simp only at h
    split at h
    · simp only [Option.map_eq_some_iff] at h
      obtain ⟨c, _, rfl⟩ := h
      cases hs
    · exact .inr (hb.running_exec (by simp [View.Unrecovered, ha, hboot]) h hs)
  | get ha hw hq =>
    have hlate := hb.late (.inr (by simp [hq]))
    obtain ⟨w, hw', _⟩ := hb.running_exec (fun hu => hlate hu.early) h hs
    rw [hw] at hw'
    cases hw'
  | job _ hw _ | vm _ hw _ _ | followPut _ hw => exact absurd h (hidle (by simp [hw]) (by simp [hw]))
  | enter _ hw _ =>
    simp only [Function.update_apply] at h
    split at h
    · next hi => exact .inr ⟨_, rfl, hi.symm⟩
    · exact absurd h (hidle (by simp [hw]) (by simp [hw]))
  | http _ hw _ _ | ssh _ hw _ _ _ | clock _ hw _ => exact .inr ⟨_, rfl, (hbusy hw h).symm⟩
  | edit _ hw _ _ =>
    simp only [Function.update_apply] at h
    split at h
    · next hi => exact .inr ⟨_, rfl, hi.symm⟩
    · exact .inr ⟨_, rfl, (hbusy hw h).symm⟩
  | fail _ hw _ _ _ | finish _ hw _ =>
    simp only [Function.update_apply] at h
    split at h
    · cases h
      cases hs
    · next hi => exact absurd (hbusy hw h) hi
  | follow _ hw _ =>
    simp only [Function.update_apply] at h
    split at h
    · cases h
      cases hs
    · exact absurd h (hidle (by simp [hw]) (by simp [hw]))
  | insert _ _ _ _ hc _ _ _ =>
    simp only [Function.update_apply] at h
    split at h
    · cases h
      rw [hc] at hs
      cases hs
    · exact hb.running h hs
  | create _ _ _ _ _ _ _ =>
    simp only [Function.update_apply] at h
    split at h
    · cases h
      cases hs
    · exact hb.running h hs
  | _ => exact hb.running h hs

theorem Base.step_single (hb : Base m) (hm : Move m l m') {i i' : JobId} {c c' : JobCore}
    (h : m'.jobs i = some c) (h' : m'.jobs i' = some c') (hs : c.status = .running)
    (hs' : c'.status = .running) : i = i' := by
  by_cases hu : m'.Unrecovered
  · -- until the recovery no job starts
    cases hm with
    | crash _ | restart _ _ | seed _ _ => exact hb.single h h' hs hs'
    | recover _ ha _ _ | startWorker ha _ | select ha _ _ _ _ | requeue ha _ | abandon ha _ =>
      simp [View.Unrecovered, ha] at hu
    | enter _ hw _ | edit _ hw _ _ | fail _ hw _ _ _ | finish _ hw _ | follow _ hw _ =>
      exact absurd hu.early (hb.late (.inl (by simp [hw])))
    | insert _ hφ _ _ _ _ _ _ | create _ hφ _ _ _ _ _ =>
      have ho := hb.open_of_request hφ
      simp [View.Unrecovered, ho.1, ho.2] at hu
    | _ => exact hb.single h h' hs hs'
  · obtain ⟨w, hw, rfl⟩ := (hb.step_running hm h hs).resolve_left hu
    obtain ⟨w', hw', rfl⟩ := (hb.step_running hm h' hs').resolve_left hu
    rw [hw] at hw'
    cases hw'
    rfl

theorem Core.Agrees.written {x row : Core} (h : x.Agrees row) (x' : Core) :
    x'.Agrees (Core.written x x' row) := by
  rw [Core.written, ← h.merge]
  exact h.merge_agrees x'

/-- The record of a job the worker runs. -/
theorem Base.exec_known (hb : Base m) {w : Exec} (hw : m.worker = .exec w) : m.Known w.v := by
  obtain ⟨_, hj, row, hrow, _⟩ := hb.exec hw
  refine ⟨⟨row, hrow⟩, ?_⟩
  rintro ⟨i, c, hc, ht, hs, hv⟩
  obtain rfl := (hb.fresh hc ht hs hv).1 w.j _ hj rfl
  rw [hj] at hc
  cases hc
  cases hs

/-- The job whose row the worker relies on. -/
def WorkerPhase.current : WorkerPhase → Option JobId
  | gotJob p _ | loaded p _ _ _ => some p.jobId
  | exec w => some w.j
  | _ => none

/-- What the worker relies on outlasts the steps of the others. -/
theorem WorkerPhase.Holds.env {φ : WorkerPhase} (h : φ.Holds m)
    (hj : ∀ i c, φ.current = some i → m.jobs i = some c → m'.jobs i = some c)
    (hv : ∀ v row, m.vms v = some row →
      ∃ row', m'.vms v = some row' ∧ ∀ x : Core, x.Agrees row → x.Agrees row')
    (hk : ∀ v, m.Known v → m'.Known v) : φ.Holds m' := by
  cases φ with
  | gotJob p job => exact hj _ _ rfl h
  | loaded p job v vm =>
    obtain ⟨hjob, hpv, row, hrow, hag⟩ := h
    obtain ⟨row', hrow', hag'⟩ := hv v row hrow
    exact ⟨hj _ _ rfl hjob, hpv, row', hrow', hag' _ hag⟩
  | exec w =>
    obtain ⟨hok, hjob, row, hrow, hag⟩ := h
    obtain ⟨row', hrow', hag'⟩ := hv w.v row hrow
    exact ⟨hok, hj _ _ rfl hjob, row', hrow', hag' _ hag⟩
  | succeeded v => exact hk v h
  | noVm _ _ | orphan _ => exact h
  | _ => trivial

/-- A job the worker relies on is not one the startup gives up. -/
theorem Base.current_kept (hb : Base m) {rest : List Payload} {abandoned : List (JobId × Job)}
    (ha : m.alive = true) (hboot : m.boot = .putting rest abandoned) {i : JobId}
    (hi : m.worker.current = some i) : i ∉ abandoned.map Prod.fst := by
  intro hmem
  obtain ⟨j, hj, rfl⟩ := List.mem_map.mp hmem
  obtain ⟨hrow, hs, _⟩ := hb.abandoned (by rw [hboot]; exact hj)
  have hcount := hb.counts (by simp [View.Early, ha, hboot, BootPhase.early]) j.1
  rw [View.queuedCount_some hrow, Job.core_status, if_pos hs, View.count_held, hboot] at hcount
  have hpos : 0 < ((BootPhase.putting rest abandoned).abandoned.map Prod.fst).count j.1 :=
    List.count_pos_iff.mpr hmem
  have hnone : (m.worker.payloads.map Payload.jobId).count j.1 = 0 := by omega
  cases hw : m.worker with
  | gotJob p job | loaded p job v vm =>
    rw [hw] at hi hnone
    have hid : p.jobId = j.1 := Option.some.inj hi
    simp [WorkerPhase.payloads, hid] at hnone
  | exec w =>
    rw [hw] at hi
    have hid : w.j = j.1 := Option.some.inj hi
    have hjob := (hb.exec hw).job
    rw [hid, hrow] at hjob
    have hrunning : j.2.status = .running := congrArg JobCore.status (Option.some.inj hjob)
    rw [hs] at hrunning
    cases hrunning
  | _ =>
    rw [hw] at hi
    cases hi

theorem Base.step_worker (hb : Base m) (hm : Move m l m') : m'.worker.Holds m' := by
  have hk : ∀ v, m.Known v → m'.Known v := fun v hv => hv.step hb hm
  have hsame : m'.jobs = m.jobs → m'.vms = m.vms → m.worker.Holds m' := by
    intro h₁ h₂
    refine hb.worker.env (fun i c _ hc => by rw [h₁]; exact hc) (fun v row hrow => ?_) hk
    exact ⟨row, by rw [h₂]; exact hrow, fun _ h => h⟩
  cases hm with
  | crash _ | restart _ _ | get _ _ _ | fail _ _ _ _ _ | follow _ _ _ | followPut _ _ => trivial
  | observe _ _ | receive _ _ _ | seed _ _ | startWorker _ _ | select _ _ _ _ _ | requeue _ _
  | turn _ _ _ | put _ _ => exact hsame rfl rfl
  | recover _ _ hboot _ =>
    have hw := (hb.early (.inr (by simp [hboot, BootPhase.early]))).1
    simp only [hw]
    trivial
  | abandon ha hboot =>
    refine hb.worker.env (fun i c hi hc => ?_) (fun v row hrow => ⟨row, hrow, fun _ h => h⟩) hk
    exact (if_neg (hb.current_kept ha hboot hi)).trans hc
  | job _ _ hj => exact hj
  | vm _ hw hpv hv =>
    have hj := hb.worker
    rw [hw] at hj
    exact ⟨hj, hpv, _, hv, .refl _⟩
  | @enter p job v vm row _ _ hw hv =>
    obtain ⟨hj, hcore, _, row', hrow', hag⟩ := hb.loaded hw
    obtain ⟨ht, ht'⟩ : job.type = p.type ∧ job.metadata.targetVmid = none :=
      ⟨congrArg JobCore.type hcore, congrArg JobCore.target hcore⟩
    refine ⟨?_, by simp [Exec.begin, ht, ht'], row', hrow', hag⟩
    intro hc
    obtain ⟨_, x, hx, hn, _⟩ := hb.fresh hj (ht.symm.trans hc) rfl rfl
    rw [hrow'] at hx
    cases hx
    exact hag.vmid.symm.trans hn
  | http _ hw hc _ =>
    obtain ⟨hok, hj, hrow⟩ := hb.exec hw
    refine ⟨?_, hj, hrow⟩
    rcases hc with ⟨_, rfl⟩ | hl
    · exact hok
    · exact hok.learn hl
  | clock _ hw hl =>
    obtain ⟨hok, hj, hrow⟩ := hb.exec hw
    exact ⟨hok.learn hl, hj, hrow⟩
  | ssh _ hw hs ht hip =>
    obtain ⟨hok, hj, hrow⟩ := hb.exec hw
    exact ⟨hok.learn (.reached hs ht hip), hj, hrow⟩
  | @edit w stage x row target _ _ hw hrow he =>
    obtain ⟨hok, hj, row', hrow', hag⟩ := hb.exec hw
    rw [hrow] at hrow'
    cases hrow'
    exact ⟨hok.edit he, by simp, _, by simp, hag.written x⟩
  | finish _ hw _ =>
    have hend : ∀ {m : View} {w : Exec}, m.Known w.v →
        (if w.type.followedUp then WorkerPhase.succeeded w.v else .over).Holds m := by
      intro m w h
      split
      · exact h
      · trivial
    exact hend (hk _ (hb.exec_known hw))
  | @mark _ v vm row _ _ hφ hrow =>
    refine hb.worker.env (fun i c _ hc => hc) (fun u row' hrow' => ?_) hk
    by_cases hu : u = v
    · subst hu
      rw [hrow] at hrow'
      cases hrow'
      refine ⟨_, by simp; rfl, fun x hag => ?_⟩
      rcases hag with rfl | rfl
      · by_cases hp : vm.sshStatus = .pending
        · simpa [hp] using Core.Agrees.refl _
        · exact .inr (by simp [hp])
      · exact .inr (by simp)
    · exact ⟨row', by simp [Function.update_of_ne hu, hrow'], fun _ h => h⟩
  | @insert _ _ _ _ _ j _ _ _ _ hj _ _ _ _ =>
    refine hb.worker.env (fun i c _ hc => ?_) (fun v row hrow => ⟨row, hrow, fun _ h => h⟩) hk
    have hne : i ≠ j := by
      rintro rfl
      rw [hj] at hc
      cases hc
    simpa [Function.update_of_ne hne] using hc
  | @create _ _ v j _ _ _ _ _ hv hj _ _ _ =>
    refine hb.worker.env (fun i c _ hc => ?_) (fun u row hrow => ?_) hk
    · have hne : i ≠ j := by
        rintro rfl
        rw [hj] at hc
        cases hc
      simpa [Function.update_of_ne hne] using hc
    · have hne : u ≠ v := by
        rintro rfl
        rw [hv] at hrow
        cases hrow
      exact ⟨row, by simpa [Function.update_of_ne hne] using hrow, fun _ h => h⟩

theorem Core.accepts_type {x : Core} {type : JobType} (h : x.accepts type = true) :
    type ≠ .createVm ∧ type ≠ .sshReadinessCheck ∧ x.status ≠ .creating := by
  cases type <;> simp_all [Core.accepts] <;> rintro hs <;> simp_all [VMStatus.settled]

/-- A record an endpoint has found in a status other than `creating` has its creation behind it. -/
theorem Base.known_of_status (hb : Base m) (ho : m.Open) {v : VmId} {x : Core}
    (hx : m.vms v = some x) (hs : x.status ≠ .creating) : m.Known v := by
  refine ⟨⟨x, hx⟩, ?_⟩
  rintro ⟨i, c, hc, ht, hq, hv⟩
  obtain ⟨_, x', hx', _, _, hcreating⟩ := hb.fresh hc ht hq hv
  rw [hx] at hx'
  cases hx'
  exact hs (hcreating ho)

theorem RequestPhase.Holds.step {φ : RequestPhase} (h : φ.Holds m) (hb : Base m)
    (hm : Move m l m') : φ.Holds m' := by
  cases φ with
  | accepted type v => exact ⟨h.1.step hb hm, h.2⟩
  | recheck v vm | marked v => exact View.Known.step h hb hm
  | _ => trivial

theorem Base.step_requests (hb : Base m) (hm : Move m l m') {φ : RequestPhase}
    (hφ : φ ∈ m'.requests) : φ.Holds m' := by
  have hold : φ ∈ m.requests → φ.Holds m' := fun h => (hb.requests h).step hb hm
  -- the phase a request has just come to holds before the step already, or asks for nothing
  have hset : ∀ {n : Nat} {φ' : RequestPhase}, φ ∈ m.requests.set n φ' → φ'.Holds m → φ.Holds m' := by
    intro n φ' hmem hφ'
    rcases List.mem_or_eq_of_mem_set hmem with h | rfl
    · exact hold h
    · exact hφ'.step hb hm
  cases hm with
  | crash _ | restart _ _ => cases hφ
  | receive _ _ _ =>
    rcases List.mem_append.mp hφ with h | h
    · exact hold h
    · rw [List.mem_singleton.mp h]
      trivial
  | turn _ hi ht =>
    have ho := hb.open_of_request hi
    refine hset hφ ?_
    cases ht with
    | accept hx ha =>
      obtain ⟨h₁, h₂, hs⟩ := Core.accepts_type ha
      exact ⟨hb.known_of_status ho hx hs, h₁, h₂⟩
    | recheck hx _ hs => exact hb.known_of_status ho hx (by simp [hs])
    | _ => trivial
  | mark _ hi _ =>
    have hk : View.Known m _ := hb.requests (List.mem_of_getElem? hi)
    exact hset hφ hk
  | insert _ _ _ _ _ _ _ _ | create _ _ _ _ _ _ _ | put _ _ => exact hset hφ trivial
  | _ => exact hold hφ

/-- While a creation is queued its record stays as it was inserted, but for a restart. -/
theorem Base.fresh_row (hb : Base m) (hm : Move m l m') {v : VmId} (hf : m.Fresh v) {x : Core}
    (hx : m.vms v = some x) : m'.vms v = some x ∨
      (¬ m'.Open ∧ ∃ x', m'.vms v = some x' ∧ x'.vmid = x.vmid ∧ x'.deletedAt = x.deletedAt) := by
  have hexec : ∀ {w}, m.worker = .exec w → v ≠ w.v := by
    rintro w hw rfl
    exact (hb.exec_known hw).run hf
  cases hm with
  | recover adopted _ _ hadopted =>
    have hx' : (m.vms v).map (Core.recovered (adopted v)) = some (Core.recovered (adopted v) x) := by
      rw [hx]
      rfl
    refine .inr ⟨by simp [View.Open], _, hx', ?_, rfl⟩
    have hnone : adopted v = none := by
      cases ha : adopted v with
      | none => rfl
      | some n =>
        obtain ⟨i', c', hc', hs', hv', _⟩ := (hadopted v n).mp ha
        obtain ⟨i, c, hc, ht, hs, hv⟩ := hf
        obtain rfl := (hb.fresh hc ht hs hv).1 i' c' hc' hv'
        rw [hc] at hc'
        cases hc'
        rw [hs] at hs'
        cases hs'
    simp [Core.recovered, hnone]
  | edit _ hw _ _ | fail _ hw _ _ _ => exact .inl (by simp [Function.update_of_ne (hexec hw), hx])
  | @mark _ u _ _ _ _ hφ _ =>
    have hk : m.Known u := hb.requests (List.mem_of_getElem? hφ)
    have hne : v ≠ u := by
      rintro rfl
      exact hk.run hf
    exact .inl (by simp [Function.update_of_ne hne, hx])
  | @create _ _ u _ _ _ _ _ _ hu _ _ _ _ =>
    have hne : v ≠ u := by
      rintro rfl
      rw [hx] at hu
      cases hu
    exact .inl (by simp [Function.update_of_ne hne, hx])
  | _ => exact .inl hx

/-- The startup opens the panel only after it has given up the creations it found queued. -/
theorem Base.open_before (hb : Base m) (hm : Move m l m') (ho : m'.Open) {i : JobId} {c : JobCore}
    (hc' : m'.jobs i = some c) (hc : m.jobs i = some c) (ht : c.type = .createVm)
    (hs : c.status = .queued) : m.Open := by
  by_contra hno
  cases hm with
  | crash _ => cases ho.1
  | restart _ _ | seed _ _ | recover _ _ _ _ | startWorker _ _ | select _ _ _ _ _ | requeue _ _ =>
    cases ho.2
  | @abandon abandoned _ ha hboot =>
    by_cases hi : i ∈ abandoned.map Prod.fst
    · simp only [if_pos hi, hc, Option.map_some, Option.some.injEq] at hc'
      rw [← hc'] at hs
      cases hs
    · have hcount := hb.counts (by simp [View.Early, ha, hboot, BootPhase.early]) i
      rw [View.queuedCount_some hc, if_pos hs] at hcount
      have hmem : i ∈ m.held := List.count_pos_iff.mp (by omega)
      rcases List.mem_append.mp hmem with hmem | hmem
      · obtain ⟨p, hp, rfl⟩ := List.mem_map.mp hmem
        obtain ⟨⟨u, _, hj⟩, hpass⟩ := hb.carried hp
        rw [hj] at hc
        cases hc
        have := hpass hno
        rw [show p.type = .createVm from ht] at this
        cases this
      · rw [hboot] at hmem
        exact hi hmem
  | _ => exact hno ho

theorem Base.step_fresh (hb : Base m) (hm : Move m l m') {i : JobId} {c : JobCore} {v : VmId}
    (hc : m'.jobs i = some c) (ht : c.type = .createVm) (hs : c.status = .queued)
    (hv : c.vmId = some v) : (∀ i' c', m'.jobs i' = some c' → c'.vmId = some v → i' = i) ∧
      ∃ x, m'.vms v = some x ∧ x.vmid = none ∧ x.deletedAt = none ∧
        (m'.Open → x.status = .creating) := by
  cases hm.jobs_back hb hc with
  | same hold _ _ hq =>
    cases hq hs
    obtain ⟨huniq, x, hx, hn, hd, hst⟩ := hb.fresh hold ht hs hv
    have hf : m.Fresh v := ⟨i, c, hold, ht, hs, hv⟩
    refine ⟨fun i' c' hc' hv' => ?_, ?_⟩
    · cases hm.jobs_back hb hc' with
      | same hold' _ hvm _ => exact huniq i' _ hold' (hvm ▸ hv')
      | added _ hcore _ hk _ =>
        subst hcore
        cases hv'
        exact absurd hf hk.run
      | created _ hcore hnone _ _ =>
        subst hcore
        cases hv'
        rw [hx] at hnone
        cases hnone
    · rcases hb.fresh_row hm hf hx with hx' | ⟨hno, x', hx', hn', hd'⟩
      · exact ⟨x, hx', hn, hd, fun ho => hst (hb.open_before hm ho hc hold ht hs)⟩
      · exact ⟨x', hx', hn'.trans hn, hd'.trans hd, fun ho => absurd ho hno⟩
  | added _ hcore hne _ _ =>
    subst hcore
    exact absurd ht hne
  | created _ hcore hnone hx hothers =>
    subst hcore
    cases hv
    refine ⟨fun i' c' hc' hv' => ?_, _, hx, rfl, rfl, fun _ => rfl⟩
    rcases hothers i' c' hc' with hi | hold
    · exact hi
    · obtain ⟨_, u, x, hu, hxu⟩ := hb.refs hold
      rw [hv'] at hu
      cases hu
      rw [hnone] at hxu
      cases hxu

theorem View.Fresh.update {v : VmId} (hf : m.Fresh v) {j : JobId} {y : JobCore}
    (hj : ∀ c, m.jobs j = some c → c.status ≠ .queued)
    (h : m'.jobs = Function.update m.jobs j (some y)) : m'.Fresh v := by
  obtain ⟨i, c, hc, ht, hs, hv⟩ := hf
  have hne : i ≠ j := by
    rintro rfl
    exact hj c hc hs
  exact ⟨i, c, by rw [h, Function.update_of_ne hne, hc], ht, hs, hv⟩

/-- A readiness check writes no column but the SSH status. -/
theorem Edit.ssh_only {w : Exec} {stage : Stage} {x : Core} {target : Option Int}
    (h : Edit w stage x target) (hw : w.Ok) (ht : w.type = .sshReadinessCheck) :
    x = { w.x with ssh := x.ssh } := by
  cases h with
  | metadata | target _ | targetLost _ | sshReady _ | sshFailed _ _ | noAddress _ | ready _ | prepare _ => rfl
  | power _ hop _ | stopped _ hop _ | addressed _ hop | unheard _ hop => exact absurd ht (powerOp_ne_ssh hop)
  | delete _ h | wipe _ h | deleted _ _ h | cleared _ h =>
    rw [ht] at h
    cases h
  | adopt hs | booted hs | address hs =>
    simp only [Exec.Ok, hs] at hw
    rw [ht] at hw
    cases hw.1

/-- A job that neither boots its guest nor checks it writes no running status. -/
theorem Edit.still_running {w : Exec} {stage : Stage} {x : Core} {target : Option Int}
    (h : Edit w stage x target) (hw : w.Ok) (hf : w.type.followedUp = false)
    (hne : w.type ≠ .sshReadinessCheck) (hr : x.status = .running) : x = w.x := by
  cases h with
  | metadata | target _ | targetLost _ | ready _ => rfl
  | @power op _ hop _ =>
    cases ht : w.type <;> rw [ht] at hop hf <;> cases hop <;> cases hr
  | stopped _ hop _ | addressed _ hop | unheard _ hop =>
    cases ht : w.type <;> rw [ht] at hop hf <;> cases hop
    · cases hf
    · cases hr
    · cases hf
  | delete _ _ | wipe _ _ | deleted _ _ _ | cleared _ _ => cases hr
  | prepare h =>
    rcases h with ⟨_, h⟩ | ⟨_, h⟩ <;> rw [h] at hf <;> cases hf
  | adopt _ => cases hr
  | booted hs | address hs | noAddress hs =>
    simp only [Exec.Ok, hs] at hw
    rw [JobType.followedUp_of_provisions hw.1] at hf
    cases hf
  | sshReady hs =>
    simp only [Exec.Ok, hs] at hw
    exact absurd hw.1 hne
  | sshFailed _ ht => exact absurd ht hne

theorem Base.step_transient (hb : Base m) (hm : Move m l m') {v : VmId} {x : Core}
    (hx : m'.vms v = some x) (hd : x.deletedAt = none) (ht : x.status.transient = true) :
    m'.Unrecovered ∨ (m'.Open ∧ m'.Fresh v) ∨
      ∃ w, m'.worker = .exec w ∧ w.v = v ∧ w.type ≠ .sshReadinessCheck := by
  have hold : ∀ {y : Core}, m.vms v = some y → y.deletedAt = none → y.status.transient = true →
      m.Unrecovered ∨ (m.Open ∧ m.Fresh v) ∨
        ∃ w, m.worker = .exec w ∧ w.v = v ∧ w.type ≠ .sshReadinessCheck := fun h => hb.transient h
  -- the record of a job at work is only excused by that job
  have hmine : ∀ {w : Exec} {y : Core}, m.worker = .exec w → m.vms w.v = some y →
      y.deletedAt = none → y.status.transient = true → w.type ≠ .sshReadinessCheck := by
    intro w y hw hy hdy hty
    rcases hb.transient hy hdy hty with hu | ⟨_, hf⟩ | ⟨w', hw', _, hne⟩
    · exact absurd hu.early (hb.late (.inl (by simp [hw])))
    · exact absurd hf (hb.exec_known hw).run
    · rw [hw] at hw'
      cases hw'
      exact hne
  have hrunning : ∀ {w : Exec}, m.worker = .exec w → ∀ c, m.jobs w.j = some c → c.status ≠ .queued := by
    intro w hw c hc
    rw [(hb.exec hw).job] at hc
    cases hc
    simp
  have hnew : ∀ {j : JobId}, m.jobs j = none → ∀ c, m.jobs j = some c → c.status ≠ .queued := by
    intro j hj c hc
    rw [hj] at hc
    cases hc
  cases hm with
  | crash _ => exact .inl (.inl rfl)
  | restart _ _ => exact .inl (.inr (.inl rfl))
  | seed _ _ => exact .inl (.inr (.inr rfl))
  | recover adopted _ _ _ =>
    simp only [Option.map_eq_some_iff] at hx
    obtain ⟨y, _, rfl⟩ := hx
    have hd' : y.deletedAt = none := hd
    simp only [Core.recovered, hd', Option.isNone_none, Bool.and_true] at ht
    split at ht
    · cases ht
    · next hne => exact absurd ht hne
  | startWorker ha hboot | select ha hboot _ _ _ | requeue ha hboot | abandon ha hboot =>
    rcases hold hx hd ht with hu | ⟨ho, _⟩ | hw
    · simp [View.Unrecovered, ha, hboot] at hu
    · have hover := ho.2
      rw [hboot] at hover
      cases hover
    · exact .inr (.inr hw)
  | get _ hw _ | job _ hw _ | vm _ hw _ _ | followPut _ hw =>
    rcases hold hx hd ht with hu | hf | ⟨w, hw', _⟩
    · exact .inl hu
    · exact .inr (.inl hf)
    · rw [hw] at hw'
      cases hw'
  | @enter p job u vm row _ _ hw _ =>
    obtain ⟨hj, hcore, _, _⟩ := hb.loaded hw
    rcases hold hx hd ht with hu | ⟨ho, i, c, hc, hct, hcs, hcv⟩ | ⟨w, hw', _⟩
    · exact .inl hu
    · by_cases hi : i = p.jobId
      · subst hi
        rw [hj] at hc
        cases hc
        cases hcv
        have htype : job.type = .createVm := (congrArg JobCore.type hcore).trans hct
        exact .inr (.inr ⟨_, rfl, rfl, by simp [Exec.begin, htype]⟩)
      · exact .inr (.inl ⟨ho, i, c, by simp [Function.update_of_ne hi, hc], hct, hcs, hcv⟩)
    · rw [hw] at hw'
      cases hw'
  | http _ hw _ _ | ssh _ hw _ _ _ | clock _ hw _ =>
    rcases hold hx hd ht with hu | hf | ⟨w', hw', hv, hne⟩
    · exact .inl hu
    · exact .inr (.inl hf)
    · rw [hw] at hw'
      cases hw'
      exact .inr (.inr ⟨_, rfl, hv, hne⟩)
  | @edit w stage x' row target _ _ hw hrow he =>
    by_cases hv : v = w.v
    · subst hv
      by_cases hssh : w.type = .sshReadinessCheck
      · simp only [Function.update_self, Option.some.injEq] at hx
        subst hx
        obtain ⟨hok, _, row', hrow', hag⟩ := hb.exec hw
        rw [hrow] at hrow'
        cases hrow'
        have hx' := he.ssh_only hok hssh
        have hst : x'.status = row.status := (congrArg Core.status hx').trans hag.status.symm
        have hdel : x'.deletedAt = row.deletedAt := (congrArg Core.deletedAt hx').trans hag.deletedAt.symm
        exact absurd hssh (hmine hw hrow (hdel ▸ hd) (hst ▸ ht))
      · exact .inr (.inr ⟨_, rfl, rfl, hssh⟩)
    · simp only [Function.update_of_ne hv] at hx
      rcases hold hx hd ht with hu | ⟨ho, hf⟩ | ⟨w', hw', hv', _⟩
      · exact .inl hu
      · exact .inr (.inl ⟨ho, hf.update (hrunning hw) rfl⟩)
      · rw [hw] at hw'
        cases hw'
        exact absurd hv'.symm hv
  | @fail w row _ _ hw hrow _ _ =>
    by_cases hv : v = w.v
    · subst hv
      simp only [Function.update_self, Option.some.injEq] at hx
      subst hx
      cases ht
    · simp only [Function.update_of_ne hv] at hx
      rcases hold hx hd ht with hu | ⟨ho, hf⟩ | ⟨w', hw', hv', _⟩
      · exact .inl hu
      · exact .inr (.inl ⟨ho, hf.update (hrunning hw) rfl⟩)
      · rw [hw] at hw'
        cases hw'
        exact absurd hv'.symm hv
  | @finish w _ _ hw hs =>
    rcases hold hx hd ht with hu | ⟨ho, hf⟩ | ⟨w', hw', hv', hne⟩
    · exact .inl hu
    · exact .inr (.inl ⟨ho, hf.update (hrunning hw) rfl⟩)
    · rw [hw] at hw'
      cases hw'
      subst hv'
      obtain ⟨hok, _, row, hrow, hag⟩ := hb.exec hw
      rw [hx] at hrow
      cases hrow
      simp only [Exec.Ok, hs] at hok
      rw [hag.status, hok.1 hne] at ht
      cases ht
  | follow _ hw hj =>
    rcases hold hx hd ht with hu | ⟨ho, hf⟩ | ⟨w', hw', _⟩
    · exact .inl hu
    · exact .inr (.inl ⟨ho, hf.update (hnew hj) rfl⟩)
    · rw [hw] at hw'
      cases hw'
  | insert _ _ _ hj _ _ _ _ =>
    rcases hold hx hd ht with hu | ⟨ho, hf⟩ | hw
    · exact .inl hu
    · exact .inr (.inl ⟨ho, hf.update (hnew hj) rfl⟩)
    · exact .inr (.inr hw)
  | @mark _ u vm row _ _ _ hrow =>
    have hy : ∃ y, m.vms v = some y ∧ y.deletedAt = none ∧ y.status.transient = true := by
      by_cases hv : v = u
      · subst hv
        simp only [Function.update_self, Option.some.injEq] at hx
        subst hx
        exact ⟨row, hrow, hd, ht⟩
      · simp only [Function.update_of_ne hv] at hx
        exact ⟨x, hx, hd, ht⟩
    obtain ⟨y, hy, hdy, hty⟩ := hy
    exact hold hy hdy hty
  | @create _ _ u j _ _ _ _ hφ _ hj _ _ _ =>
    by_cases hv : v = u
    · subst hv
      exact .inr (.inl ⟨hb.open_of_request hφ, j, _, by simp; rfl, rfl, rfl, rfl⟩)
    · simp only [Function.update_of_ne hv] at hx
      rcases hold hx hd ht with hu | ⟨ho, hf⟩ | hw
      · exact .inl hu
      · exact .inr (.inl ⟨ho, hf.update (hnew hj) rfl⟩)
      · exact .inr (.inr hw)
  | _ => exact hold hx hd ht

end Fields

/-- Every step keeps the invariant. -/
theorem Base.step {m m' : View} {l : Label} (hb : Base m) (hm : Move m l m') : Base m' where
  dead := hb.step_dead hm
  early := hb.step_early hm
  closed := hb.step_closed hm
  refs := hb.step_refs hm
  counts := hb.step_counts hm
  carried := hb.step_carried hm
  abandoned := hb.step_abandoned hm
  running := hb.step_running hm
  single := hb.step_single hm
  worker := hb.step_worker hm
  requests := hb.step_requests hm
  fresh := hb.step_fresh hm
  transient := hb.step_transient hm

end Clusteration
