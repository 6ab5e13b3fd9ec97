import Clusteration.Panel.Listing
import Clusteration.Properties.JobLife
import Clusteration.Properties.Progress

open Async Task Transition

namespace Clusteration

/-- A job has an error when it has failed, and only then. -/
structure Job.Told (job : Job) : Prop where
  failed : job.status = .failed → job.error.isSome = true
  others : job.status ≠ .failed → job.error = none

/-- A job that nobody has begun. -/
structure Job.Waits (job : Job) : Prop where
  queued : job.status = .queued
  error : job.error = none

/-- The commit ends the job with an error. -/
structure Dirty.Ending (d : Dirty Job) : Prop where
  unended : d.base.status ≠ .failed
  untold : d.base.error = none
  status : d.cur.status = .failed
  error : d.cur.error.isSome = true

/-- The commit is one of a job that goes on, or ends well. -/
structure Dirty.Working (d : Dirty Job) : Prop where
  untold : d.base.error = none
  status : d.cur.status ≠ .failed
  error : d.cur.error = none

/-- What keeps the rows told. -/
def Eff.Told : Eff → Prop
  | .commit f => (∀ d ∈ f.jobs, d.Ending) ∨ ∃ d, f.jobs = [d] ∧ d.Working
  | .insertJob job | .insertVM _ job => job.Waits
  | _ => True

/-- Where rows are told, this is what can be read of them. -/
def Eff.Tells : (e : Eff) → Ans e → Prop
  | .getJob _, a => ∀ job, a = some job → job.Waits
  | .selectQueued, a => ∀ j ∈ a, j.2.Waits
  | _, _ => True

theorem told_of_isRead {caller : Option Caller} {e : Eff} (h : IsRead caller e) : e.Told := by
  cases h with
  | clock hc => cases hc <;> trivial
  | _ => trivial

/-- A job at work has no error. -/
structure Session.Untold (s : Session) : Prop where
  base : s.job0.error = none
  baseStatus : s.job0.status ≠ .failed
  error : s.job.error = none
  status : s.job.status ≠ .failed

theorem told_workRules (c : Caller) (type : JobType) :
    WorkRules c type (Among Eff.Told) fun _ s _ => s.Untold where
  read := fun _ he _ _ => told_of_isRead he
  http := fun _ _ _ _ => trivial
  ssh := fun _ _ _ => trivial
  follow := fun _ _ => ⟨rfl, rfl⟩
  put := fun _ _ _ => trivial
  vm := fun _ hs => ⟨hs.base, hs.baseStatus, hs.error, hs.status⟩
  note := fun _ _ _ _ _ hs => ⟨hs.base, hs.baseStatus, hs.error, hs.status⟩
  succeed := fun _ hs => ⟨hs.base, hs.baseStatus, hs.error, by simp⟩
  commit := by
    intro k s φ hs
    have hworks : Dirty.Working ⟨c.job, s.job0, s.job⟩ := ⟨hs.base, hs.status, hs.error⟩
    exact ⟨(), .inr ⟨_, rfl, hworks⟩, ⟨hs.error, hs.status, hs.error, hs.status⟩⟩
  fail := by
    intro k s φ exc hs
    refine ⟨(), .inl ?_⟩
    intro d hd
    rw [List.mem_singleton.mp hd]
    exact ⟨hs.baseStatus, hs.base, rfl, rfl⟩

theorem runJob_told {settings : Settings} {payload : Payload} {c : Caller} {job : Job} {vm : VM}
    (hw : job.Waits) :
    (runJob settings payload c job ⟨job, job, vm, vm⟩).Within Eff.Told fun _ => True := by
  have hworks : Dirty.Working ⟨c.job, job, job.running⟩ := ⟨hw.error, by simp [Job.running], hw.error⟩
  have huntold : Session.Untold ⟨job.running, job.running, vm, vm⟩ :=
    ⟨hw.error, by simp [Job.running], hw.error, by simp [Job.running]⟩
  have hbegin : ∃ φ' : Unit, Among (R := Ans) Eff.Told ()
      (.commit ⟨[⟨c.job, job, job.running⟩], [⟨c.vm, vm, vm⟩]⟩) () φ' ∧
      Session.Untold ⟨job.running, job.running, vm, vm⟩ :=
    ⟨(), .inr ⟨_, rfl, hworks⟩, huntold⟩
  exact within_of_spec ((told_workRules c job.type).runJob_walk (F := Ended) rfl
    (fun _ _ _ _ _ _ => trivial) hbegin) trivial

theorem told_routeRules : RouteRules Eff.Told where
  read := fun _ => told_of_isRead
  getVM := fun _ => trivial
  mark := fun _ _ => .inl fun d hd => by cases hd
  insertJob := fun _ _ _ _ => ⟨rfl, rfl⟩
  insertVM := fun _ _ _ => ⟨rfl, rfl⟩
  put := fun _ _ => trivial
  lock := trivial
  unlock := trivial

theorem serve_told (settings : Settings) (r : Request) :
    (serve settings r).Within Eff.Told fun _ => True :=
  told_routeRules.serve_within settings r fun _ _ => trivial

theorem dispatchWithoutVm_told (j : JobId) {job : Job} (hw : job.Waits) :
    (dispatchWithoutVm j job).Heeds Eff.Tells Eff.Told := by
  have hqueued := hw.queued
  have herror := hw.error
  refine ⟨.inr ⟨_, rfl, ⟨herror, by simp, herror⟩⟩, fun _ _ => ⟨.inl ?_, fun _ _ => trivial⟩⟩
  intro d hd
  rw [List.mem_singleton.mp hd]
  exact ⟨by simp, herror, rfl, rfl⟩

/-- Every job is carried out as told, from a row that nobody has begun. -/
theorem dispatch_told (settings : Settings) (payload : Payload) :
    (dispatch settings payload).Heeds Eff.Tells Eff.Told := by
  refine ⟨trivial, fun found hfound => ?_⟩
  cases found with
  | none => trivial
  | some job =>
    have hw : job.Waits := hfound job rfl
    dsimp only
    cases payload.vmId with
    | none => exact dispatchWithoutVm_told _ hw
    | some v =>
      refine ⟨trivial, fun row _ => ?_⟩
      cases row with
      | none => exact dispatchWithoutVm_told _ hw
      | some vm =>
        apply Prog.heeds_of_within (Q := fun _ => True)
        apply Prog.within_bind (runJob_told hw)
        intro out _
        trivial

theorem putAll_told {ps : List Payload} {next : Prog Eff Ans Unit}
    (h : next.Heeds Eff.Tells Eff.Told) : (putAll ps next).Heeds Eff.Tells Eff.Told := by
  induction ps with
  | nil => exact h
  | cons p ps ih => exact ⟨trivial, fun _ _ => ih⟩

theorem lifespan_told (settings : Settings) : (lifespan settings).Heeds Eff.Tells Eff.Told := by
  refine ⟨trivial, fun _ _ => ⟨trivial, fun _ _ => ⟨trivial, fun _ _ => ⟨trivial, ?_⟩⟩⟩⟩
  intro jobs hjobs
  apply putAll_told
  refine ⟨.inl ?_, fun _ _ => trivial⟩
  intro d hd
  obtain ⟨j, hj, rfl⟩ := List.mem_map.mp hd
  have hw := hjobs j (List.mem_of_mem_filter hj)
  exact ⟨by simp [hw.queued], hw.error, rfl, rfl⟩

theorem Job.Waits.told {job : Job} (h : job.Waits) : job.Told where
  failed := fun hf => by
    rw [h.queued] at hf
    cases hf
  others := fun _ => h.error

theorem Dirty.Ending.told {d : Dirty Job} (h : d.Ending) (row : Job) :
    (Job.merge d.base d.cur row).Told := by
  have hstatus : (Job.merge d.base d.cur row).status = .failed := by
    have hne : d.cur.status ≠ d.base.status := by
      rw [h.status]
      exact Ne.symm h.unended
    exact (if_neg hne).trans h.status
  have herror : (Job.merge d.base d.cur row).error = d.cur.error := by
    apply if_neg
    rw [h.untold]
    exact Option.isSome_iff_ne_none.mp h.error
  exact ⟨fun _ => herror ▸ h.error, fun hne => absurd hstatus hne⟩

theorem Dirty.Working.told {d : Dirty Job} (h : d.Working) {row : Job} (hrow : row.Told)
    (hne : row.status ≠ .failed) : (Job.merge d.base d.cur row).Told := by
  have hstatus : (Job.merge d.base d.cur row).status ≠ .failed := by
    show column d.base.status d.cur.status row.status ≠ .failed
    unfold column
    split
    · exact hne
    · exact h.status
  have herror : (Job.merge d.base d.cur row).error = row.error := if_pos (h.error.trans h.untold.symm)
  exact ⟨fun hf => absurd hf hstatus, fun _ => herror.trans (hrow.others hne)⟩

def RowsTold (jobs : Table Job) : Prop := ∀ j job, jobs.get j = some job → job.Told

theorem RowsTold.update {jobs : Table Job} (h : RowsTold jobs) {j : JobId} {f : Job → Job}
    (hf : ∀ row, jobs.get j = some row → (f row).Told) : RowsTold (jobs.update j f) := by
  intro i row hrow
  rw [Table.get_update] at hrow
  split at hrow
  · next hi =>
    subst hi
    obtain ⟨old, hold, rfl⟩ := Option.map_eq_some_iff.mp hrow
    exact hf old hold
  · exact h i row hrow

theorem RowsTold.insert {jobs : Table Job} (h : RowsTold jobs) {job : Job} (hj : job.Told) :
    RowsTold (jobs.insert job) := by
  intro i row hrow
  rw [Table.get_insert] at hrow
  split at hrow
  · cases hrow
    exact hj
  · exact h i row hrow

theorem RowsTold.end_all {dirty : List (Dirty Job)} (hd : ∀ d ∈ dirty, d.Ending) {jobs : Table Job}
    (h : RowsTold jobs) :
    RowsTold (dirty.foldl (fun t d => t.update d.key (Job.merge d.base d.cur)) jobs) := by
  induction dirty generalizing jobs with
  | nil => exact h
  | cons d dirty ih =>
    apply ih fun d' hd' => hd d' (List.mem_cons_of_mem d hd')
    apply h.update
    intro row _
    exact (hd d List.mem_cons_self).told row

theorem recover_told {db : Db} (h : RowsTold db.jobs) :
    RowsTold (markOrphanedRunningAsFailed db).jobs := by
  intro j job hj
  simp only [markOrphanedRunningAsFailed, Table.get_rewrite] at hj
  obtain ⟨row, hrow, rfl⟩ := Option.map_eq_some_iff.mp hj
  split
  · exact ⟨fun _ => rfl, fun hne => absurd rfl hne⟩
  · exact h j row hrow

section Step
variable {sh sh' : Shared} {e : Eff} {a : Ans e}

/-- A step that leaves the rows of failed jobs alone. -/
theorem Act.told (h : Act sh e a sh') (he : e.Told) (hrows : RowsTold sh.db.jobs)
    (hkept : ∀ j job, sh.db.jobs.get j = some job → job.status = .failed →
      sh'.db.jobs.get j = some job) : RowsTold sh'.db.jobs := by
  cases e with
  | commit f =>
    obtain rfl := act_commit.mp h
    rcases he with hending | ⟨d, hone, hworking⟩
    · exact hrows.end_all hending
    · obtain ⟨jobs, vms⟩ := f
      dsimp only at hone
      subst hone
      show RowsTold (sh.db.jobs.update d.key (Job.merge d.base d.cur))
      apply hrows.update
      intro row hrow
      by_cases hf : row.status = .failed
      · have hsame := hkept d.key row hrow hf
        change (sh.db.jobs.update d.key (Job.merge d.base d.cur)).get d.key = some row at hsame
        rw [Table.get_update_self, hrow] at hsame
        rw [Option.some.inj hsame]
        exact hrows d.key row hrow
      · exact hworking.told (hrows d.key row hrow) hf
  | insertJob job =>
    obtain ⟨-, rfl⟩ := act_insertJob.mp h
    exact hrows.insert (Job.Waits.told he)
  | insertVM vm job =>
    obtain ⟨-, rfl⟩ := act_insertVM.mp h
    have hw : job.Waits := he
    exact hrows.insert (Job.Waits.told ⟨hw.queued, hw.error⟩)
  | recover =>
    obtain rfl := act_recover.mp h
    exact recover_told hrows
  | http caller req =>
    obtain ⟨i, pve, -, -, rfl⟩ := act_http.mp h
    exact hrows
  | ssh v ip =>
    rw [act_ssh.mp h]
    split <;> exact hrows
  | _ =>
    obtain ⟨i, h⟩ := h
    cases i <;> simp only [perform, reduceCtorEq] at h
    all_goals first
      | (cases h; exact hrows)
      | (split at h <;> cases h; exact hrows)

theorem waits_of_queued {jobs : Table Job} (h : RowsTold jobs) {j : JobId} {job : Job}
    (hj : jobs.get j = some job) (hq : job.status = .queued) : job.Waits :=
  ⟨hq, (h j job hj).others (by simp [hq])⟩

theorem BootT.tells {φ φ' : BootPhase} (ht : BootT φ e a φ') (h : Act sh e a sh')
    (hrows : RowsTold sh.db.jobs) : e.Tells a := by
  cases ht with
  | select jobs =>
    obtain ⟨-, l, hl, rfl⟩ := act_selectQueued.mp h
    intro j hj
    obtain ⟨i, hi, hsome⟩ := List.mem_filterMap.mp hj
    obtain ⟨job, hjob, rfl⟩ := Option.map_eq_some_iff.mp hsome
    obtain ⟨row, hrow, hq⟩ := Table.mem_select.mp (hl.mem_iff.mp hi)
    rw [hjob] at hrow
    cases hrow
    exact waits_of_queued hrows hjob (of_decide_eq_true hq)
  | _ => trivial

theorem WorkerT.tells {t : Abs} {φ : WorkerPhase} (ht : WorkerT t.worker e a φ) (hb : Base t.view)
    (h : Act t.shared e a sh') (hrows : RowsTold t.shared.db.jobs) : e.Tells a := by
  cases e with
  | getJob j =>
    obtain ⟨hget, -⟩ := act_getJob.mp h
    intro job hjob
    have hrow : t.shared.db.jobs.get j = some job := hget.symm.trans hjob
    exact waits_of_queued hrows hrow (queued_of_getJob hb ht hrow)
  | selectQueued =>
    generalize t.worker = ψ at ht
    cases ht with
    | quiet hread =>
      cases hread with
      | clock hc => cases hc
    | learn hl => cases hl
  | _ => trivial

end Step

/-- Everyone keeps the rows told. -/
structure Sys.Told (s : Sys) : Prop where
  boot : s.boot.Heeds Eff.Tells Eff.Told
  worker : s.worker.Heeds Eff.Tells Eff.Told
  requests : ∀ p ∈ s.requests, Prog.Within Eff.Told (fun _ => True) p
  rows : RowsTold s.shared.db.jobs

theorem Sys.Told.init {s : Sys} (h : Initial s) : s.Told where
  boot := by
    rw [h.boot]
    trivial
  worker := by
    rw [h.worker]
    trivial
  requests := by
    intro p hp
    rw [h.requests] at hp
    cases hp
  rows := by
    intro j job hj
    rw [h.jobs] at hj
    cases hj

theorem failed_kept {s s' : Sys} {l : Label} {t : Abs} (hr : Refines s t) (hb : Base t.view)
    (hs : Step s l s') {j : JobId} {job : Job} (hj : s.shared.db.jobs.get j = some job)
    (hf : job.status = .failed) : s'.shared.db.jobs.get j = some job := by
  obtain ⟨t', hstep, hr'⟩ := hr.step hs
  rw [hr.shared] at hj
  rw [hr'.shared]
  exact hstep.finished_kept hb hj (by rw [hf]; rfl)

theorem Sys.Told.step {s s' : Sys} {l : Label} {t : Abs} (h : s.Told) (hr : Refines s t)
    (hb : Base t.view) (hs : Step s l s') : s'.Told := by
  have hkept : ∀ j job, s.shared.db.jobs.get j = some job → job.status = .failed →
      s'.shared.db.jobs.get j = some job := fun j job hj hf => failed_kept hr hb hs hj hf
  have hrows : RowsTold t.shared.db.jobs := by
    rw [← hr.shared]
    exact h.rows
  cases hs with
  | crash _ => exact ⟨trivial, trivial, fun p hp => (by cases hp), h.rows⟩
  | restart settings _ => exact ⟨lifespan_told settings, trivial, fun p hp => (by cases hp), h.rows⟩
  | get _ _ _ _ => exact ⟨h.boot, dispatch_told _ _, h.requests, h.rows⟩
  | receive r _ _ =>
    refine ⟨h.boot, h.worker, ?_, h.rows⟩
    intro p hp
    rcases List.mem_append.mp hp with hp | hp
    · exact h.requests p hp
    · rw [List.mem_singleton.mp hp]
      exact serve_told _ r
  | boot _ hk hact =>
    have hboot := hr.boot
    rw [hk] at hboot
    obtain ⟨φ, ht, _⟩ := hboot _
    have hheeds := h.boot
    rw [hk] at hheeds
    exact ⟨hheeds.2 _ (ht.tells hact h.rows), h.worker, h.requests, hact.told hheeds.1 h.rows hkept⟩
  | worker _ hk hact =>
    have hworker := hr.worker
    rw [hk] at hworker
    obtain ⟨φ, ht, _⟩ := hworker _
    have hheeds := h.worker
    rw [hk] at hheeds
    have hact' := hact
    rw [hr.shared] at hact'
    exact ⟨h.boot, hheeds.2 _ (ht.tells hb hact' hrows), h.requests,
      hact.told hheeds.1 h.rows hkept⟩
  | request _ hk hact =>
    have hwithin := h.requests _ (List.mem_of_getElem? hk)
    refine ⟨h.boot, h.worker, ?_, hact.told hwithin.1 h.rows hkept⟩
    intro p hp
    rcases List.mem_or_eq_of_mem_set hp with hp | rfl
    · exact h.requests p hp
    · exact hwithin.2 _

theorem Reachable.told {s : Sys} (h : Reachable .any s) : s.Told := by
  have hreach : ∀ s, Reach Step Cond.any.ok Initial s → ∃ t, AReachable .any t ∧ Refines s t :=
    fun s hs => Reachable.abstract hs
  refine Reach.strengthen hreach (fun s => Sys.Told.init) ?_ h
  intro s l s' ht _ hp hs _
  obtain ⟨t, ht, hr⟩ := ht
  exact hp.step hr ht.base hs

def View.HasJob (m : View) (v : VmId) (status : JobStatus) : Prop :=
  ∃ i c, m.jobs i = some c ∧ c.vmId = some v ∧ c.status = status

/-- A live record in `error` has a failed job, and one on its way a running one, unless its creation is
still to be run. -/
structure View.Explained (m : View) : Prop where
  errors : ∀ {v x}, m.vms v = some x → x.deletedAt = none → x.status = .error →
    m.HasJob v .failed ∨ m.Fresh v
  transient : ∀ {v x}, m.vms v = some x → x.deletedAt = none → x.status.transient = true →
    m.HasJob v .running ∨ m.Fresh v

section View
variable {m m' : View} {l : Label} {v : VmId}

theorem View.HasJob.failed_step (h : m.HasJob v .failed) (hb : Base m) (hm : Move m l m') :
    m'.HasJob v .failed := by
  obtain ⟨i, c, hc, hv, hs⟩ := h
  obtain ⟨c', hc', -, hv', hmove⟩ := hm.jobs_forward hb hc
  rw [hs] at hmove
  refine ⟨i, c', hc', hv'.trans hv, ?_⟩
  generalize c'.status = status at hmove
  cases hmove with
  | kept => rfl
  | givenUp h =>
    rcases h with h | h <;> cases h

/-- Before the recovery nobody touches a row. -/
theorem Move.rows_still (hb : Base m) (hm : Move m l m') (hu : m'.Unrecovered) :
    m'.jobs = m.jobs ∧ m'.vms = m.vms := by
  have hearly : m.Unrecovered → m.Early := by
    intro h
    rcases h with h | h | h
    · exact .inl h
    · exact .inr (by simp [h, BootPhase.early])
    · exact .inr (by simp [h, BootPhase.early])
  have hworker : m.Unrecovered → m.worker ≠ .over → False := fun h hw => hb.late (.inl hw) (hearly h)
  have hrequest : m.Unrecovered → m.Open → False := by
    intro h ho
    simp [View.Unrecovered, ho.1, ho.2] at h
  cases hm with
  | recover _ ha _ _ => simp [View.Unrecovered, ha] at hu
  | abandon ha _ => simp [View.Unrecovered, ha] at hu
  | enter _ hw _ | edit _ hw _ _ | fail _ hw _ _ _ | finish _ hw _ | follow _ hw _ =>
    exact (hworker hu (by simp [hw])).elim
  | mark _ hφ _ | insert _ hφ _ _ _ _ _ _ | create _ hφ _ _ _ _ _ =>
    exact (hrequest hu (hb.open_of_request hφ)).elim
  | _ => exact ⟨rfl, rfl⟩

/-- A job that a step begins is the one the worker had loaded. -/
theorem Move.begun_loaded (hb : Base m) (hb' : Base m') (hm : Move m l m') {i : JobId}
    {c c' : JobCore} (hc : m.jobs i = some c) (hq : c.status = .queued) (hc' : m'.jobs i = some c')
    (hr : c'.status = .running) : ∃ p job v vm, m.worker = .loaded p job v vm ∧ p.jobId = i := by
  have hidle : ∀ w : Exec, m.worker = .exec w → w.j ≠ i := by
    rintro w hw rfl
    rw [(hb.exec hw).job] at hc
    cases hc
    cases hq
  rcases hb'.running hc' hr with hu | ⟨w, hw, rfl⟩
  · rw [(hm.rows_still hb hu).1, hc] at hc'
    cases hc'
    rw [hq] at hr
    cases hr
  · cases hm.exec_back hw with
    | enter hloaded _ _ hwe => exact ⟨_, _, _, _, hloaded, by rw [hwe]; rfl⟩
    | same h => exact (hidle _ h rfl).elim
    | allocated h _ _ _ _ _ _ hwe | reached h _ _ _ _ _ _ hwe | learn h _ _ _ _ hwe
    | edit h _ hwe =>
      subst hwe
      exact (hidle _ h rfl).elim

/-- A startup leaves the creation of a VM where it is, or gives it up. -/
theorem View.Fresh.startup_step (h : m.Fresh v) (hb : Base m) (hb' : Base m') (hm : Move m l m')
    (hclosed : ¬ m.Open) : m'.HasJob v .failed ∨ m'.Fresh v := by
  obtain ⟨i, c, hc, ht, hq, hv⟩ := h
  obtain ⟨c', hc', ht', hv', hmove⟩ := hm.jobs_forward hb hc
  cases hs : c'.status with
  | queued => exact .inr ⟨i, c', hc', ht'.trans ht, hs, hv'.trans hv⟩
  | failed => exact .inl ⟨i, c', hc', hv'.trans hv, hs⟩
  | success =>
    rw [hq, hs] at hmove
    cases hmove
  | running =>
    obtain ⟨p, job, u, vm, hw, rfl⟩ := hm.begun_loaded hb hb' hc hq hc' hs
    obtain ⟨hrow, -, hp, -⟩ := hb.loaded hw
    rw [hc] at hrow
    cases hrow
    have hnone := (hb.carried hp).2 hclosed
    have htype : p.type = .createVm := ht
    rw [htype] at hnone
    cases hnone

/-- Where the status `error` of a live record comes from. -/
inductive ErrorOrigin (m m' : View) (v : VmId) : Prop
  | old {x : Core} : m.vms v = some x → x.deletedAt = none → x.status = .error → ErrorOrigin m m' v
  | failed : m'.HasJob v .failed → ErrorOrigin m m' v
  | recovered {x : Core} : m.vms v = some x → x.deletedAt = none → x.status.transient = true →
      (∀ i, m'.jobs i = (m.jobs i).map JobCore.interrupted) → ErrorOrigin m m' v

theorem Edit.error_back {w : Exec} {stage : Stage} {x : Core} {target : Option Int}
    (h : Edit w stage x target) (he : x.status = .error) : w.x.status = .error := by
  have hop : ∀ {op : PowerOp}, powerOp w.type = some op →
      op.transient ≠ .error ∧ op.final ≠ .error := by
    intro op hop
    cases ht : w.type <;> rw [ht] at hop <;> cases hop <;> exact ⟨by simp, by simp⟩
  cases h with
  | power _ hpower _ => exact absurd he (hop hpower).1
  | stopped _ hpower _ | addressed _ hpower | unheard _ hpower => exact absurd he (hop hpower).2
  | delete _ _ | wipe _ _ | deleted _ _ _ | cleared _ _ | adopt _ | booted _ => cases he
  | _ => exact he

theorem Move.error_back (hb : Base m) (hm : Move m l m') {x' : Core} (hx' : m'.vms v = some x')
    (hd : x'.deletedAt = none) (he : x'.status = .error) : ErrorOrigin m m' v := by
  cases hm with
  | recover adopted _ _ _ =>
    obtain ⟨x, hx, rfl⟩ := Option.map_eq_some_iff.mp hx'
    by_cases ht : x.status.transient = true
    · exact .recovered hx hd ht fun _ => rfl
    · have hsame : (Core.recovered (adopted v) x).status = x.status := by simp [Core.recovered, ht]
      exact .old hx hd (hsame.symm.trans he)
  | @edit w stage x row target f _ hw hrow hedit =>
    simp only [Function.update_apply] at hx'
    split at hx'
    · next hv =>
      subst hv
      cases hx'
      obtain ⟨-, -, row', hrow', hag⟩ := hb.exec hw
      rw [hrow] at hrow'
      cases hrow'
      exact .old hrow (hag.deletedAt.trans (hedit.live hd)) (hag.status.trans (hedit.error_back he))
    · exact .old hx' hd he
  | @fail w row f _ _ _ _ _ =>
    simp only [Function.update_apply] at hx'
    split at hx'
    · next hv =>
      subst hv
      exact .failed ⟨w.j, _, Function.update_self _ _ _, rfl, rfl⟩
    · exact .old hx' hd he
  | mark _ _ hrow =>
    simp only [Function.update_apply] at hx'
    split at hx'
    · next hv =>
      subst hv
      cases hx'
      exact .old hrow hd he
    · exact .old hx' hd he
  | create _ _ _ _ _ _ _ =>
    simp only [Function.update_apply] at hx'
    split at hx'
    · cases hx'
      cases he
    · exact .old hx' hd he
  | _ => exact .old hx' hd he

theorem View.Explained.step (h : m.Explained) (hb : Base m) (hb' : Base m') (hm : Move m l m') :
    m'.Explained where
  errors := by
    intro v x' hx' hd he
    have hfresh : m.Fresh v → ¬ m.Open → m'.HasJob v .failed ∨ m'.Fresh v :=
      fun hf hclosed => hf.startup_step hb hb' hm hclosed
    cases hm.error_back hb hx' hd he with
    | old hx hd he =>
      rcases h.errors hx hd he with hjob | hf
      · exact .inl (hjob.failed_step hb hm)
      · apply hfresh hf
        intro ho
        -- an open panel shows a VM whose creation is still to be run as `creating`
        obtain ⟨i, c, hc, ht, hq, hv⟩ := hf
        obtain ⟨-, y, hy, -, -, hcreating⟩ := hb.fresh hc ht hq hv
        rw [hx] at hy
        cases hy
        rw [hcreating ho] at he
        cases he
    | failed hjob => exact .inl hjob
    | recovered hx hd ht hjobs =>
      rcases h.transient hx hd ht with ⟨i, c, hc, hv, hs⟩ | ⟨i, c, hc, ht, hq, hv⟩
      · refine .inl ⟨i, { c with status := .failed }, ?_, hv, rfl⟩
        rw [hjobs, hc]
        simp [JobCore.interrupted, hs]
      · refine .inr ⟨i, c, ?_, ht, hq, hv⟩
        rw [hjobs, hc]
        simp [JobCore.interrupted, hq]
  transient := by
    intro v x' hx' hd ht
    by_cases hu : m'.Unrecovered
    · obtain ⟨hjobs, hvms⟩ := hm.rows_still hb hu
      rw [hvms] at hx'
      unfold View.HasJob View.Fresh
      rw [hjobs]
      exact h.transient hx' hd ht
    · rcases hb'.transient hx' hd ht with hu' | ⟨-, hf⟩ | ⟨w, hw, rfl, -⟩
      · exact absurd hu' hu
      · exact .inr hf
      · exact .inl ⟨w.j, _, (hb'.exec hw).job, rfl, rfl⟩

end View

theorem AReachable.explained {cond : Cond} {t : Abs} (h : AReachable cond t) : t.view.Explained := by
  refine h.invariant (P := View.Explained) (fun t hi => ?_) fun _ _ _ hb hb' h hm _ => h.step hb hb' hm
  have hnone : ∀ v, t.view.vms v = none := by
    intro v
    show (t.shared.db.vms.get v).map VM.core = none
    rw [hi.vms]
    rfl
  exact ⟨fun hx => by simp [hnone] at hx, fun hx => by simp [hnone] at hx⟩

/-- The first of the jobs that is one of the VM. -/
def Db.firstJob (db : Db) (v : VmId) (jobs : List JobId) : Option JobId :=
  jobs.find? fun j => (db.jobs.get j).any fun job => job.vmId = some v

theorem find?_setdefault (errors : List (VmId × JobId × Job)) (j : JobId) (job : Job) (v : VmId) :
    (setdefault errors j job).find? (fun e => e.1 = v) =
      (errors.find? fun e => e.1 = v).or (if job.vmId = some v then some (v, j, job) else none) := by
  unfold setdefault
  cases hvm : job.vmId with
  | none => simp
  | some u =>
    dsimp only
    by_cases hany : (errors.any fun e => e.1 = u) = true
    · simp only [hany, if_true]
      by_cases hu : u = v
      · subst hu
        have hsome : (errors.find? fun e => e.1 = u).isSome = true := by
          rw [List.find?_isSome]
          simpa using hany
        obtain ⟨e, he⟩ := Option.isSome_iff_exists.mp hsome
        simp [he]
      · simp [hu]
    · rw [if_neg hany, List.find?_append]
      by_cases hu : u = v
      · simp [hu]
      · simp [hu]

/-- The dictionary holds the first job of each VM. -/
theorem find?_errors (db : Db) (v : VmId) (jobs : List JobId) (errors : List (VmId × JobId × Job)) :
    (jobs.foldl db.noteError errors).find? (fun e => e.1 = v) =
      (errors.find? fun e => e.1 = v).or ((db.firstJob v jobs).bind fun j =>
        (db.jobs.get j).map fun job => (v, j, job)) := by
  induction jobs generalizing errors with
  | nil => simp [Db.firstJob]
  | cons j jobs ih =>
    rw [List.foldl_cons, ih]
    cases hj : db.jobs.get j with
    | none => simp [Db.noteError, Db.firstJob, hj]
    | some job =>
      rw [Db.noteError, hj]
      dsimp only
      rw [find?_setdefault, Option.or_assoc]
      congr 1
      by_cases hv : job.vmId = some v
      · simp [Db.firstJob, hj, hv]
      · simp [Db.firstJob, hj, hv]

theorem mem_listVms {labels : Labels} {db later : Db} {vms jobs : List JobId} {v : VmId} {vm : VM}
    (hv : v ∈ vms) (hvm : db.vms.get v = some vm) :
    serializeVm labels v vm ((later.firstJob v jobs).bind fun j =>
      (later.jobs.get j).map fun job => (j, job)) ∈ listVms labels db later vms jobs := by
  apply List.mem_filterMap.mpr
  refine ⟨v, hv, ?_⟩
  rw [hvm, find?_errors, List.find?_nil, Option.none_or]
  cases later.firstJob v jobs with
  | none => rfl
  | some j =>
    show some _ = some _
    simp only [Option.bind_some, Option.map_map]
    rfl

theorem Reachable.failed_iff {s : Sys} (h : Reachable .any s) {j : JobId} {job : Job}
    (hj : s.shared.db.jobs.get j = some job) : job.status = .failed ↔ job.error.isSome = true := by
  have htold := h.told.rows j job hj
  constructor
  · exact htold.failed
  · intro hsome
    by_contra hne
    rw [htold.others hne] at hsome
    cases hsome

/-- Once the startup is over, a job of every live VM in `error` has failed. -/
theorem Reachable.failed_job {s : Sys} (h : Reachable .any s) (halive : s.alive = true)
    (hboot : s.boot.isRet = true) {v : VmId} {vm : VM} (hv : s.shared.db.vms.get v = some vm)
    (hd : vm.deletedAt = none) (he : vm.status = .error) :
    ∃ j job, s.shared.db.jobs.get j = some job ∧ job.vmId = some v ∧ job.status = .failed := by
  obtain ⟨t, ht, hr⟩ := h.abstract
  have hx : t.view.vms v = some vm.core := by
    show (t.shared.db.vms.get v).map VM.core = _
    rw [← hr.shared, hv]
    rfl
  have hopen : t.view.Open := ⟨hr.alive.symm.trans halive, hr.boot_over hboot⟩
  rcases ht.explained.errors hx hd he with ⟨j, c, hc, hcv, hcs⟩ | ⟨i, c, hc, htype, hq, hcv⟩
  · obtain ⟨row, hrow, rfl⟩ := Option.map_eq_some_iff.mp hc
    rw [← hr.shared] at hrow
    exact ⟨j, row, hrow, hcv, hcs⟩
  · obtain ⟨-, y, hy, -, -, hcreating⟩ := ht.base.fresh hc htype hq hcv
    rw [hx] at hy
    cases hy
    have hstatus : vm.status = .creating := hcreating hopen
    rw [he] at hstatus
    cases hstatus

/-- It keeps its row whatever happens next. -/
theorem Reachable.finished_kept {s s' : Sys} (h : Reachable .any s) (hp : Path Step Cond.any.ok s s')
    {j : JobId} {job : Job} (hj : s.shared.db.jobs.get j = some job)
    (hf : job.status.finished = true) : s'.shared.db.jobs.get j = some job := by
  obtain ⟨t, ht, hr⟩ := h.abstract
  obtain ⟨t', hp', hr'⟩ := hr.path hp
  rw [hr.shared] at hj
  rw [hr'.shared]
  exact (finished_path ht hp' hj hf).1

/-- The panel says why. After any run, with crashes and restarts, a job has an error if and only if it
failed; and once the startup is over `GET /vms` shows every live VM in `error` with the error of a failed job
of that VM, the first that the query of the jobs with errors names, however much later it reads them. -/
theorem errors_explained {s : Sys} (h : Reachable .any s) :
    (∀ j job, s.shared.db.jobs.get j = some job →
      (job.status = .failed ↔ job.error.isSome = true)) ∧
    (s.alive = true → s.boot.isRet = true → ∀ s', Path Step Cond.any.ok s s' →
      ∀ (labels : Labels) (vms : List VmId) (jobs : List JobId),
      vms.Perm s.shared.db.listed → jobs.Perm (s'.shared.db.errored vms) →
      ∀ v vm, s.shared.db.vms.get v = some vm → vm.deletedAt = none → vm.status = .error →
        ∃ j job text, s'.shared.db.firstJob v jobs = some j ∧ s'.shared.db.jobs.get j = some job ∧
          job.vmId = some v ∧ job.status = .failed ∧ job.error = some text ∧
          ∃ out ∈ listVms labels s.shared.db s'.shared.db vms jobs, out.id = labels.uuid v ∧
            out.status = .error ∧ out.lastError = some text ∧
            out.lastErrorJobType = some job.type.value) := by
  refine ⟨fun j job => h.failed_iff, ?_⟩
  intro halive hboot s' hp labels vms jobs hvms hjobs v vm hv hd he
  have h' : Reachable .any s' := Reach.path h hp
  have hlisted : v ∈ vms := by
    apply hvms.mem_iff.mpr
    exact Table.mem_select.mpr ⟨vm, hv, by simp [hd]⟩
  -- the job that failed is still there when the jobs are read
  obtain ⟨i, row, hi, hrowVm, hfailed⟩ := h.failed_job halive hboot hv hd he
  have hrow : s'.shared.db.jobs.get i = some row := by
    apply h.finished_kept hp hi
    rw [hfailed]
    rfl
  have hmem : i ∈ jobs := by
    apply hjobs.mem_iff.mpr
    refine Table.mem_select.mpr ⟨row, hrow, ?_⟩
    simp [(h'.failed_iff hrow).mp hfailed, hrowVm, hlisted]
  -- so the query names one of the VM's jobs
  have hfirst : (s'.shared.db.firstJob v jobs).isSome = true := by
    apply List.find?_isSome.mpr
    refine ⟨i, hmem, ?_⟩
    simp [hrow, hrowVm]
  obtain ⟨j, hj⟩ := Option.isSome_iff_exists.mp hfirst
  obtain ⟨job, hjrow, herror⟩ := Table.mem_select.mp (hjobs.mem_iff.mp (List.mem_of_find?_eq_some hj))
  have hjv : job.vmId = some v := by simpa [hjrow] using List.find?_some hj
  rw [Bool.and_eq_true] at herror
  obtain ⟨text, htext⟩ := Option.isSome_iff_exists.mp herror.1
  refine ⟨j, job, text, hj, hjrow, hjv, (h'.failed_iff hjrow).mpr herror.1, htext, _,
    mem_listVms hlisted hv, rfl, he, ?_, ?_⟩
  · simp [serializeVm, he, hj, hjrow, htext]
  · simp [serializeVm, he, hj, hjrow]

/-- The VM of the failed creation is shown with the error of that creation. -/
theorem errors_explained_failedCreation : ∃ s, Reachable .any s ∧ ∀ labels : Labels,
    ∃ j job text, s.shared.db.jobs.get j = some job ∧ job.vmId = some 0 ∧ job.status = .failed ∧
      job.error = some text ∧
      ∃ out ∈ listVms labels s.shared.db s.shared.db s.shared.db.listed
          (s.shared.db.errored s.shared.db.listed),
        out.id = labels.uuid 0 ∧ out.status = .error ∧ out.lastError = some text ∧
        out.lastErrorJobType = some job.type.value := by
  have hrun : (Scenario.panel.run (fun _ _ _ => true) failedCreation).any (fun s =>
      s.Between ∧ (s.shared.db.vms.get 0).any fun vm => vm.deletedAt = none ∧ vm.status = .error) =
        true := by
    decide +kernel
  obtain ⟨s, hs, hchecks⟩ := Scenario.evaluated_any hrun
  obtain ⟨hbetween, hvm⟩ := of_decide_eq_true hchecks
  obtain ⟨vm, hrow, hstatus⟩ := (Option.any_eq_true _ _).mp hvm
  obtain ⟨hd, he⟩ := of_decide_eq_true hstatus
  refine ⟨s, hs, fun labels => ?_⟩
  obtain ⟨j, job, text, -, hjob⟩ := (errors_explained hs).2 hbetween.alive hbetween.started s (.refl s)
    labels _ _ (.refl _) (.refl _) 0 vm hrow hd he
  exact ⟨j, job, text, hjob⟩

end Clusteration
