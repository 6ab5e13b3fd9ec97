import Clusteration.Properties.JobLife
import Clusteration.Protocol.Progress
import Clusteration.Protocol.Walks

open Async Task Transition

namespace Clusteration

/-- No request touches the row of a job that is there. -/
theorem aside_rules : RouteRules fun e => e.aside = true where
  read := fun _ => aside_of_isRead
  getVM := fun _ => rfl
  mark := fun _ _ => rfl
  insertJob := by
    intro type v metadata hm
    have hzero : keyIndex (operationKey metadata.operation) = 0 := by
      rcases hm with hm | hm <;> rw [hm] <;> rfl
    simp [Eff.aside, Job.progress, hzero]
  insertVM := fun _ _ _ => rfl
  put := fun _ _ => rfl
  lock := rfl
  unlock := rfl

theorem serve_aside (settings : Settings) (r : Request) :
    (serve settings r).Within (fun e => e.aside = true) fun _ => True :=
  aside_rules.serve_within settings r fun _ _ => rfl

/-- A row that a run leaves: nothing of a queued job is done, and a provisioning that succeeded has come as
far as the address. -/
structure Job.Charted (job : Job) : Prop where
  queued : job.status = .queued → job.progress = 0
  success : job.status = .success → job.type.provisions = true → 6 ≤ job.progress

/-- The row goes on to be `job'`. -/
structure Job.GoesOn (job job' : Job) : Prop where
  type : job'.type = job.type
  forward : job.progress ≤ job'.progress
  begun : job.status ≠ .queued → job'.status ≠ .queued
  charted : job.Charted → job'.Charted

theorem Job.GoesOn.refl (job : Job) : job.GoesOn job := ⟨rfl, Nat.le_refl _, id, id⟩

theorem Job.GoesOn.trans {job job' job'' : Job} (h : job.GoesOn job') (h' : job'.GoesOn job'') :
    job.GoesOn job'' where
  type := h'.type.trans h.type
  forward := Nat.le_trans h.forward h'.forward
  begun := fun hb => h'.begun (h.begun hb)
  charted := fun hc => h'.charted (h.charted hc)

/-- Every row goes on, and the new ones are of queued jobs. -/
structure Onward (jobs jobs' : Table Job) : Prop where
  rows : ∀ {j row}, jobs.get j = some row → ∃ row', jobs'.get j = some row' ∧ row.GoesOn row'
  fresh : ∀ {j row'}, jobs'.get j = some row' → jobs.get j = none → row'.Charted

/-- As it does where nobody but the worker writes `job.meta`. -/
structure Untouched (jobs jobs' : Table Job) : Prop where
  onward : Onward jobs jobs'
  metadata : ∀ {j row row'}, jobs.get j = some row → jobs'.get j = some row' →
    row'.metadata = row.metadata

theorem Untouched.refl (jobs : Table Job) : Untouched jobs jobs where
  onward :=
    { rows := fun {_ row} h => ⟨row, h, .refl row⟩
      fresh := fun h hnone => by rw [hnone] at h; cases h }
  metadata := fun h h' => by rw [h] at h'; cases h'; rfl

theorem Untouched.trans {jobs jobs' jobs'' : Table Job} (h : Untouched jobs jobs') (h' : Untouched jobs' jobs'') :
    Untouched jobs jobs'' := by
  refine ⟨⟨?_, ?_⟩, ?_⟩
  · intro j row hrow
    obtain ⟨row', hrow', hon⟩ := h.onward.rows hrow
    obtain ⟨row'', hrow'', hon'⟩ := h'.onward.rows hrow'
    exact ⟨row'', hrow'', hon.trans hon'⟩
  · intro j row'' hrow'' hnone
    cases hrow' : jobs'.get j with
    | none => exact h'.onward.fresh hrow'' hrow'
    | some row' =>
      obtain ⟨row, hrow, hon⟩ := h'.onward.rows hrow'
      rw [hrow''] at hrow
      cases hrow
      exact hon.charted (h.onward.fresh hrow' hnone)
  · intro j row row'' hrow hrow''
    obtain ⟨row', hrow', _⟩ := h.onward.rows hrow
    exact (h'.metadata hrow' hrow'').trans (h.metadata hrow hrow')

theorem Untouched.of_eq {jobs jobs' : Table Job} (h : jobs' = jobs) : Untouched jobs jobs' := by
  subst h
  exact .refl jobs'

theorem Untouched.insert {jobs : Table Job} {job : Job} (hq : job.status = .queued)
    (hp : job.progress = 0) : Untouched jobs (jobs.insert job) := by
  have hrow : ∀ {j row}, jobs.get j = some row → (jobs.insert job).get j = some row :=
    fun h => Table.get_insert_of_some h
  refine ⟨⟨fun {_ row} h => ⟨row, hrow h, .refl row⟩, ?_⟩, ?_⟩
  · intro j row' h hnone
    rw [Table.get_insert] at h
    split at h
    · cases h
      exact ⟨fun _ => hp, fun hs => by rw [hq] at hs; cases hs⟩
    · rw [hnone] at h
      cases h
  · intro j row row' h h'
    rw [hrow h] at h'
    cases h'
    rfl

/-- Jobs that are given up keep their `meta`. -/
theorem Untouched.map {jobs jobs' : Table Job} {f : JobId → Job → Job}
    (h : ∀ j, jobs'.get j = (jobs.get j).map (f j))
    (hf : ∀ j row, (f j row).type = row.type ∧ (f j row).metadata = row.metadata ∧
      ((f j row).status = row.status ∨ (f j row).status = .failed)) : Untouched jobs jobs' := by
  refine ⟨⟨?_, ?_⟩, ?_⟩
  · intro j row hrow
    obtain ⟨htype, hmeta, hstatus⟩ := hf j row
    have hprogress : (f j row).progress = row.progress := by
      unfold Job.progress
      rw [hmeta]
    refine ⟨f j row, by rw [h, hrow]; rfl, htype, Nat.le_of_eq hprogress.symm, ?_, ?_⟩
    · intro hne
      rcases hstatus with hs | hs <;> simp [hs, hne]
    · intro hc
      refine ⟨fun hq => ?_, fun hs ht => ?_⟩
      · rw [hprogress]
        rcases hstatus with hkept | hfailed
        · exact hc.queued (hkept ▸ hq)
        · rw [hfailed] at hq
          cases hq
      · rw [hprogress]
        rcases hstatus with hkept | hfailed
        · exact hc.success (hkept ▸ hs) (htype ▸ ht)
        · rw [hfailed] at hs
          cases hs
  · intro j row' hrow' hnone
    rw [h, hnone] at hrow'
    cases hrow'
  · intro j row row' hrow hrow'
    rw [h, hrow] at hrow'
    cases hrow'
    exact (hf j row).2.1

/-- The commit of the jobs that a startup gives up. -/
theorem Untouched.abandon (abandoned : List (JobId × Job)) (jobs : Table Job) :
    Untouched jobs (abandoned.foldl
      (fun t j => t.update j.1 (Job.merge j.2 (abandonJob j.2))) jobs) := by
  induction abandoned generalizing jobs with
  | nil => exact .refl jobs
  | cons j abandoned ih =>
    apply Untouched.trans _ (ih _)
    apply Untouched.map (f := fun i row => if j.1 = i then Job.merge j.2 (abandonJob j.2) row else row)
    · intro i
      rw [Table.get_update]
      split <;> simp_all
    · intro i row
      split
      · refine ⟨rfl, by simp [Job.merge, column, abandonJob], ?_⟩
        by_cases hs : JobStatus.failed = j.2.status
        · exact .inl (by simp [Job.merge, column, abandonJob, hs])
        · exact .inr (by simp [Job.merge, column, abandonJob, hs])
      · exact ⟨rfl, rfl, .inl rfl⟩

section Step
variable {sh sh' : Shared} {e : Eff} {a : Ans e}

theorem Act.aside_untouched (h : Act sh e a sh') (he : e.aside = true) : Untouched sh.db.jobs sh'.db.jobs := by
  cases e with
  | commit f =>
    obtain rfl := act_commit.mp h
    obtain ⟨jobs, vms⟩ := f
    obtain rfl : jobs = [] := List.isEmpty_iff.mp he
    exact .refl _
  | insertJob job =>
    obtain ⟨-, rfl⟩ := act_insertJob.mp h
    have hfresh : job.status = .queued ∧ job.progress = 0 := by simpa [Eff.aside] using he
    exact .insert hfresh.1 hfresh.2
  | insertVM vm job =>
    obtain ⟨-, rfl⟩ := act_insertVM.mp h
    have hfresh : job.status = .queued ∧ job.progress = 0 := by simpa [Eff.aside] using he
    exact .insert hfresh.1 hfresh.2
  | recover => cases he
  | http caller req =>
    obtain ⟨i, pve, -, -, rfl⟩ := act_http.mp h
    exact .refl _
  | ssh v ip =>
    apply Untouched.of_eq
    rw [act_ssh.mp h]
    split <;> rfl
  | _ =>
    obtain ⟨i, h⟩ := h
    apply Untouched.of_eq
    cases i <;> simp only [perform, reduceCtorEq] at h
    all_goals first
      | (cases h; rfl)
      | (split at h <;> cases h; rfl)

theorem BootT.kept {φ φ' : BootPhase} (ht : BootT φ e a φ') (h : Act sh e a sh') :
    Untouched sh.db.jobs sh'.db.jobs := by
  cases ht with
  | seed _ | startWorker | select _ | put => exact h.aside_untouched rfl
  | recover =>
    obtain rfl := act_recover.mp h
    apply Untouched.map (f := fun _ job => if job.status = .running then
        { job with status := .failed, error := some "job interrompido por restart do serviço" }
      else job)
    · intro j
      simp [markOrphanedRunningAsFailed]
    · intro j row
      split <;> simp
  | @abandon abandoned =>
    obtain rfl := act_commit.mp h
    show Untouched _ (List.foldl _ _ (abandoned.map _))
    rw [List.foldl_map]
    exact .abandon abandoned _

end Step

def ProgressPhase.Holds (jobs : Table Job) : ProgressPhase → Prop
  | free => True
  | loaded j job => job.status = .queued ∧ ∃ row, jobs.get j = some row ∧ row.type = job.type ∧
      row.metadata = job.metadata
  | held j type metadata => ∃ row, jobs.get j = some row ∧ row.type = type ∧
      row.metadata = metadata ∧ row.status ≠ .queued
  | lost => False

theorem ProgressPhase.Holds.kept {φ : ProgressPhase} {jobs jobs' : Table Job} (h : φ.Holds jobs)
    (hk : Untouched jobs jobs') : φ.Holds jobs' := by
  cases φ with
  | free => trivial
  | lost => exact h
  | loaded j job =>
    obtain ⟨hq, row, hrow, htype, hmeta⟩ := h
    obtain ⟨row', hrow', hon⟩ := hk.onward.rows hrow
    exact ⟨hq, row', hrow', hon.type.trans htype, (hk.metadata hrow hrow').trans hmeta⟩
  | held j type metadata =>
    obtain ⟨row, hrow, htype, hmeta, hbegun⟩ := h
    obtain ⟨row', hrow', hon⟩ := hk.onward.rows hrow
    exact ⟨row', hrow', hon.type.trans htype, (hk.metadata hrow hrow').trans hmeta, hon.begun hbegun⟩

/-- A commit of one job. -/
theorem Onward.update {jobs : Table Job} {j : JobId} {f : Job → Job}
    (h : ∀ row, jobs.get j = some row → row.GoesOn (f row)) : Onward jobs (jobs.update j f) where
  rows := by
    intro i row hrow
    rw [Table.get_update]
    split
    · next hi =>
      subst hi
      exact ⟨f row, by rw [hrow]; rfl, h row hrow⟩
    · exact ⟨row, hrow, .refl row⟩
  fresh := by
    intro i row' hrow' hnone
    rw [Table.get_update, hnone] at hrow'
    split at hrow' <;> cases hrow'

section Worker
variable {jobs : Table Job} {j : JobId}

theorem begin_onward {job : Job} (h : (ProgressPhase.loaded j job).Holds jobs) :
    Onward jobs (jobs.update j (Job.merge job job.running)) ∧
      (ProgressPhase.held j job.type job.metadata).Holds
        (jobs.update j (Job.merge job job.running)) := by
  obtain ⟨hq, row, hrow, htype, hmeta⟩ := h
  have hmerged : ∀ row, (Job.merge job job.running row).metadata = row.metadata ∧
      (Job.merge job job.running row).status = .running := by
    intro row
    simp [Job.merge, column, Job.running, hq]
  constructor
  · apply Onward.update
    intro row' _
    obtain ⟨hmeta', hstatus⟩ := hmerged row'
    have hprogress : (Job.merge job job.running row').progress = row'.progress := by
      unfold Job.progress
      rw [hmeta']
    refine ⟨rfl, Nat.le_of_eq hprogress.symm, ?_, ?_⟩
    · intro _
      simp [hstatus]
    · intro _
      exact ⟨by simp [hstatus], by simp [hstatus]⟩
  · obtain ⟨hmeta', hstatus⟩ := hmerged row
    refine ⟨Job.merge job job.running row, by rw [Table.get_update_self, hrow]; rfl, htype, ?_, ?_⟩
    · exact hmeta'.trans hmeta
    · simp [hstatus]

theorem advance_onward {type : JobType} {m m' : JobMeta} {f : Flush} (hf : Advances j type m m' f)
    {db : Db} (h : (ProgressPhase.held j type m).Holds db.jobs) :
    Onward db.jobs (db.flush f).jobs ∧ (ProgressPhase.held j type m').Holds (db.flush f).jobs := by
  obtain ⟨⟨b, c, hjobs, hb, hc, hbegun, hdone⟩, hforward⟩ := hf
  obtain ⟨row, hrow, htype, hmeta, hrunning⟩ := h
  obtain ⟨jobs, vms⟩ := f
  dsimp only at hjobs
  subst hjobs
  change Onward db.jobs (db.jobs.update j (Job.merge b c)) ∧
    (ProgressPhase.held j type m').Holds (db.jobs.update j (Job.merge b c))
  have hmerged : (Job.merge b c row).metadata = m' := by
    have hbase : row.metadata = b.metadata := hmeta.trans hb.symm
    exact (column_of_row hbase).trans hc
  have hstatus : (Job.merge b c row).status = row.status ∨ (Job.merge b c row).status = c.status := by
    by_cases hsame : c.status = b.status
    · exact .inl (if_pos hsame)
    · exact .inr (if_neg hsame)
  have hnot : (Job.merge b c row).status ≠ .queued := by
    rcases hstatus with hs | hs
    · rw [hs]
      exact hrunning
    · rw [hs]
      exact hbegun
  have hprogress : row.progress ≤ (Job.merge b c row).progress := by
    unfold Job.progress
    rw [hmerged, hmeta]
    exact hforward
  constructor
  · apply Onward.update
    intro row' hrow'
    rw [hrow] at hrow'
    cases hrow'
    refine ⟨rfl, hprogress, fun _ => hnot, ?_⟩
    intro hcharted
    refine ⟨fun hq => absurd hq hnot, ?_⟩
    intro hs ht
    rcases hstatus with hkept | hnew
    · have hold := hcharted.success (hkept.symm.trans hs) ht
      omega
    · have hnow : c.progress = (Job.merge b c row).progress := by
        unfold Job.progress
        rw [hmerged, hc]
      rw [← hnow]
      exact hdone (hnew.symm.trans hs) (htype ▸ ht)
  · refine ⟨Job.merge b c row, by rw [Table.get_update_self, hrow]; rfl, htype, ?_⟩
    exact ⟨hmerged, hnot⟩

variable {sh sh' : Shared} {e : Eff} {a : Ans e} {φ φ' : ProgressPhase}

/-- An await of the worker, where what it loads is the row of a queued job. -/
theorem ProgressT.onward (ht : ProgressT φ e a φ') (h : Act sh e a sh') (hφ : φ.Holds sh.db.jobs)
    (hload : ∀ j job, e = .getJob j → sh.db.jobs.get j = some job →
      job.status = .queued ∧ job.progress = 0) :
    Onward sh.db.jobs sh'.db.jobs ∧ φ'.Holds sh'.db.jobs := by
  cases ht with
  | aside he =>
    have hkept := h.aside_untouched he
    exact ⟨hkept.onward, hφ.kept hkept⟩
  | @load j job hq hp =>
    obtain ⟨hget, rfl⟩ := act_getJob.mp h
    exact ⟨(Untouched.refl _).onward, hq, job, hget.symm, rfl, rfl⟩
  | @stray j job hnot =>
    obtain ⟨hget, rfl⟩ := act_getJob.mp h
    exact absurd (hload j job rfl hget.symm) hnot
  | begin =>
    obtain rfl := act_commit.mp h
    exact begin_onward hφ
  | advance hf =>
    obtain rfl := act_commit.mp h
    exact advance_onward hf hφ
  | anything => exact hφ.elim

end Worker

/-- What a run keeps: the worker holds the row it will write, the requests only add queued jobs, and the
rows say what has been done. -/
structure Plotted (s : Sys) : Prop where
  worker : ∃ φ, s.worker.Follows ProgressT φ Always ∧ φ.Holds s.shared.db.jobs
  requests : ∀ p ∈ s.requests, Prog.Within (fun e : Eff => e.aside = true) (fun _ => True) p
  rows : ∀ j row, s.shared.db.jobs.get j = some row → row.Charted

theorem fetched_of_getJob {ψ φ : WorkerPhase} {e : Eff} {a : Ans e} {j : JobId}
    (hw : WorkerT ψ e a φ) (he : e = .getJob j) : ∃ p, ψ = .fetched p ∧ p.jobId = j := by
  cases hw with
  | jobMissing p | job _ _ | jobAlone _ _ =>
    cases he
    exact ⟨_, rfl, rfl⟩
  | quiet hread =>
    subst he
    cases hread with
    | clock hc => cases hc
  | learn hl =>
    subst he
    cases hl
  | _ => cases he

/-- The worker loads the row of a queued job. -/
theorem queued_of_getJob {t : Abs} {j : JobId} {a : Option Job} {φ : WorkerPhase} (hb : Base t.view)
    (hw : WorkerT t.worker (.getJob j) a φ) {job : Job} (hj : t.shared.db.jobs.get j = some job) :
    job.status = .queued := by
  obtain ⟨p, hworker, rfl⟩ := fetched_of_getJob hw rfl
  have hp : p ∈ t.view.payloads := by
    apply View.mem_payloads.mpr
    right
    left
    show p ∈ t.worker.payloads
    rw [hworker]
    exact List.mem_singleton.mpr rfl
  obtain ⟨⟨v, _, hrow⟩, _⟩ := hb.carried hp
  have hcore : t.view.jobs p.jobId = some job.core := congrArg (Option.map Job.core) hj
  rw [hcore] at hrow
  exact congrArg JobCore.status (Option.some.inj hrow)

theorem Plotted.init {s : Sys} (h : Initial s) : Plotted s where
  worker := ⟨.free, by rw [h.worker]; trivial, trivial⟩
  requests := by
    intro p hp
    rw [h.requests] at hp
    cases hp
  rows := by
    intro j row hrow
    rw [h.jobs] at hrow
    cases hrow

theorem Onward.charted {jobs jobs' : Table Job} (h : Onward jobs jobs')
    (hc : ∀ j row, jobs.get j = some row → row.Charted) :
    ∀ j row, jobs'.get j = some row → row.Charted := by
  intro j row' hrow'
  cases hrow : jobs.get j with
  | none => exact h.fresh hrow' hrow
  | some row =>
    obtain ⟨row'', hrow'', hon⟩ := h.rows hrow
    rw [hrow'] at hrow''
    cases hrow''
    exact hon.charted (hc j row hrow)

theorem Plotted.step {s s' : Sys} {l : Label} {t : Abs} (hp : Plotted s) (hr : Refines s t)
    (hb : Base t.view) (hs : Step s l s') :
    Plotted s' ∧ Onward s.shared.db.jobs s'.shared.db.jobs := by
  have hsame : Onward s.shared.db.jobs s.shared.db.jobs := (Untouched.refl _).onward
  obtain ⟨φ, hfollows, hholds⟩ := hp.worker
  cases hs with
  | crash _ => exact ⟨⟨⟨.free, trivial, trivial⟩, fun p hmem => (by cases hmem), hp.rows⟩, hsame⟩
  | restart settings _ =>
    exact ⟨⟨⟨.free, trivial, trivial⟩, fun p hmem => (by cases hmem), hp.rows⟩, hsame⟩
  | get _ _ _ _ =>
    exact ⟨⟨⟨.free, dispatch_bar _ _, trivial⟩, hp.requests, hp.rows⟩, hsame⟩
  | receive r _ _ =>
    refine ⟨⟨⟨φ, hfollows, hholds⟩, ?_, hp.rows⟩, hsame⟩
    intro p hmem
    rcases List.mem_append.mp hmem with hmem | hmem
    · exact hp.requests p hmem
    · rw [List.mem_singleton.mp hmem]
      exact serve_aside _ r
  | boot _ hk hact =>
    have hboot := hr.boot
    rw [hk] at hboot
    obtain ⟨ψ, ht, _⟩ := hboot _
    have hkept := ht.kept hact
    exact ⟨⟨⟨φ, hfollows, hholds.kept hkept⟩, hp.requests, hkept.onward.charted hp.rows⟩, hkept.onward⟩
  | @worker e k a sh _ hk hact =>
    rw [hk] at hfollows
    obtain ⟨φ', ht, hrest⟩ := hfollows a
    have hload : ∀ j job, e = .getJob j → s.shared.db.jobs.get j = some job →
        job.status = .queued ∧ job.progress = 0 := by
      intro j job he hj
      subst he
      have hworker := hr.worker
      rw [hk] at hworker
      obtain ⟨ψ, hw, _⟩ := hworker a
      have hq := queued_of_getJob hb hw (hr.shared ▸ hj)
      exact ⟨hq, (hp.rows j job hj).queued hq⟩
    obtain ⟨honward, hholds'⟩ := ht.onward hact hholds hload
    exact ⟨⟨⟨φ', hrest, hholds'⟩, hp.requests, honward.charted hp.rows⟩, honward⟩
  | @request i e k a sh _ hk hact =>
    have hwithin := hp.requests _ (List.mem_of_getElem? hk)
    have hkept := hact.aside_untouched hwithin.1
    refine ⟨⟨⟨φ, hfollows, hholds.kept hkept⟩, ?_, hkept.onward.charted hp.rows⟩, hkept.onward⟩
    intro p hmem
    rcases List.mem_or_eq_of_mem_set hmem with hmem | rfl
    · exact hp.requests p hmem
    · exact hwithin.2 a

theorem Reachable.plotted {s : Sys} (h : Reachable .any s) :
    Plotted s ∧ ∃ t, AReachable .any t ∧ Refines s t := by
  have hreach : ∀ s, Reach Step Cond.any.ok Initial s → ∃ t, AReachable .any t ∧ Refines s t :=
    fun s hs => Reachable.abstract hs
  refine ⟨?_, h.abstract⟩
  refine Reach.strengthen hreach (fun s => Plotted.init) ?_ h
  intro s l s' ht _ hp hs _
  obtain ⟨t, ht, hr⟩ := ht
  exact (hp.step hr ht.base hs).1

theorem goesOn_path {s s' : Sys} (h : Reachable .any s) (hp : Path Step Cond.any.ok s s')
    {j : JobId} {job : Job} (hj : s.shared.db.jobs.get j = some job) :
    ∃ job', s'.shared.db.jobs.get j = some job' ∧ job.GoesOn job' := by
  induction hp with
  | refl => exact ⟨job, hj, .refl job⟩
  | @next s₁ s₂ l hp hs hok ih =>
    obtain ⟨job₁, hj₁, hon₁⟩ := ih
    obtain ⟨hplotted, t, ht, hr⟩ := Reachable.plotted (Reach.path h hp)
    obtain ⟨-, honward⟩ := hplotted.step hr ht.base hs
    obtain ⟨job₂, hj₂, hon₂⟩ := honward.rows hj₁
    exact ⟨job₂, hj₂, hon₁.trans hon₂⟩

theorem renderProgressSteps_done (job : Job) (vm : VM) {index : Nat} (h : index < job.progress) :
    (renderProgressSteps job vm)[index]?.map Prod.fst = some .done := by
  have hlt : index < progressSteps.length := Nat.lt_trans h (keyIndex_lt _)
  unfold renderProgressSteps
  rw [List.getElem?_mapIdx, List.getElem?_eq_getElem hlt]
  simp [stepClass_done job vm h]

/-- The progress page never goes back. From any state of any run on, with crashes and restarts, every job
stays, the step its operation names is not before the one it named, and the steps before that stay shown as
done, whatever becomes of the VM; and a creation or reinstallation that has succeeded has the six steps
before the address behind it. -/
theorem progress_forward {s s' : Sys} (h : Reachable .any s) (hp : Path Step Cond.any.ok s s')
    {j : JobId} {job : Job} (hj : s.shared.db.jobs.get j = some job) :
    ∃ job', s'.shared.db.jobs.get j = some job' ∧ job.progress ≤ job'.progress ∧
      (∀ vm index, index < job.progress →
        (renderProgressSteps job' vm)[index]?.map Prod.fst = some .done) ∧
      (job'.status = .success → job'.type.provisions = true → 6 ≤ job'.progress) := by
  obtain ⟨job', hj', hon⟩ := goesOn_path h hp hj
  have hforward := hon.forward
  refine ⟨job', hj', hforward, ?_, ?_⟩
  · intro vm index hindex
    exact renderProgressSteps_done job' vm (by omega)
  · exact ((Reachable.plotted (Reach.path h hp)).1.rows j job' hj').success

open Scenario in
/-- A creation seen when its clone is being recorded, and when it has succeeded. -/
theorem progress_forward_creation :
    ∃ s s' job, Reachable .any s ∧ Path Step Cond.any.ok s s' ∧ s.shared.db.jobs.get 0 = some job ∧
      job.progress = 2 ∧
      ∃ job', s'.shared.db.jobs.get 0 = some job' ∧ job.progress ≤ job'.progress ∧
        (∀ vm index, index < job.progress →
          (renderProgressSteps job' vm)[index]?.map Prod.fst = some .done) ∧
        (job'.status = .success → job'.type.provisions = true → 6 ≤ job'.progress) := by
  have hrun : (panel.run (fun _ _ _ => true)
      (startup [] 0 ++ create 0 (body "a" named_a) 100 ++ clone "0" 100)).any (fun s =>
        (s.shared.db.jobs.get 0).any (fun job => job.progress = 2) &&
          (s.run (fun _ _ _ => true)
            (boot "0" 100 "10.0.0.5" ++ identify "0" "10.0.0.5" "10.0.0.6" ++ check)).isSome) = true := by
    decide +kernel
  obtain ⟨s, hs, hchecks⟩ := evaluated_any hrun
  rw [Bool.and_eq_true, Option.any_eq_true, Option.isSome_iff_exists] at hchecks
  obtain ⟨⟨job, hjob, htwo⟩, s', hs'⟩ := hchecks
  have hany : ∀ s l s', true = true → Cond.any.ok s l s' := fun _ _ _ _ => trivial
  have hpath : Path Step Cond.any.ok s s' := run_path hany hs' (.refl s)
  exact ⟨s, s', job, hs, hpath, hjob, of_decide_eq_true htwo, progress_forward hs hpath hjob⟩

end Clusteration
