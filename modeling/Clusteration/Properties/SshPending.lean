import Clusteration.Properties.JobLife

namespace Clusteration

/-- The process only ends while every live record that is running with its SSH pending has its
readiness check in the database. -/
def Cond.checksStored : Cond := fun s l _ => l = .crash →
  ∀ v vm, s.db.vms.get v = some vm → vm.deletedAt = none → vm.status = .running →
    vm.sshStatus = .pending → ∃ j job, s.db.jobs.get j = some job ∧
      job.type = .sshReadinessCheck ∧ job.status = .queued ∧ job.vmId = some v

/-- The record waits for a readiness check. -/
structure Core.Waits (x : Core) : Prop where
  live : x.deletedAt = none
  running : x.status = .running
  pending : x.ssh = .pending

/-- A readiness check of the VM, other than `but`, is queued or about to be. -/
def View.Owed (m : View) (but : Option JobId) (v : VmId) : Prop :=
  (∃ i, but ≠ some i ∧ m.jobs i = some ⟨.sshReadinessCheck, .queued, some v, none⟩) ∨
    .marked v ∈ m.requests

/-- The job at work will settle the SSH status of the VM. -/
def WorkerPhase.Settles (v : VmId) : WorkerPhase → Prop
  | exec w => w.v = v ∧ (w.type.followedUp = true ∨ (w.type = .sshReadinessCheck ∧ w.x.ssh = .pending))
  | succeeded u => u = v
  | _ => False

structure View.Checked (m : View) : Prop where
  waiting : ∀ {v x}, m.vms v = some x → x.Waits → m.Owed none v ∨ m.worker.Settles v
  /-- a re-check that came after the job was loaded has a job of its own -/
  loaded : ∀ {p job v vm x}, m.worker = .loaded p job v vm → p.type = .sshReadinessCheck →
    m.vms v = some x → x.Waits → vm.core.ssh ≠ .pending → m.Owed (some p.jobId) v

section Step
variable {m m' : View} {l : Label}

theorem mem_set_of_ne {α : Type} {xs : List α} {i : Nat} {a b y : α} (h : xs[i]? = some a)
    (hy : y ∈ xs) (hne : y ≠ a) : y ∈ xs.set i b := by
  obtain ⟨k, hk⟩ := List.mem_iff_getElem?.mp hy
  have hki : i ≠ k := by
    rintro rfl
    rw [h] at hk
    exact hne (Option.some.inj hk).symm
  exact List.mem_iff_getElem?.mpr ⟨k, by rw [List.getElem?_set_ne hki, hk]⟩

/-- A queued readiness check stays queued until the worker begins it. -/
theorem Move.check_kept (hb : Base m) (hm : Move m l m') {i : JobId} {v : VmId}
    (hc : m.jobs i = some ⟨.sshReadinessCheck, .queued, some v, none⟩) :
    m'.jobs i = some ⟨.sshReadinessCheck, .queued, some v, none⟩ ∨
      ∃ p job vm, m.worker = .loaded p job v vm ∧ p.jobId = i ∧ p.type = .sshReadinessCheck ∧
        m'.worker = .exec (Exec.begin p job v vm) := by
  have hne : ∀ {j}, m.jobs j = none → i ≠ j := by
    rintro j hj rfl
    rw [hc] at hj
    cases hj
  have hwork : ∀ {w : Exec}, m.worker = .exec w → i ≠ w.j := by
    rintro w hw rfl
    rw [(hb.exec hw).job] at hc
    have hs := congrArg JobCore.status (Option.some.inj hc)
    cases hs
  cases hm with
  | recover _ _ _ _ => exact .inl (by simp [hc, JobCore.interrupted])
  | abandon _ hboot =>
    have hi : i ∉ (BootPhase.abandoned m.boot).map Prod.fst := by
      intro hmem
      obtain ⟨j, hj, rfl⟩ := List.mem_map.mp hmem
      obtain ⟨hrow, _, hpass⟩ := hb.abandoned hj
      rw [hc] at hrow
      have htype : j.2.type = .sshReadinessCheck := (congrArg JobCore.type (Option.some.inj hrow)).symm
      rw [htype] at hpass
      cases hpass
    rw [hboot] at hi
    exact .inl ((if_neg hi).trans hc)
  | @enter p job u vm _ _ _ hw _ =>
    by_cases hi : i = p.jobId
    · subst hi
      obtain ⟨hj, _⟩ := hb.loaded hw
      rw [hc] at hj
      obtain ⟨ht, hv⟩ := JobCore.mk.inj (Option.some.inj hj)
      obtain rfl : v = u := Option.some.inj hv.2.1
      exact .inr ⟨p, job, vm, hw, rfl, ht.symm, rfl⟩
    · exact .inl (by simp [Function.update_of_ne hi, hc])
  | edit _ hw _ _ | fail _ hw _ _ _ | finish _ hw _ =>
    exact .inl (by simp [Function.update_of_ne (hwork hw), hc])
  | follow _ _ hj | insert _ _ _ hj _ _ _ _ | create _ _ _ hj _ _ _ =>
    exact .inl (by simp [Function.update_of_ne (hne hj), hc])
  | _ => exact .inl hc

/-- A re-check that has marked its record keeps going, or has added its job. -/
theorem Move.marked_kept (hb : Base m) (hm : Move m l m') (hl : l ≠ .crash) {v : VmId}
    (hmem : .marked v ∈ m.requests) : .marked v ∈ m'.requests ∨
      ∃ j, m.jobs j = none ∧ m'.jobs j = some ⟨.sshReadinessCheck, .queued, some v, none⟩ := by
  obtain ⟨k, hk⟩ := List.mem_iff_getElem?.mp hmem
  have ho := hb.open_of_request hk
  cases hm with
  | crash _ => exact absurd rfl hl
  | restart _ hd =>
    rw [ho.1] at hd
    cases hd
  | receive _ _ _ => exact .inl (List.mem_append_left _ hmem)
  | turn _ hφ ht => exact .inl (mem_set_of_ne hφ hmem (by rintro rfl; cases ht))
  | mark _ hφ _ | create _ hφ _ _ _ _ _ | put _ hφ => exact .inl (mem_set_of_ne hφ hmem (by simp))
  | @insert n φ type u job j p _ hφ ha hj hc _ _ _ =>
    by_cases he : RequestPhase.marked v = φ
    · subst he
      cases ha
      exact .inr ⟨j, hj, by simp [hc]⟩
    · exact .inl (mem_set_of_ne hφ hmem he)
  | _ => exact .inl hmem

/-- What is owed stays owed until the worker begins the check. -/
theorem View.Owed.step {but : Option JobId} {v : VmId} (ho : m.Owed but v) (hb : Base m)
    (hm : Move m l m') (hl : l ≠ .crash) (hbut : ∀ i, but = some i → m.jobs i ≠ none) :
    m'.Owed but v ∨ ∃ p job vm, m.worker = .loaded p job v vm ∧ but ≠ some p.jobId ∧
      p.type = .sshReadinessCheck ∧ m'.worker = .exec (Exec.begin p job v vm) := by
  rcases ho with ⟨i, hi, hc⟩ | hmem
  · rcases hm.check_kept hb hc with hc' | ⟨p, job, vm, hw, rfl, ht, hw'⟩
    · exact .inl (.inl ⟨i, hi, hc'⟩)
    · exact .inr ⟨p, job, vm, hw, hi, ht, hw'⟩
  · rcases hm.marked_kept hb hl hmem with h | ⟨j, hj, hc⟩
    · exact .inl (.inr h)
    · exact .inl (.inl ⟨j, fun h => hbut j h hj, hc⟩)

theorem Core.written_pending {x y row : Core} (h : (Core.written x y row).ssh = .pending) :
    y.ssh = .pending ∨ (y.ssh = x.ssh ∧ row.ssh = .pending) := by
  by_cases he : y.ssh = x.ssh
  · exact .inr ⟨he, by simpa [Core.written, he] using h⟩
  · exact .inl (by simpa [Core.written, he] using h)

/-- The job that settles a waiting record goes on, or leaves a readiness check. -/
theorem WorkerPhase.Settles.step {v : VmId} {x' : Core} (hs : m.worker.Settles v) (hb : Base m)
    (hm : Move m l m') (hl : l ≠ .crash) (hx : m'.vms v = some x') (hwait : x'.Waits) :
    m'.worker.Settles v ∨ m'.Owed none v := by
  have hne : m.worker ≠ .over := by
    intro h
    rw [h] at hs
    exact hs
  cases hm with
  | crash _ => exact absurd rfl hl
  | restart _ hd => exact absurd (hb.early (.inl hd)).1 hne
  | get _ hw _ => exact absurd hw hne
  | job _ hw _ | vm _ hw _ _ | enter _ hw _ | followPut _ hw =>
    rw [hw] at hs
    exact hs.elim
  | http _ hw _ _ | ssh _ hw _ _ _ | clock _ hw _ =>
    rw [hw] at hs
    exact .inl hs
  | @edit w stage y row target _ _ hw _ _ =>
    rw [hw] at hs
    obtain ⟨rfl, hset⟩ := hs
    refine .inl ⟨rfl, ?_⟩
    rcases hset with hset | ⟨ht, hp⟩
    · exact .inl hset
    · simp only [Function.update_self, Option.some.injEq] at hx
      subst hx
      refine .inr ⟨ht, ?_⟩
      rcases Core.written_pending hwait.pending with h | ⟨h, _⟩
      · exact h
      · exact h.trans hp
  | fail _ hw _ _ _ =>
    rw [hw] at hs
    obtain ⟨rfl, _⟩ := hs
    simp only [Function.update_self, Option.some.injEq] at hx
    subst hx
    cases hwait.running
  | @finish w _ _ hw hstage =>
    rw [hw] at hs
    obtain ⟨rfl, hset⟩ := hs
    rcases hset with hset | ⟨ht, hp⟩
    · refine .inl ?_
      simp only [hset, if_true]
      rfl
    · obtain ⟨hok, _, _⟩ := hb.exec hw
      simp only [Exec.Ok, hstage] at hok
      exact absurd hp (hok.2 ht)
  | @follow u _ j _ hw _ =>
    rw [hw] at hs
    obtain rfl : u = v := hs
    exact .inr (.inl ⟨j, by simp, by simp⟩)
  | _ => exact .inl hs

/-- A record the job at work leaves waiting was waiting before, or will be settled by the job. -/
theorem Edit.waiting {w : Exec} {stage : Stage} {y row : Core} {target : Option Int}
    (h : Edit w stage y target) (hw : w.Ok) (hag : w.x.Agrees row)
    (hwait : (Core.written w.x y row).Waits) : row.Waits ∨
      w.type.followedUp = true ∨ (w.type = .sshReadinessCheck ∧ y.ssh = .pending) := by
  by_cases hf : w.type.followedUp = true
  · exact .inr (.inl hf)
  · rw [Bool.not_eq_true] at hf
    by_cases ht : w.type = .sshReadinessCheck
    · have hy := h.ssh_only hw ht
      rcases Core.written_pending hwait.pending with hp | ⟨_, hp⟩
      · exact .inr (.inr ⟨ht, hp⟩)
      · refine .inl ⟨?_, ?_, hp⟩
        · exact hag.deletedAt.trans ((congrArg Core.deletedAt hy).symm.trans hwait.live)
        · exact hag.status.trans ((congrArg Core.status hy).symm.trans hwait.running)
    · obtain rfl := h.still_running hw hf ht hwait.running
      rw [Core.written_self _ _ hag] at hwait
      exact .inl hwait

theorem Core.Waits.of_recovered {x : Core} {adopted : Option Int}
    (h : (Core.recovered adopted x).Waits) : x.Waits := by
  refine ⟨h.live, ?_, h.pending⟩
  have hr := h.running
  simp only [Core.recovered] at hr
  split at hr
  · cases hr
  · exact hr

/-- The waiting records of a step had readiness checks coming before it, and still have. -/
theorem View.Checked.step (ha : m.Checked) (hb : Base m) (hm : Move m l m') (hl : l ≠ .crash) :
    m'.Checked := by
  have hloaded : ∀ {p job v vm x}, m.worker = .loaded p job v vm → p.type = .sshReadinessCheck →
      m.vms v = some x → x.Waits → vm.core.ssh ≠ .pending → m'.Owed (some p.jobId) v := by
    intro p job v vm x hw ht hx hwait hne
    have hrow := (hb.loaded hw).1
    have hbut : ∀ i, some p.jobId = some i → m.jobs i ≠ none := by
      rintro i hi
      cases hi
      rw [hrow]
      simp
    rcases (ha.loaded hw ht hx hwait hne).step hb hm hl hbut with h | ⟨q, job', vm', hq, hneq, _, _⟩
    · exact h
    · rw [hw] at hq
      cases hq
      exact absurd rfl hneq
  -- an unchanged record
  have hsame : ∀ {v x x'}, m.vms v = some x → x.Waits → m'.vms v = some x' → x'.Waits →
      m'.Owed none v ∨ m'.worker.Settles v := by
    intro v x x' hx hwait hx' hwait'
    rcases ha.waiting hx hwait with howed | hset
    · rcases howed.step hb hm hl (by simp) with h | ⟨p, job, vm, hw, _, ht, hw'⟩
      · exact .inl h
      · by_cases hp : vm.core.ssh = .pending
        · obtain ⟨_, hcore, _, _⟩ := hb.loaded hw
          refine .inr ?_
          rw [hw']
          exact ⟨rfl, .inr ⟨(congrArg JobCore.type hcore).trans ht, hp⟩⟩
        · rcases hloaded hw ht hx hwait hp with ⟨i, _, hc⟩ | h
          · exact .inl (.inl ⟨i, by simp, hc⟩)
          · exact .inl (.inr h)
    · exact (hset.step hb hm hl hx' hwait').symm
  refine ⟨fun {v x'} hx' hwait' => ?_, fun {p job v vm x'} hw' ht hx' hwait' hne => ?_⟩
  · cases hm.vms_back hx' with
    | same hx => exact hsame hx hwait' hx' hwait'
    | @edit w stage y row target hw hv hrow he hw' hx'' =>
      obtain ⟨hok, _, row', hrow', hag⟩ := hb.exec hw
      rw [hv, hrow] at hrow'
      cases hrow'
      have hwait'' := hwait'
      rw [hx''] at hwait''
      rcases he.waiting hok hag hwait'' with h | h
      · exact hsame hrow h hx' hwait'
      · rw [hw']
        exact .inr ⟨hv, h⟩
    | fail _ _ _ _ _ _ hx'' =>
      subst hx''
      cases hwait'.running
    | @mark n vm row hφ hreq _ _ =>
      obtain ⟨hn, _⟩ := List.getElem?_eq_some_iff.mp hφ
      refine .inl (.inr ?_)
      rw [hreq]
      exact List.mem_set hn _
    | recover hrow _ _ hx'' =>
      subst hx''
      exact hsame hrow hwait'.of_recovered hx' hwait'
    | create _ _ _ _ hx'' =>
      subst hx''
      cases hwait'.running
  · rcases hm.loaded_back hw' with hw | hx
    · have hkeep : ∀ {x}, m.vms v = some x → x.Waits → m'.Owed (some p.jobId) v := fun hx hwait =>
        hloaded hw ht hx hwait hne
      cases hm.vms_back hx' with
      | same hx => exact hkeep hx hwait'
      | edit hexec _ _ _ _ _ | fail hexec _ _ _ _ _ _ =>
        rw [hw] at hexec
        cases hexec
      | @mark n _ _ hφ hreq _ _ =>
        obtain ⟨hn, _⟩ := List.getElem?_eq_some_iff.mp hφ
        refine .inr ?_
        rw [hreq]
        exact List.mem_set hn _
      | recover hrow _ _ hx'' =>
        subst hx''
        exact hkeep hrow hwait'.of_recovered
      | create _ _ _ _ hx'' =>
        subst hx''
        cases hwait'.running
    · rw [hx] at hx'
      cases hx'
      exact absurd hwait'.pending hne

end Step

theorem AReachable.checked {t : Abs} (h : AReachable .checksStored t) : t.view.Checked := by
  refine h.invariant (P := View.Checked) (fun t hi => ?_) fun t l t' hb _ ha hm hok => ?_
  · refine ⟨fun {v x} hx => ?_, fun {p job v vm x} hw => ?_⟩
    · simp [Abs.view, hi.vms] at hx
    · have hover : t.view.worker = .over := hi.worker
      rw [hover] at hw
      cases hw
  · by_cases hl : l = .crash
    · subst hl
      generalize ht' : t'.view = m' at hm ⊢
      cases hm with
      | crash _ =>
        refine ⟨fun {v x} hx hwait => ?_, fun {p job v vm x} hw => by cases hw⟩
        obtain ⟨vm, hvm, rfl⟩ := Option.map_eq_some_iff.mp hx
        obtain ⟨j, job, hj, htype, hst, hv⟩ :=
          hok rfl v vm hvm hwait.live hwait.running hwait.pending
        have hc : t.view.jobs j = some job.core := congrArg (Option.map Job.core) hj
        have htarget := (hb.refs hc).1 hst
        refine .inl (.inl ⟨j, by simp, hc.trans ?_⟩)
        rw [Job.core_target] at htarget
        simp [Job.core, htype, hst, hv, htarget]
    · exact ha.step hb hm hl

/-- Between jobs, every live record that is running with its SSH pending has its readiness check in
the queue. -/
theorem pending_has_check {s : Sys} (h : Reachable .checksStored s) (hs : s.Between) {v : VmId}
    {vm : VM} (hv : s.shared.db.vms.get v = some vm) (hd : vm.deletedAt = none)
    (hr : vm.status = .running) (hp : vm.sshStatus = .pending) :
    ∃ p ∈ s.shared.queue, p.type = .sshReadinessCheck ∧ p.vmId = some v ∧
      ∃ job, s.shared.db.jobs.get p.jobId = some job ∧ job.type = .sshReadinessCheck ∧
        job.status = .queued ∧ job.vmId = some v := by
  obtain ⟨t, ht, hrel⟩ := h.abstract
  have hb := ht.base
  have hi := hrel.idle hs
  rw [hrel.shared] at hv ⊢
  have hx : t.view.vms v = some vm.core := congrArg (Option.map VM.core) hv
  rcases ht.checked.waiting hx ⟨hd, hr, hp⟩ with (⟨i, _, hc⟩ | hmem) | hset
  · obtain ⟨p, hmem, rfl⟩ := hi.queued hb hc rfl
    obtain ⟨⟨u, hu, hrow⟩, _⟩ := hb.carried (View.mem_payloads.mpr (.inl hmem))
    rw [hc] at hrow
    obtain ⟨htype, _, hvm, _⟩ := JobCore.mk.inj (Option.some.inj hrow)
    obtain ⟨job, hj, hcore⟩ := Option.map_eq_some_iff.mp hc
    exact ⟨p, hmem, htype.symm, hu.trans hvm.symm, job, hj, congrArg JobCore.type hcore,
      congrArg JobCore.status hcore, congrArg JobCore.vmId hcore⟩
  · exact (hi.requests _ hmem).elim
  · rw [hi.worker] at hset
    exact hset.elim

def Cond.checksStoredCheck (s : Shared) : Label → Bool
  | .crash => (List.range s.db.vms.next).all fun v => (s.db.vms.get v).all fun vm =>
      vm.deletedAt.isSome || vm.status ≠ .running || vm.sshStatus ≠ .pending ||
        s.db.jobs.rows.any fun job =>
          job.type = .sshReadinessCheck && job.status = .queued && job.vmId = some v
  | _ => true

theorem Cond.checksStoredCheck_sound {s s' : Sys} {l : Label}
    (h : Cond.checksStoredCheck s.shared l = true) : Cond.checksStored.ok s l s' := by
  rintro rfl v vm hv hd hr hp
  simp only [checksStoredCheck, List.all_eq_true, List.mem_range] at h
  have h := h v (Table.get_lt hv)
  simp only [hv, hd, hr, hp, Option.all_some, Option.isSome_none, ne_eq, not_true, decide_false,
    Bool.or_self, Bool.false_or, List.any_eq_true, Bool.and_eq_true, decide_eq_true_eq] at h
  obtain ⟨job, hmem, ⟨ht, hs⟩, hvm⟩ := h
  obtain ⟨j, hj⟩ := List.mem_iff_getElem?.mp hmem
  exact ⟨j, job, hj, ht, hs, hvm⟩

open Scenario in
/-- A VM is created; the process ends while its readiness check is queued, and starts again. -/
def checkRequeued : List Choice :=
  startup [] 0 ++ create 0 (body "a" named_a) 100 ++ clone "a" 100 ++
    boot "a" 100 "10.0.0.4" ++ identify "a" "10.0.0.4" "10.0.0.5" ++ [.crash] ++ startup [1] 1

theorem checkRequeued_ends : (Scenario.panel.run (fun s l _ => Cond.checksStoredCheck s.shared l)
    checkRequeued).any (fun s => s.Between ∧
      (s.shared.db.vms.get 0).any (fun vm => vm.deletedAt = none && vm.status = .running &&
        vm.sshStatus = .pending) = true) = true := by decide +kernel

theorem checkRequeued_runs : (Scenario.panel.run (fun s l _ => Cond.checksStoredCheck s.shared l)
    checkRequeued).isSome = true := Option.isSome_of_any checkRequeued_ends

theorem pending_has_check_checkRequeued :
    let s := (Scenario.panel.run (fun s l _ => Cond.checksStoredCheck s.shared l) checkRequeued).get
      checkRequeued_runs
    ∃ p ∈ s.shared.queue, p.type = .sshReadinessCheck ∧ p.vmId = some 0 ∧
      ∃ job, s.shared.db.jobs.get p.jobId = some job ∧ job.type = .sshReadinessCheck ∧
        job.status = .queued ∧ job.vmId = some 0 := by
  intro s
  have hreach : Reachable .checksStored s :=
    Scenario.reached (fun _ _ _ h => Cond.checksStoredCheck_sound h) checkRequeued_runs
  obtain ⟨hbetween, hrow⟩ :=
    of_decide_eq_true (Option.get_of_any_eq_true _ _ checkRequeued_ends)
  obtain ⟨vm, hv, hvm⟩ := (Option.any_eq_true _ _).mp hrow
  simp only [Bool.and_eq_true, decide_eq_true_eq] at hvm
  exact pending_has_check hreach hbetween hv hvm.1.1 hvm.1.2 hvm.2

open Scenario in
/-- The process ends between the boot of a new VM and its readiness check. -/
def bootInterrupted : List Choice :=
  startup [] 0 ++ create 0 (body "a" named_a) 100 ++ clone "a" 100 ++
    boot "a" 100 "10.0.0.4" ++ [.crash] ++ startup [] 0

theorem pending_forgotten : ¬ ∀ s, Reachable .any s → s.Between → ∀ v vm,
    s.shared.db.vms.get v = some vm → vm.deletedAt = none → vm.status = .running →
      vm.sshStatus = .pending → ∃ p ∈ s.shared.queue, p.vmId = some v := by
  intro h
  have hends : (Scenario.panel.run (fun _ _ _ => true) bootInterrupted).any (fun s =>
      s.Between ∧ s.shared.queue = [] ∧ (s.shared.db.vms.get 0).any (fun vm =>
        vm.deletedAt = none && vm.status = .running && vm.sshStatus = .pending) = true) = true := by
    decide +kernel
  obtain ⟨s, hreach, hends⟩ := Scenario.evaluated_any hends
  obtain ⟨hbetween, hempty, hrow⟩ := of_decide_eq_true hends
  obtain ⟨vm, hv, hvm⟩ := (Option.any_eq_true _ _).mp hrow
  simp only [Bool.and_eq_true, decide_eq_true_eq] at hvm
  obtain ⟨p, hp, _⟩ := h s hreach hbetween 0 vm hv hvm.1.1 hvm.1.2 hvm.2
  rw [hempty] at hp
  cases hp

end Clusteration
