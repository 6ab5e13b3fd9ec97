import Clusteration.Properties.JobLife

namespace Clusteration

/-- The jobs that `start_vm`, `stop_vm`, `reboot_vm`, `reinstall_vm` and `delete_vm` take. -/
def JobType.acts : JobType → Bool
  | startVm | stopVm | rebootVm | reinstallVm | deleteVm => true
  | createVm | sshReadinessCheck => false

/-- An endpoint adds a job only while the record passes its check and no other job of the VM but
readiness checks is queued or running; two reinstalls do not disturb each other. -/
def Cond.unopposed : Cond := fun s l _ =>
  ∀ n job j, l = .await (.request n) (.insertJob job) j → job.type ≠ .sshReadinessCheck →
    ∀ v, job.vmId = some v →
      (∃ vm, s.db.vms.get v = some vm ∧ vm.core.accepts job.type = true) ∧
        ∀ i other, s.db.jobs.get i = some other → other.vmId = some v →
          other.type ≠ .sshReadinessCheck → other.status.finished = false →
            other.type = .reinstallVm ∧ job.type = .reinstallVm

theorem Core.accepts_congr {x y : Core} (hs : x.status = y.status) (hd : x.deletedAt = y.deletedAt)
    (hn : x.vmid = y.vmid) (type : JobType) : x.accepts type = y.accepts type := by
  cases type <;> simp [Core.accepts, hs, hd, hn]

/-- Where the record may be while a reinstall of it waits behind another. -/
def Core.Reinstalling (x : Core) : Prop := x.deletedAt = none ∧ x.status ≠ .deleted

theorem Core.reinstalling_of_accepts {x : Core} (h : x.accepts .reinstallVm = true) :
    x.Reinstalling := by
  simp only [Core.accepts, Bool.and_eq_true, Option.isNone_iff_eq_none] at h
  refine ⟨h.1, fun hs => ?_⟩
  rw [hs] at h
  cases h.2

theorem Core.Reinstalling.accepts {x : Core} (h : x.Reinstalling) (ht : x.status.transient = false) :
    x.accepts .reinstallVm = true := by
  obtain ⟨hd, hne⟩ := h
  cases hs : x.status <;> simp_all [Core.accepts, VMStatus.settled, VMStatus.transient]

theorem Core.accepts_recovered {x : Core} {type : JobType} (h : x.accepts type = true)
    (adopted : Option Int) : (Core.recovered adopted x).accepts type = true := by
  obtain ⟨status, ssh, vmid, ip, deletedAt⟩ := x
  cases type <;> cases status <;> cases vmid <;>
    simp_all [Core.accepts, Core.recovered, VMStatus.settled, VMStatus.transient]

theorem Core.Reinstalling.recovered {x : Core} (h : x.Reinstalling) (adopted : Option Int) :
    (Core.recovered adopted x).Reinstalling := by
  refine ⟨h.1, ?_⟩
  simp only [Core.recovered]
  split
  · simp
  · exact h.2

theorem Edit.reinstalling {w : Exec} {stage : Stage} {x : Core} {target : Option Int}
    (h : Edit w stage x target) (ht : w.type = .reinstallVm) (hx : w.x.Reinstalling) :
    x.Reinstalling := by
  cases h with
  | metadata | target _ | targetLost _ | sshReady _ | sshFailed _ _ | noAddress _ | ready _
  | prepare _ | address _ => exact hx
  | power _ hop _ | stopped _ hop _ | addressed _ hop | unheard _ hop =>
    rw [ht] at hop
    cases hop
  | delete _ h | deleted _ _ h =>
    rw [ht] at h
    cases h
  | wipe _ _ | cleared _ _ | adopt _ | booted _ => exact ⟨hx.1, by simp⟩

/-- What holds of a queued job an endpoint has taken: its record passes the check, or is being
reinstalled before its own reinstall; and nothing else will touch it. -/
structure View.Apt (m : View) (i : JobId) (c : JobCore) (v : VmId) : Prop where
  row : ∃ x, m.vms v = some x ∧
    (x.accepts c.type = true ∨ (c.type = .reinstallVm ∧ x.Reinstalling))
  alone : ∀ i' c', m.jobs i' = some c' → i' ≠ i → c'.vmId = some v →
    c'.type ≠ .sshReadinessCheck → c'.status.finished = false →
    c'.type = .reinstallVm ∧ c.type = .reinstallVm

structure View.Accepted (m : View) : Prop where
  apt : ∀ {i c v}, m.jobs i = some c → c.status = .queued → c.type.acts = true →
    c.vmId = some v → m.Apt i c v
  begun : ∀ {j row}, Ev.enter j row ∈ m.hist → ∀ {c}, m.jobs j = some c → c.type.acts = true →
    ∃ vm : VM, row = some vm ∧ vm.core.accepts c.type = true

section Step
variable {m m' : View} {l : Label}

theorem JobStatus.Moves.finished_kept {s s' : JobStatus} (h : s.Moves l s')
    (hs : s.finished = true) : s'.finished = true := by
  cases h with
  | kept => exact hs
  | begun => cases hs
  | ended hf => exact hf
  | givenUp _ => rfl

theorem View.Apt.step {i : JobId} {c : JobCore} {v : VmId} (ha : m.Apt i c v) (hb : Base m)
    (hm : Move m l m') (hc : m.jobs i = some c) (hs : c.status = .queued)
    (hadd : ∀ i' c', m.jobs i' = none → m'.jobs i' = some c' → c'.vmId = some v →
      c'.type ≠ .sshReadinessCheck → c'.type = .reinstallVm ∧ c.type = .reinstallVm) :
    m'.Apt i c v := by
  obtain ⟨x, hx, hfit⟩ := ha.row
  -- a job at work on this record is a readiness check, or a reinstall before a reinstall
  have hwork : ∀ {w : Exec}, m.worker = .exec w → w.v = v → w.type ≠ .sshReadinessCheck →
      w.type = .reinstallVm ∧ c.type = .reinstallVm ∧ x.Reinstalling := by
    intro w hw hv hne
    have hj := (hb.exec hw).job
    have hi : w.j ≠ i := by
      rintro rfl
      rw [hc] at hj
      cases hj
      cases hs
    obtain ⟨hwt, hct⟩ := ha.alone w.j _ hj hi (by rw [hv]) hne rfl
    refine ⟨hwt, hct, ?_⟩
    rcases hfit with hacc | ⟨_, hr⟩
    · rw [hct] at hacc
      exact Core.reinstalling_of_accepts hacc
    · exact hr
  refine ⟨?_, fun i' c' hc' hne hv ht hf => ?_⟩
  · obtain ⟨x', hx'⟩ := hm.vms_kept hx
    refine ⟨x', hx', ?_⟩
    cases hm.vms_back hx' with
    | same h =>
      rw [hx] at h
      cases h
      exact hfit
    | @edit w stage y row target hw hv hrow he _ hx'' =>
      obtain rfl : row = x := Option.some.inj (hrow.symm.trans hx)
      obtain ⟨hok, _, row', hrow', hag⟩ := hb.exec hw
      rw [hv, hx] at hrow'
      cases hrow'
      subst hx''
      by_cases hssh : w.type = .sshReadinessCheck
      · have hy := he.ssh_only hok hssh
        have hst : (Core.written w.x y row).status = row.status :=
          (congrArg Core.status hy).trans hag.status.symm
        have hd : (Core.written w.x y row).deletedAt = row.deletedAt :=
          (congrArg Core.deletedAt hy).trans hag.deletedAt.symm
        have hn : (Core.written w.x y row).vmid = row.vmid :=
          (congrArg Core.vmid hy).trans hag.vmid.symm
        rcases hfit with hacc | ⟨hct, hr⟩
        · exact .inl ((Core.accepts_congr hst hd hn c.type).trans hacc)
        · exact .inr ⟨hct, hd.trans hr.1, hst ▸ hr.2⟩
      · obtain ⟨hwt, hct, hr⟩ := hwork hw hv hssh
        have hrx : w.x.Reinstalling := ⟨hag.deletedAt ▸ hr.1, hag.status ▸ hr.2⟩
        exact .inr ⟨hct, he.reinstalling hwt hrx⟩
    | fail hw hv hrow _ hssh _ hx'' =>
      rw [hx] at hrow
      cases hrow
      subst hx''
      obtain ⟨_, hct, hr⟩ := hwork hw hv hssh
      exact .inr ⟨hct, hr.1, by simp⟩
    | mark _ _ hrow hx'' =>
      rw [hx] at hrow
      cases hrow
      subst hx''
      rcases hfit with hacc | ⟨hct, hr⟩
      · exact .inl ((Core.accepts_congr rfl rfl rfl c.type).trans hacc)
      · exact .inr ⟨hct, hr⟩
    | recover hrow _ _ hx'' =>
      rw [hx] at hrow
      cases hrow
      subst hx''
      rcases hfit with hacc | ⟨hct, hr⟩
      · exact .inl (Core.accepts_recovered hacc _)
      · exact .inr ⟨hct, hr.recovered _⟩
    | create _ _ _ hrow _ =>
      rw [hx] at hrow
      cases hrow
  · cases hm.jobs_back hb hc' with
    | @same c₀ hc₀ htype hvm _ =>
      obtain ⟨c₁, hc₁, _, _, hmove⟩ := hm.jobs_forward hb hc₀
      rw [hc'] at hc₁
      cases hc₁
      have hf₀ : c₀.status.finished = false := by
        rw [Bool.eq_false_iff] at hf ⊢
        exact fun h => hf (hmove.finished_kept h)
      obtain ⟨h₁, h₂⟩ := ha.alone i' c₀ hc₀ hne (hvm ▸ hv) (htype ▸ ht) hf₀
      exact ⟨htype.trans h₁, h₂⟩
    | added hn hcore _ _ _ => exact hadd i' c' hn hc' hv ht
    | created _ hcore hnone _ _ =>
      subst hcore
      cases hv
      rw [hx] at hnone
      cases hnone

/-- The panel's rows do not change while an endpoint adds a job. -/
theorem Move.insert_vms {n : Nat} {job : Job} {j : JobId}
    (hm : Move m (.await (.request n) (.insertJob job) j) m') : m'.vms = m.vms := by
  cases hm <;> rfl

end Step

section Run
variable {t t' : Abs} {l : Label}

/-- The condition, for the columns of the rows. -/
theorem Cond.unopposed.columns (hok : Cond.unopposed t.shared l t'.shared) {n : Nat} {job : Job}
    {j : JobId} (hl : l = .await (.request n) (.insertJob job) j) (ht : job.type ≠ .sshReadinessCheck)
    {v : VmId} (hv : job.vmId = some v) :
    (∃ x, t.view.vms v = some x ∧ x.accepts job.type = true) ∧
      ∀ i c, t.view.jobs i = some c → c.vmId = some v → c.type ≠ .sshReadinessCheck →
        c.status.finished = false → c.type = .reinstallVm ∧ job.type = .reinstallVm := by
  obtain ⟨⟨vm, hvm, hacc⟩, hothers⟩ := hok n job j hl ht v hv
  refine ⟨⟨vm.core, congrArg (Option.map VM.core) hvm, hacc⟩, fun i c hc hcv hct hcf => ?_⟩
  obtain ⟨other, hother, rfl⟩ := Option.map_eq_some_iff.mp hc
  exact hothers i other hother hcv hct hcf

theorem JobType.acts_ne_ssh {type : JobType} (h : type.acts = true) : type ≠ .sshReadinessCheck := by
  rintro rfl
  cases h

theorem View.Accepted.step (ha : t.view.Accepted) (hb : Base t.view) (ho : t.view.OnceBegun)
    (hm : Move t.view l t'.view) (hok : Cond.unopposed t.shared l t'.shared) : t'.view.Accepted := by
  refine ⟨fun {i c v} hc hs hact hv => ?_, fun {j row} hev {c} hc hact => ?_⟩
  · cases hm.jobs_back hb hc with
    | same hold _ _ hq =>
      obtain rfl := hq hs
      refine (ha.apt hold hs hact hv).step hb hm hold hs fun i' c' hn hc' hv' ht' => ?_
      cases hm.jobs_back hb hc' with
      | same hc₀ _ _ _ =>
        rw [hn] at hc₀
        cases hc₀
      | added _ hcore _ _ hwho =>
        rcases hwho with rfl | ⟨n, job, hl, rfl⟩
        · subst hcore
          exact absurd rfl ht'
        · obtain ⟨_, hothers⟩ := hok.columns hl ht' hv'
          obtain ⟨h₁, h₂⟩ := hothers i c hold hv (JobType.acts_ne_ssh hact) (by simp [hs, JobStatus.finished])
          exact ⟨h₂, h₁⟩
      | created _ hcore hnone _ _ =>
        subst hcore
        cases hv'
        obtain ⟨x, hx, _⟩ := (ha.apt hold hs hact hv).row
        rw [hx] at hnone
        cases hnone
    | added hnone _ _ _ hwho =>
      rcases hwho with rfl | ⟨n, job, rfl, rfl⟩
      · simp_all [JobType.acts]
      · obtain ⟨⟨x, hx, hacc⟩, hothers⟩ := hok.columns rfl (JobType.acts_ne_ssh hact) hv
        refine ⟨⟨x, by rw [hm.insert_vms, hx], .inl hacc⟩, fun i' c' hc' hne hv' ht' hf' => ?_⟩
        cases hm.jobs_back hb hc' with
        | same hc₀ htype hvm _ =>
          obtain ⟨c₁, hc₁, _, _, hmove⟩ := hm.jobs_forward hb hc₀
          rw [hc'] at hc₁
          cases hc₁
          rw [htype]
          refine hothers i' _ hc₀ (hvm ▸ hv') (htype ▸ ht') ?_
          rw [Bool.eq_false_iff] at hf' ⊢
          exact fun h => hf' (hmove.finished_kept h)
        | added _ hcore _ _ hwho' =>
          rcases hwho' with rfl | ⟨n', job', hl, _⟩
          · subst hcore
            exact absurd rfl ht'
          · cases hl
            exact absurd rfl hne
        | created _ hcore hnone' _ _ =>
          subst hcore
          cases hv'
          rw [hx] at hnone'
          cases hnone'
    | created _ hcore _ _ _ =>
      subst hcore
      cases hact
  · have hold : Ev.enter j row ∈ t.view.hist → ∃ vm : VM, row = some vm ∧ vm.core.accepts c.type = true := by
      intro hev'
      obtain ⟨c₀, hc₀, _⟩ := ho.begun _ hev' j (by simp [Ev.enters])
      obtain ⟨c₁, hc₁, htype, _, _⟩ := hm.jobs_forward hb hc₀
      rw [hc] at hc₁
      cases hc₁
      rw [htype] at hact ⊢
      exact ha.begun hev' hc₀ hact
    cases hm.taken hb with
    | @none evs hist hnot =>
      rw [hist] at hev
      rcases List.mem_append.mp hev with hev | hev
      · have := hnot _ hev j
        simp [Ev.takes] at this
      · exact hold hev
    | dispatch hist _ _ =>
      rw [hist] at hev
      rcases List.mem_cons.mp hev with hev | hev
      · cases hev
      · exact hold hev
    | @enter p job v vm vmRow hist hw hrow hc' =>
      rw [hist] at hev
      rcases List.mem_cons.mp hev with hev | hev
      · cases hev
        rw [hc] at hc'
        cases hc'
        obtain ⟨hj, _⟩ := hb.loaded hw
        refine ⟨vmRow, rfl, ?_⟩
        obtain ⟨x, hx, hfit⟩ := (ha.apt hj rfl hact rfl).row
        rw [hrow] at hx
        cases hx
        rcases hfit with hacc | ⟨hct, hr⟩
        · exact hacc
        · -- no job is at work, so the record is not in a transient status
          have htype : p.type = .reinstallVm := hct
          rw [htype]
          refine hr.accepts ?_
          rw [Bool.eq_false_iff]
          intro htr
          rcases hb.transient hrow hr.1 htr with hu | ⟨_, i, c, hc, hct', hcs, hcv⟩ | ⟨w, hw', _⟩
          · exact hb.late (.inl (by simp [hw])) hu.early
          · obtain rfl := (hb.fresh hc hct' hcs hcv).1 _ _ hj rfl
            rw [hj] at hc
            cases hc
            rw [htype] at hct'
            cases hct'
          · rw [hw] at hw'
            cases hw'
      · exact hold hev

end Run

/-- When the worker begins a job that an endpoint took, its record passes the endpoint's check. -/
theorem begun_accepted {s : Sys} (h : Reachable .unopposed s) {j : JobId} {row : Option VM}
    (hev : Ev.enter j row ∈ s.shared.hist) {job : Job} (hj : s.shared.db.jobs.get j = some job)
    (ht : job.type.acts = true) : ∃ vm, row = some vm ∧ vm.core.accepts job.type = true := by
  obtain ⟨t, hreach, hr⟩ := h.abstract
  have hinv : t.view.OnceBegun ∧ t.view.Accepted := by
    refine hreach.invariant (P := fun m => m.OnceBegun ∧ m.Accepted) (fun t hi => ?_)
      fun t l t' hb _ hp hm hok => ⟨hp.1.step hb hm, hp.2.step hb hp.1 hm hok⟩
    have hnil : t.view.hist = [] := hi.hist
    have hnone : ∀ i, t.view.jobs i = none := fun i => by simp [Abs.view, hi.jobs]
    refine ⟨⟨fun j => by simp [hnil], fun ev hev => by simp [hnil] at hev⟩, ⟨fun hc => ?_, fun hev => ?_⟩⟩
    · rw [hnone] at hc
      cases hc
    · rw [hnil] at hev
      cases hev
  rw [hr.shared] at hev hj
  exact hinv.2.begun hev (congrArg (Option.map Job.core) hj) ht

def Cond.unopposedCheck (s : Shared) : Label → Bool
  | .await (.request _) (.insertJob job) _ =>
    job.type = .sshReadinessCheck || job.vmId.all fun v =>
      (s.db.vms.get v).any (fun vm => vm.core.accepts job.type) &&
        s.db.jobs.rows.all fun other => other.vmId ≠ some v || other.type = .sshReadinessCheck ||
          other.status.finished || (other.type = .reinstallVm && job.type = .reinstallVm)
  | _ => true

theorem Cond.unopposedCheck_sound {s s' : Sys} {l : Label}
    (h : Cond.unopposedCheck s.shared l = true) : Cond.unopposed.ok s l s' := by
  rintro n job j rfl ht v hv
  simp only [unopposedCheck, hv, Option.all_some, Bool.or_eq_true, Bool.and_eq_true,
    decide_eq_true_eq, ht, false_or, List.all_eq_true, Option.any_eq_true] at h
  obtain ⟨⟨vm, hvm, hacc⟩, hall⟩ := h
  refine ⟨⟨vm, hvm, hacc⟩, fun i other hother hov hot hof => ?_⟩
  rcases hall other (List.mem_of_getElem? hother) with ((h | h) | h) | h
  · exact absurd hov h
  · exact absurd h hot
  · rw [hof] at h
    cases h
  · exact h

open Scenario in
/-- After its failed creation the VM is deleted; the worker begins the deletion. -/
def deletedOnce : List Choice :=
  failedCreation ++ delete 1 0 "a" ++ .get :: worker [.none, .none, .none]

theorem deletedOnce_ends : (Scenario.panel.run (fun s l _ => Cond.unopposedCheck s.shared l)
    deletedOnce).any (fun s => s.shared.hist.any (Ev.enters 1) &&
      (s.shared.db.jobs.get 1).any fun job => job.type = .deleteVm) = true := by decide +kernel

theorem deletedOnce_runs : (Scenario.panel.run (fun s l _ => Cond.unopposedCheck s.shared l)
    deletedOnce).isSome = true := Option.isSome_of_any deletedOnce_ends

/-- The deletion finds the record in error, as `delete_vm` did. -/
theorem begun_accepted_deletedOnce :
    let s := (Scenario.panel.run (fun s l _ => Cond.unopposedCheck s.shared l) deletedOnce).get
      deletedOnce_runs
    (∃ row, Ev.enter 1 row ∈ s.shared.hist) ∧
      ∀ row, Ev.enter 1 row ∈ s.shared.hist → ∃ vm, row = some vm ∧ vm.core.accepts .deleteVm = true := by
  intro s
  have hreach : Reachable .unopposed s :=
    Scenario.reached (fun _ _ _ h => Cond.unopposedCheck_sound h) deletedOnce_runs
  obtain ⟨hentered, hjob⟩ :=
    (Bool.and_eq_true _ _).mp (Option.get_of_any_eq_true _ _ deletedOnce_ends)
  obtain ⟨job, hj, ht⟩ := (Option.any_eq_true _ _).mp hjob
  have ht : job.type = .deleteVm := of_decide_eq_true ht
  refine ⟨?_, fun row hev => ?_⟩
  · obtain ⟨ev, hev, hen⟩ := List.any_eq_true.mp hentered
    cases ev with
    | enter j row =>
      obtain rfl : j = 1 := of_decide_eq_true hen
      exact ⟨row, hev⟩
    | _ => cases hen
  · rw [← ht]
    exact begun_accepted hreach hev hj (by rw [ht]; rfl)

/-- The worker has begun a job that its endpoint would now refuse. -/
def Ev.misfits (db : Db) : Ev → Bool
  | .enter j row => (db.jobs.get j).any fun job =>
    job.type.acts && !row.any fun vm => vm.core.accepts job.type
  | _ => false

open Scenario in
/-- Two deletions of one VM are accepted; the second begins on the deleted record. -/
def deletedTwice : List Choice :=
  failedCreation ++ delete 1 0 "a" ++ delete 2 0 "a" ++ deleteBlank ++
    .get :: worker [.none, .none, .none]

theorem begun_refused : ¬ ∀ s, Reachable .any s → ∀ j row, Ev.enter j row ∈ s.shared.hist →
    ∀ job, s.shared.db.jobs.get j = some job → job.type.acts = true →
      ∃ vm, row = some vm ∧ vm.core.accepts job.type = true := by
  intro h
  have hends : (Scenario.panel.run (fun _ _ _ => true) deletedTwice).any (fun s =>
      s.shared.hist.any (Ev.misfits s.shared.db)) = true := by decide +kernel
  obtain ⟨s, hreach, hbad⟩ := Scenario.evaluated_any hends
  obtain ⟨ev, hev, hmis⟩ := List.any_eq_true.mp hbad
  cases ev with
  | enter j row =>
    simp only [Ev.misfits, Option.any_eq_true, Bool.and_eq_true, Bool.not_eq_true',
      Bool.eq_false_iff] at hmis
    obtain ⟨job, hj, ht, hno⟩ := hmis
    obtain ⟨vm, rfl, hacc⟩ := h _ hreach j row hev job hj ht
    exact hno (by simpa using hacc)
  | _ => cases hmis

end Clusteration
