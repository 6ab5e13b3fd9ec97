import Clusteration.Properties.Destruction

open Transition

namespace Clusteration

/-- The guest `n` was cloned by the job, and the record it was cloned for points elsewhere. -/
def Loose (s : Shared) (j : JobId) (n : Int) : Prop :=
  ∃ g c, s.pve.find n = some g ∧ g.origin = some c ∧ c.job = j ∧
    ∀ vm, s.db.vms.get c.vm = some vm → vm.proxmoxVmid ≠ some n

/-- `provision_vm_from_template` goes on after this answer: the clone has a UPID, and its task runs
or has ended well. -/
def goesOn : Req → HttpOutcome → Bool
  | .clone .., out => (upidOf out).isSome
  | .taskStatus .., out => taskRuns out
  | _, _ => true

def Ev.isClone : Ev → Bool
  | .call _ (.clone ..) _ => true
  | _ => false

/-- What has happened since the last clone was asked for. -/
def sinceClone (hist : List Ev) : List Ev := hist.takeWhile fun ev => !ev.isClone

/-- A wait that began with this reading of the clock is not over at `now`. -/
def Ev.waits (now : Nat) : Ev → Bool
  | .time start => now < start + 600000
  | _ => true

/-- From the moment Proxmox has carried out a clone until its VMID is in the record, the job gets
answers it can go on from, and no reading of the clock ends its wait; the process ends in that window
only once `target_vmid` names the guest; and nobody takes a guest that exists for destroyed. -/
structure HandedOver (s : Shared) (l : Label) (s' : Shared) : Prop where
  answered : ∀ c req out, l = .await .worker (.http (some c) req) out → ∀ n, Loose s' c.job n →
    goesOn req out = true
  timely : ∀ now, l = .await .worker .time now → ∀ j job n, s.db.jobs.get j = some job →
    job.status = .running → Loose s j n → ∀ ev ∈ sinceClone s.hist, ev.waits now = true
  crashed : l = .crash → ∀ j job n, s.db.jobs.get j = some job → job.status = .running →
    Loose s j n → job.metadata.targetVmid = some n
  candid : Cond.candid s l s'

def Cond.handedOver : Cond := HandedOver

/-- The VMID of the clone that is not in the record yet. -/
def Stage.clones : Stage → Option Int
  | allocated n | cloned n | copying n _ => some n
  | _ => none

/-- Where a guest that the panel made is known: in its record, in the job that made it, or in what
that job left to the recovery. -/
inductive View.Knows (m : View) (n : Int) (c : Caller) : Prop
  | record {x : Core} : m.vms c.vm = some x → x.vmid = some n → View.Knows m n c
  | exec {w : Exec} : m.worker = .exec w → w.caller = c → w.stage.clones = some n → View.Knows m n c
  | left {type : JobType} {x : Core} : m.Unrecovered →
      m.jobs c.job = some ⟨type, .running, some c.vm, some n⟩ → n ≠ 0 → m.vms c.vm = some x →
      x.vmid = none → View.Knows m n c

structure View.Kept (m : View) : Prop where
  sworn : m.Sworn
  guests : ∀ {n g c}, m.pve.find n = some g → g.origin = some c → m.Knows n c
  origin : ∀ {n g c}, m.pve.find n = some g → g.origin = some c →
    ∃ job, m.jobs c.job = some job ∧ job.vmId = some c.vm
  vmid : ∀ {w n}, m.worker = .exec w → w.stage.clones = some n → n ≠ 0
  began : ∀ {w n start}, m.worker = .exec w → w.stage = .copying n start →
    Ev.time start ∈ sinceClone m.hist

section Step
variable {m m' : View} {l : Label}

/-- Until the recovery, nothing touches the rows. -/
theorem Move.unrecovered (hb : Base m) (hm : Move m l m') (hu : m.Unrecovered) :
    (m'.Unrecovered ∧ m'.jobs = m.jobs ∧ m'.vms = m.vms) ∨ ∃ adopted : VmId → Option Int,
      (∀ v n, adopted v = some n ↔ ∃ i c, m.jobs i = some c ∧ c.status = .running ∧
        c.vmId = some v ∧ c.target = some n ∧ n ≠ 0) ∧
      m'.vms = fun v => (m.vms v).map (Core.recovered (adopted v)) := by
  obtain ⟨hover, hempty⟩ := hb.early hu.early
  have hclosed : ¬ m.Open := by
    rintro ⟨ha, hboot⟩
    simp [View.Unrecovered, ha, hboot] at hu
  cases hm with
  | crash _ | restart _ _ => exact .inl ⟨by simp [View.Unrecovered], rfl, rfl⟩
  | observe _ _ => exact .inl ⟨hu, rfl, rfl⟩
  | seed _ _ => exact .inl ⟨.inr (.inr rfl), rfl, rfl⟩
  | recover adopted _ _ hadopted => exact .inr ⟨adopted, hadopted, rfl⟩
  | get _ _ hq =>
    rw [hempty] at hq
    cases hq
  | receive _ ha hboot => exact absurd ⟨ha, hboot⟩ hclosed
  | startWorker ha hboot | select ha hboot _ _ _ | requeue ha hboot | abandon ha hboot =>
    simp [View.Unrecovered, ha, hboot] at hu
  | job _ hw _ | vm _ hw _ _ | enter _ hw _ | http _ hw _ _ | ssh _ hw _ _ _ | clock _ hw _
  | edit _ hw _ _
  | fail _ hw _ _ _ | finish _ hw _ | follow _ hw _ | followPut _ hw =>
    rw [hover] at hw
    cases hw
  | turn _ hφ _ | mark _ hφ _ | insert _ hφ _ _ _ _ _ _ | create _ hφ _ _ _ _ _ | put _ hφ =>
    exact absurd (hb.open_of_request hφ) hclosed

end Step

section Clone
variable {w : Exec} {n : Int}

theorem sinceClone_append {evs hist : List Ev} (h : ∀ ev ∈ evs, ev.isClone = false) :
    sinceClone (evs ++ hist) = evs ++ sinceClone hist := by
  unfold sinceClone
  exact List.takeWhile_append_of_pos fun ev hev => by simp [h ev hev]

/-- A job whose clone is not in the record yet knows no VMID, and never raises. -/
theorem Exec.Ok.cloning (hw : w.Ok) (hs : w.stage.clones = some n) :
    w.x.vmid = none ∧ w.stage.raises = false := by
  cases h : w.stage with
  | allocated _ | cloned _ | copying _ _ =>
    simp only [Exec.Ok, h] at hw
    exact ⟨hw.2.1, rfl⟩
  | _ => simp [h, Stage.clones] at hs

/-- An answer that moves the job on while its clone is not in the record makes it raise. -/
theorem Learns.of_cloning {req : Req} {out : HttpOutcome} {stage : Stage}
    (h : Learns w (.http (some w.caller) req) out stage) (hs : w.stage.clones = some n) :
    goesOn req out = false ∧ req.target = none := by
  cases h with
  | unaccepted _ _ _ _ hu => exact ⟨by simp [goesOn, hu], rfl⟩
  | broken _ _ _ hr => exact ⟨hr, rfl⟩
  | nextId h _ | powering _ h _ _ _ | powered _ h _ | heard _ h _ _ _ | missing h _ _
  | accepted _ h _ _ | starting _ h _ | started _ h _ | destroyed _ h _ | named _ h _ =>
    simp [h, Stage.clones] at hs

theorem Learns.to_cloning {e : Eff} {r : Ans e} {stage : Stage} (h : Learns w e r stage)
    (hs : stage.clones = some n) (hne : ∀ n, stage ≠ .allocated n) : w.stage.clones = some n := by
  cases h with
  | copying _ h =>
    rw [h]
    exact hs
  | nextId _ _ => exact absurd rfl (hne _)
  | _ => cases hs

theorem Edit.of_cloning {stage : Stage} {x : Core} {target : Option Int}
    (h : Edit w stage x target) (hs : w.stage.clones = some n) :
    stage.clones = some n ∨ x.vmid = some n := by
  cases h with
  | metadata => exact .inl hs
  | target h =>
    rw [h] at hs
    exact .inl hs
  | adopt h =>
    rw [h] at hs
    exact .inr hs
  | power h _ _ | stopped h _ _ | addressed h _ | unheard h _ | delete h _ | wipe h _
  | booted h | address h | noAddress h | ready h | sshReady h | sshFailed h _ | targetLost h =>
    simp [h, Stage.clones] at hs
  | deleted _ h _ | cleared h _ => rcases h with h | ⟨h, _⟩ <;> simp [h, Stage.clones] at hs
  | prepare h => rcases h with ⟨h, _⟩ | ⟨h, _⟩ <;> simp [h, Stage.clones] at hs

theorem Edit.to_cloning {stage : Stage} {x : Core} {target : Option Int}
    (h : Edit w stage x target) (hs : stage.clones = some n) : w.stage.clones = some n := by
  cases h with
  | metadata => exact hs
  | target h =>
    rw [h]
    exact hs
  | _ => cases hs

theorem Edit.copying {stage : Stage} {x : Core} {target : Option Int} {start : Nat}
    (h : Edit w stage x target) (hs : stage = .copying n start) : w.stage = .copying n start := by
  cases h with
  | metadata => exact hs
  | _ => cases hs

end Clone

section Run
variable {t t' : Abs} {l : Label} {n : Int} {c : Caller}

/-- `Loose`, seen from the invariants. -/
def View.Unnamed (m : View) (j : JobId) (n : Int) : Prop :=
  ∃ g c, m.pve.find n = some g ∧ g.origin = some c ∧ c.job = j ∧
    ∀ x, m.vms c.vm = some x → x.vmid ≠ some n

theorem View.Unnamed.loose {j : JobId} (h : t.view.Unnamed j n) : Loose t.shared j n := by
  obtain ⟨g, c, hg, ho, hj, hrow⟩ := h
  exact ⟨g, c, hg, ho, hj, fun vm hvm => hrow vm.core (congrArg (Option.map VM.core) hvm)⟩

/-- A standing clone of the job at work, whose record names no guest. -/
theorem Base.unnamed {m : View} (hb : Base m) {w : Exec} (hw : m.worker = .exec w)
    (hx : w.x.vmid = none) {g : Guest} (hg : m.pve.find n = some g) (ho : g.origin = some w.caller) :
    m.Unnamed w.j n := by
  obtain ⟨_, _, row, hrow, hag⟩ := hb.exec hw
  refine ⟨g, w.caller, hg, ho, rfl, fun x hx' hn => ?_⟩
  obtain rfl := Option.some.inj (hrow.symm.trans hx')
  have hnone := hag.vmid.symm.trans hn
  rw [hx] at hnone
  cases hnone

/-- What is known of a guest stays known. -/
theorem View.Knows.step (hk : t.view.Knows n c) (ht : t.view.Kept) (hb : Base t.view)
    (hb' : Base t'.view) (hm : Move t.view l t'.view) (hok : HandedOver t.shared l t'.shared)
    {g : Guest} (hg : t.shared.pve.find n = some g) (ho : g.origin = some c) :
    t'.view.Knows n c := by
  cases hk with
  | @record x hx hn =>
    obtain ⟨x', hx'⟩ := hm.vms_kept hx
    cases hm.vmid_back hb hx hx' with
    | kept h => exact .record hx' (h.trans hn)
    | @cleared w hw hv hgone ht' _ =>
      -- the job has taken the guest for gone, so it is
      obtain ⟨_, _, row, hrow, hag⟩ := hb.exec hw
      obtain rfl := Option.some.inj (hx.symm.trans (hv ▸ hrow))
      have hwn : w.x.vmid = some n := hag.vmid.symm.trans hn
      have hnone : t.view.pve.find n = none := by
        rcases hgone with hs | ⟨_, hs⟩
        · exact (ht.sworn w hw).gone hs n hwn
        · rw [hwn] at hs
          cases hs
      have hsome : t.view.pve.find n = some g := hg
      rw [hnone] at hsome
      cases hsome
    | adopted _ _ _ h _ | recovered _ _ _ _ h _ =>
      rw [hn] at h
      cases h
  | left hu hc hn hx hnone =>
    rcases hm.unrecovered hb hu with ⟨hu', hj, hv⟩ | ⟨adopted, hadopted, hv⟩
    · exact .left hu' (hj ▸ hc) hn (hv ▸ hx) hnone
    · have ha : adopted c.vm = some n := (hadopted c.vm n).mpr ⟨_, _, hc, rfl, rfl, rfl, hn⟩
      have hx' := congrFun hv c.vm
      rw [hx, Option.map_some] at hx'
      exact .record hx' (by simp [Core.recovered, hnone, ha])
  | @exec w hw hwc hs =>
    obtain ⟨hwok, hjob, row, hrow, hag⟩ := hb.exec hw
    obtain ⟨hnone, hcalm⟩ := hwok.cloning hs
    subst hwc
    have hloose : Loose t.shared w.j n := (hb.unnamed hw hnone hg ho).loose
    have hshared : ∀ j n, t'.view.Unnamed j n → Loose t'.shared j n := fun _ _ h => h.loose
    obtain ⟨jobRow, hjobRow, hcore⟩ := Option.map_eq_some_iff.mp hjob
    have hrun : jobRow.status = .running := congrArg JobCore.status hcore
    have htarget : jobRow.metadata.targetVmid = w.target := congrArg JobCore.target hcore
    generalize t'.view = m' at hm hb' hshared ⊢
    cases hm with
    | crash _ =>
      have hsome : w.target = some n := htarget.symm.trans (hok.crashed rfl _ _ _ hjobRow hrun hloose)
      have hleft : t.view.jobs w.j = some ⟨w.type, .running, some w.v, some n⟩ := hsome ▸ hjob
      exact .left (.inl rfl) hleft (ht.vmid hw hs) hrow (hag.vmid.trans hnone)
    | restart _ hd =>
      rw [(hb.early (.inl hd)).1] at hw
      cases hw
    | get _ hw' _ | job _ hw' _ | vm _ hw' _ _ | enter _ hw' _ | follow _ hw' _ | followPut _ hw' =>
      rw [hw] at hw'
      cases hw'
    | @http _ req i stage pve _ hw' hcall hserve =>
      obtain rfl := WorkerPhase.exec.inj (hw.symm.trans hw')
      rcases hcall with ⟨_, rfl⟩ | hl
      · exact .exec rfl rfl hs
      · obtain ⟨hstop, hreq⟩ := hl.of_cloning hs
        have hg' : pve.find n = some g := (serve_served hserve).find_other hg (by simp [hreq])
        have hloose' := hshared _ _ (hb'.unnamed (w := { w with stage }) rfl hnone hg' ho)
        rw [hok.answered _ _ _ rfl n hloose'] at hstop
        cases hstop
    | clock _ hw' hl =>
      obtain rfl := WorkerPhase.exec.inj (hw.symm.trans hw')
      rcases hl.clock_cases with ⟨k, hs', rfl⟩ | ⟨k, start, hs', rfl, hle⟩
      · rw [hs'] at hs
        exact .exec rfl rfl hs
      · have hlt := of_decide_eq_true
          (hok.timely _ rfl _ _ n hjobRow hrun hloose _ (ht.began hw hs'))
        exact absurd hle (Nat.not_le.mpr hlt)
    | ssh _ hw' hs' _ _ =>
      obtain rfl := WorkerPhase.exec.inj (hw.symm.trans hw')
      simp [hs', Stage.clones] at hs
    | edit _ hw' _ he =>
      obtain rfl := WorkerPhase.exec.inj (hw.symm.trans hw')
      rcases he.of_cloning hs with hs' | hn
      · exact .exec rfl rfl hs'
      · exact .record (Function.update_self _ _ _) hn
    | fail _ hw' _ hraise _ =>
      obtain rfl := WorkerPhase.exec.inj (hw.symm.trans hw')
      rw [hcalm] at hraise
      cases hraise
    | finish _ hw' hs' =>
      obtain rfl := WorkerPhase.exec.inj (hw.symm.trans hw')
      simp [hs', Stage.clones] at hs
    | _ => exact .exec hw rfl hs

/-- While the job waits for its clone it asks for no other, and the wait begins with a reading. -/
theorem Move.waiting {m m' : View} (hm : Move m l m') {w' : Exec} {start : Nat}
    (hw' : m'.worker = .exec w') (hs : w'.stage = .copying n start) :
    (∃ w evs, m.worker = .exec w ∧ w.stage = .copying n start ∧ m'.hist = evs ++ m.hist ∧
      ∀ ev ∈ evs, ev.isClone = false) ∨ m'.hist = .time start :: m.hist := by
  have hnone : ∀ ev ∈ ([] : List Ev), ev.isClone = false := by simp
  cases hm with
  | observe evs hq =>
    refine .inl ⟨w', evs, hw', hs, rfl, fun ev hev => ?_⟩
    have hquiet := hq ev hev
    cases ev with
    | time _ => rfl
    | _ => exact hquiet.elim
  | enter _ _ _ | ssh _ _ _ _ _ =>
    cases hw'
    cases hs
  | http _ _ hcall _ =>
    cases hw'
    rcases hcall with ⟨hc, rfl⟩ | hl
    · cases hc with
      | power _ h _ _ | stop _ h _ | destroy _ h _ | clone _ _ _ h | config _ _ h | resize _ _ _ h
      | start _ h | exec _ _ h | reboot _ h =>
        rw [hs] at h
        cases h
    · cases hl <;> cases hs
  | clock _ hw hl =>
    cases hw'
    rcases hl.clock_cases with ⟨k, hs', rfl⟩ | ⟨k, start', hs', rfl, _⟩
    · cases hs
      exact .inr rfl
    · cases hs
  | edit _ hw _ he =>
    cases hw'
    exact .inl ⟨_, [], hw, he.copying hs, rfl, hnone⟩
  | crash _ | restart _ _ | get _ _ _ | job _ _ _ | vm _ _ _ _ | fail _ _ _ _ _ | follow _ _ _
  | followPut _ _ => cases hw'
  | finish _ _ _ =>
    simp only at hw'
    split at hw' <;> cases hw'
  | _ => exact .inl ⟨w', [], hw', hs, rfl, hnone⟩

theorem View.Kept.step (ht : t.view.Kept) (hb : Base t.view) (hb' : Base t'.view)
    (hm : Move t.view l t'.view) (hok : HandedOver t.shared l t'.shared) : t'.view.Kept := by
  refine ⟨ht.sworn.step hb hm hok.candid, fun {n g' c} hg' ho' => ?_, fun {n g' c} hg' ho' => ?_,
    fun {w' n} hw' hs => ?_, fun {w' n start} hw' hs => ?_⟩
  · cases hm.find_back hg' with
    | old hg ho =>
      exact (ht.guests hg (ho.symm.trans ho')).step ht hb hb' hm hok hg (ho.symm.trans ho')
    | @cloned w stage hw hw' hs hstage ho _ _ =>
      obtain rfl := Option.some.inj (ho.symm.trans ho')
      rcases hstage with rfl | ⟨rfl, node, template, name, out, hu, rfl⟩
      · exact .exec hw' rfl rfl
      · -- the clone was made, and its answer names no UPID
        have hnone : w.x.vmid = none := ((hb.exec hw).ok.cloning (by rw [hs]; rfl)).1
        have hloose := (hb'.unnamed hw' hnone hg' ho').loose
        have hgo := hok.answered _ _ _ rfl n hloose
        simp [goesOn, hu] at hgo
  · cases hm.find_back hg' with
    | old hg ho =>
      obtain ⟨job, hj, hv⟩ := ht.origin hg (ho.symm.trans ho')
      obtain ⟨job', hj', _, hv', _⟩ := hm.jobs_forward hb hj
      exact ⟨job', hj', hv'.trans hv⟩
    | cloned hw _ _ _ ho hj _ =>
      obtain rfl := Option.some.inj (ho.symm.trans ho')
      exact ⟨_, hj ▸ (hb.exec hw).job, rfl⟩
  · cases hm.exec_back hw' with
    | same hw => exact ht.vmid hw hs
    | enter _ _ _ hw =>
      rw [hw] at hs
      cases hs
    | allocated hw _ _ _ hn _ _ hw'' =>
      subst hw''
      cases hs
      omega
    | reached hw _ _ _ _ _ _ hw'' =>
      subst hw''
      cases hs
    | learn hw _ hl hne _ hw'' =>
      subst hw''
      exact ht.vmid hw (hl.to_cloning hs hne)
    | edit hw he hw'' =>
      subst hw''
      exact ht.vmid hw (he.to_cloning hs)
  · rcases hm.waiting hw' hs with ⟨w, evs, hw, hs', hist, hquiet⟩ | hist
    · rw [hist, sinceClone_append hquiet]
      exact List.mem_append_right _ (ht.began hw hs')
    · rw [hist]
      exact List.mem_cons_self

end Run

theorem AReachable.kept {t : Abs} (h : AReachable .handedOver t) : t.view.Kept := by
  refine h.invariant (P := View.Kept) (fun t hi => ?_) fun _ _ _ hb hb' ht hm hok =>
    ht.step hb hb' hm hok
  have hnone : ∀ {n g c}, t.view.pve.find n = some g → g.origin ≠ some c := by
    intro n g c hg ho
    rw [hi.foreign g (List.mem_of_find?_eq_some hg)] at ho
    cases ho
  exact ⟨fun w hw => (hi.no_exec hw).elim, fun hg ho => absurd ho (hnone hg),
    fun hg ho => absurd ho (hnone hg), fun {w n} hw => (hi.no_exec hw).elim,
    fun {w n start} hw => (hi.no_exec hw).elim⟩

/-- Once a job is over, every guest it has cloned that still exists is its record's. -/
theorem clones_recorded {s : Sys} (h : Reachable .handedOver s) {j : JobId} {job : Job}
    (hj : s.shared.db.jobs.get j = some job) (hf : job.status.finished = true) {n : Int} {g : Guest}
    {c : Caller} (hg : s.shared.pve.find n = some g) (ho : g.origin = some c) (hc : c.job = j) :
    ∃ v vm, job.vmId = some v ∧ s.shared.db.vms.get v = some vm ∧ vm.proxmoxVmid = some n := by
  obtain ⟨t, ht, hr⟩ := h.abstract
  rw [hr.shared] at hj hg ⊢
  subst hc
  have hrow : t.view.jobs c.job = some job.core := congrArg (Option.map Job.core) hj
  obtain ⟨job', hj', hv⟩ := ht.kept.origin hg ho
  obtain rfl := Option.some.inj (hrow.symm.trans hj')
  cases ht.kept.guests hg ho with
  | record hx hn =>
    obtain ⟨vm, hvm, rfl⟩ := Option.map_eq_some_iff.mp hx
    exact ⟨c.vm, vm, hv, hvm, hn⟩
  | exec hw hwc _ =>
    subst hwc
    have hstatus := congrArg JobCore.status (Option.some.inj (hrow.symm.trans (ht.base.exec hw).job))
    rw [Job.core_status] at hstatus
    rw [hstatus] at hf
    cases hf
  | left _ hc _ _ _ =>
    have hstatus := congrArg JobCore.status (Option.some.inj (hrow.symm.trans hc))
    rw [Job.core_status] at hstatus
    rw [hstatus] at hf
    cases hf

/-- The guest `n` is one the job cloned, and its record points elsewhere. -/
def looseCheck (s : Shared) (j : JobId) (g : Guest) : Bool :=
  g.origin.any fun c => c.job = j &&
    (s.db.vms.get c.vm).all fun vm => vm.proxmoxVmid ≠ some g.vmid

theorem looseCheck_of_loose {s : Shared} {j : JobId} {n : Int} (h : Loose s j n) :
    ∃ g ∈ s.pve.guests, g.vmid = n ∧ looseCheck s j g = true := by
  obtain ⟨g, c, hg, ho, hj, hrow⟩ := h
  refine ⟨g, List.mem_of_find?_eq_some hg, Cluster.find_vmid hg, ?_⟩
  simp only [looseCheck, ho, Option.any_some, hj, decide_true, Bool.true_and]
  cases hvm : s.db.vms.get c.vm with
  | none => rfl
  | some vm => simpa [Cluster.find_vmid hg] using hrow vm hvm

def Cond.handedOverCheck (s : Shared) (l : Label) (s' : Shared) : Bool :=
  Cond.candidCheck s l &&
  match l with
  | .crash => (List.range s.db.jobs.next).all fun j => (s.db.jobs.get j).all fun job =>
    s.pve.guests.all fun g => !looseCheck s j g || job.metadata.targetVmid = some g.vmid
  | .await .worker (.http (some c) req) out =>
    goesOn req out || s'.pve.guests.all fun g => !looseCheck s' c.job g
  | .await .worker .time now => (List.range s.db.jobs.next).all fun j =>
    s.pve.guests.all fun g => !looseCheck s j g || (sinceClone s.hist).all (Ev.waits now)
  | _ => true

theorem Cond.handedOverCheck_sound {s s' : Sys} {l : Label}
    (h : Cond.handedOverCheck s.shared l s'.shared = true) : Cond.handedOver.ok s l s' := by
  unfold handedOverCheck at h
  rw [Bool.and_eq_true] at h
  obtain ⟨hcandid, h⟩ := h
  refine ⟨?_, ?_, ?_, Cond.candidCheck_sound hcandid⟩
  · rintro c req out rfl n hloose
    obtain ⟨g, hg, _, hcheck⟩ := looseCheck_of_loose hloose
    rcases (Bool.or_eq_true _ _).mp h with h | h
    · exact h
    · have := List.all_eq_true.mp h g hg
      rw [hcheck] at this
      cases this
  · rintro now rfl j job n hj _ hloose ev hev
    obtain ⟨g, hg, _, hcheck⟩ := looseCheck_of_loose hloose
    have hguest := List.all_eq_true.mp (List.all_eq_true.mp h j (List.mem_range.mpr (Table.get_lt hj))) g hg
    rw [hcheck, Bool.not_true, Bool.false_or] at hguest
    exact List.all_eq_true.mp hguest ev hev
  · rintro rfl j job n hj _ hloose
    obtain ⟨g, hg, hn, hcheck⟩ := looseCheck_of_loose hloose
    have hjob := List.all_eq_true.mp h j (List.mem_range.mpr (Table.get_lt hj))
    rw [hj, Option.all_some] at hjob
    have := List.all_eq_true.mp hjob g hg
    simpa [hcheck, hn] using this

open Scenario in
/-- A clone is made and recorded. At the next the process ends between the clone and the commit of
its VMID, and is started again. -/
def cloneAdopted : List Choice :=
  startup [] 0 ++ create 0 (body "a" named_a) 100 ++ clone "0" 100 ++ unconfigured ++
    create 1 (body "b" named_b) 101 ++ cloning "1" 101 ++ .crash :: startup [] 0

/-- The job is over, and a guest it has cloned stands. -/
def madeCheck (s : Shared) (j : JobId) (n : Int) : Bool :=
  (s.db.jobs.get j).any (fun job => job.status.finished) &&
    (s.pve.find n).any fun g => g.origin.any fun c => c.job = j

theorem cloneAdopted_ends : (Scenario.panel.run (fun s l s' =>
    Cond.handedOverCheck s.shared l s'.shared) cloneAdopted).any (fun s =>
      madeCheck s.shared 0 100 && madeCheck s.shared 1 101) = true := by
  decide +kernel

theorem cloneAdopted_runs : (Scenario.panel.run (fun s l s' =>
    Cond.handedOverCheck s.shared l s'.shared) cloneAdopted).isSome = true :=
  Option.isSome_of_any cloneAdopted_ends

/-- Both guests are in their records, the second since the recovery. -/
theorem clones_recorded_cloneAdopted :
    let s := (Scenario.panel.run (fun s l s' => Cond.handedOverCheck s.shared l s'.shared)
      cloneAdopted).get cloneAdopted_runs
    ∀ j n, (j = 0 ∧ n = 100) ∨ (j = 1 ∧ n = 101) →
      ∃ v vm, (s.shared.db.jobs.get j).any (fun job => job.vmId = some v) = true ∧
        s.shared.db.vms.get v = some vm ∧ vm.proxmoxVmid = some n := by
  intro s j n hjn
  have hreach : Reachable .handedOver s :=
    Scenario.reached (fun _ _ _ h => Cond.handedOverCheck_sound h) cloneAdopted_runs
  obtain ⟨hfirst, hsecond⟩ := (Bool.and_eq_true _ _).mp
    (Option.get_of_any_eq_true _ _ cloneAdopted_ends)
  have hmade : madeCheck s.shared j n = true := by
    rcases hjn with ⟨rfl, rfl⟩ | ⟨rfl, rfl⟩
    · exact hfirst
    · exact hsecond
  obtain ⟨hjob, hguest⟩ := (Bool.and_eq_true _ _).mp hmade
  obtain ⟨job, hj, hf⟩ := (Option.any_eq_true _ _).mp hjob
  obtain ⟨g, hg, ho⟩ := (Option.any_eq_true _ _).mp hguest
  obtain ⟨c, ho, hc⟩ := (Option.any_eq_true _ _).mp ho
  obtain ⟨v, vm, hv, hvm, hn⟩ := clones_recorded hreach hj hf hg ho (of_decide_eq_true hc)
  exact ⟨v, vm, by simp [hj, hv], hvm, hn⟩

open Scenario in
/-- The clone is made, but the status of its task is refused. -/
def cloneLost : List Choice :=
  startup [] 0 ++ create 0 (body "a" named_a) 100 ++ cloning "0" 100 ++
    worker [.nat 0, refusal, .none]

theorem clone_unrecorded : ¬ ∀ s, Reachable .any s → ∀ j job, s.shared.db.jobs.get j = some job →
    job.status.finished = true → ∀ n g c, s.shared.pve.find n = some g → g.origin = some c →
      c.job = j → ∃ v vm, job.vmId = some v ∧ s.shared.db.vms.get v = some vm ∧
        vm.proxmoxVmid = some n := by
  intro h
  have hends : (Scenario.panel.run (fun _ _ _ => true) cloneLost).any (fun s =>
      (s.shared.db.jobs.get 0).any (fun job => job.status.finished) &&
      (s.shared.pve.find 100).any (fun g => g.origin.any fun c => c.job = 0) &&
      s.shared.db.vms.rows.all fun vm => vm.proxmoxVmid = none) = true := by decide +kernel
  obtain ⟨s, hreach, hends⟩ := Scenario.evaluated_any hends
  rw [Bool.and_eq_true, Bool.and_eq_true] at hends
  obtain ⟨⟨hjob, hguest⟩, hblank⟩ := hends
  obtain ⟨job, hj, hf⟩ := (Option.any_eq_true _ _).mp hjob
  obtain ⟨g, hg, ho⟩ := (Option.any_eq_true _ _).mp hguest
  obtain ⟨c, ho, hc⟩ := (Option.any_eq_true _ _).mp ho
  obtain ⟨v, vm, _, hvm, hn⟩ := h s hreach 0 job hj hf 100 g c hg ho (of_decide_eq_true hc)
  have hnone := List.all_eq_true.mp hblank vm (List.mem_of_getElem? hvm)
  rw [hn] at hnone
  cases hnone

end Clusteration
