import Clusteration.Panel.Recording
import Clusteration.Properties.Auditing
import Clusteration.Properties.Hostnames

open Async Task Transition

namespace Clusteration

/-- The jobs that requests are recorded for. -/
def Job.asked (job : Job) : Bool := job.type ≠ .sshReadinessCheck

def JobType.auditAction : JobType → String
  | createVm => "vm.create"
  | reinstallVm => "vm.reinstall"
  | startVm => "vm.start"
  | stopVm => "vm.stop"
  | rebootVm => "vm.reboot"
  | deleteVm => "vm.delete"
  | sshReadinessCheck => ""

def Request.jobType : Request → JobType
  | .createVm _ => .createVm
  | .startVm _ => .startVm
  | .stopVm _ => .stopVm
  | .rebootVm _ => .rebootVm
  | .reinstallVm _ _ => .reinstallVm
  | .deleteVm _ _ => .deleteVm
  | .recheckSsh _ => .sshReadinessCheck

/-- Jobs keep their type and their VM, and VMs their hostname. -/
structure Db.Carries (db db' : Db) : Prop where
  jobs : ∀ {j job}, db.jobs.get j = some job →
    ∃ job', db'.jobs.get j = some job' ∧ job'.type = job.type ∧ job'.vmId = job.vmId
  vms : ∀ {v vm}, db.vms.get v = some vm → ∃ vm', db'.vms.get v = some vm' ∧ vm'.hostname = vm.hostname

theorem Db.Carries.refl (db : Db) : db.Carries db where
  jobs h := ⟨_, h, rfl, rfl⟩
  vms h := ⟨_, h, rfl⟩

/-- The same rows, as far as the trail speaks of them. -/
structure Db.Same (db db' : Db) : Prop where
  next : db'.jobs.next = db.jobs.next
  jobs : ∀ j, (db'.jobs.get j).map (fun job => (job.type, job.vmId)) =
    (db.jobs.get j).map fun job => (job.type, job.vmId)
  vms : ∀ v, (db'.vms.get v).map VM.hostname = (db.vms.get v).map VM.hostname

section Same
variable {db db' : Db}

theorem Db.Same.carries (h : db.Same db') : db.Carries db' where
  jobs := by
    intro j job hj
    have hrow := h.jobs j
    rw [hj, Option.map_some, Option.map_eq_some_iff] at hrow
    obtain ⟨job', hj', heq⟩ := hrow
    rw [Prod.mk.injEq] at heq
    exact ⟨job', hj', heq.1, heq.2⟩
  vms := by
    intro v vm hv
    have hrow := h.vms v
    rw [hv, Option.map_some, Option.map_eq_some_iff] at hrow
    exact hrow

theorem Db.Same.asked (h : db.Same db') : db'.jobs.select Job.asked = db.jobs.select Job.asked := by
  apply Table.select_congr h.next
  intro j
  have hany : ∀ row : Option Job, row.any Job.asked =
      (row.map fun job => (job.type, job.vmId)).any fun key => key.1 ≠ .sshReadinessCheck := by
    intro row
    cases row <;> rfl
  rw [hany, hany, h.jobs j]

end Same

theorem same_of_eq {db db' : Db} (hjobs : db'.jobs = db.jobs) (hvms : db'.vms = db.vms) :
    db.Same db' where
  next := by rw [hjobs]
  jobs := by simp [hjobs]
  vms := by simp [hvms]

/-- A commit that renames no VM. -/
theorem flush_same (db : Db) {f : Flush} (hf : ∀ d ∈ f.vms, d.cur.hostname = d.base.hostname) :
    db.Same (db.flush f) where
  next := Table.next_foldl (fun t d => Table.next_update t _ _) f.jobs db.jobs
  jobs := by
    apply Table.map_get_foldl
    intro d _ t
    exact Table.map_get_update_of_eq _ t d.key fun _ => rfl
  vms := by
    apply Table.map_get_foldl
    intro d hd t
    apply Table.map_get_update_of_eq
    intro vm
    simp [VM.merge, column, hf d hd]

theorem recover_same (db : Db) : db.Same (markOrphanedRunningAsFailed db) where
  next := Table.next_rewrite _ _
  jobs := by
    apply Table.map_get_rewrite_of_eq
    intro _ job
    split <;> rfl
  vms := by
    intro v
    have hstatus : ∀ (_ : VmId) (vm : VM), (if vm.status.transient && vm.deletedAt.isNone then
        { vm with status := .error } else vm).hostname = vm.hostname := by
      intro _ vm
      split <;> rfl
    simp only [markOrphanedRunningAsFailed, Table.map_get_rewrite_of_eq VM.hostname _ hstatus]
    apply Table.map_get_foldl
    intro j _ t i
    split
    · rfl
    · split
      · split
        · rfl
        · apply Table.map_get_update_of_eq
          intro vm
          split <;> rfl
      · rfl

/-- An await that adds no job a request has asked for, and renames no VM. -/
def Eff.unrecorded : Eff → Bool
  | .commit f => f.vms.all fun d => d.cur.hostname = d.base.hostname
  | .insertJob job => !job.asked
  | .insertVM _ _ => false
  | _ => true

theorem insertJob_carries (db : Db) (job : Job) :
    db.Carries { db with jobs := db.jobs.insert job } where
  jobs h := ⟨_, Table.get_insert_of_some h, rfl, rfl⟩
  vms h := ⟨_, h, rfl⟩

theorem insertVm_carries (db : Db) (vm : VM) (job : Job) :
    db.Carries { db with vms := db.vms.insert vm, jobs := db.jobs.insert job } where
  jobs h := ⟨_, Table.get_insert_of_some h, rfl, rfl⟩
  vms h := ⟨_, Table.get_insert_of_some h, rfl⟩

section Step
variable {sh sh' : Shared} {e : Eff} {a : Ans e}

theorem Act.unrecorded (h : Act sh e a sh') (he : e.unrecorded = true) :
    sh.db.Carries sh'.db ∧ sh'.db.jobs.select Job.asked = sh.db.jobs.select Job.asked := by
  have hsame : ∀ {db}, sh.db.Same db →
      sh.db.Carries db ∧ db.jobs.select Job.asked = sh.db.jobs.select Job.asked :=
    fun h => ⟨h.carries, h.asked⟩
  cases e with
  | commit f =>
    obtain rfl := act_commit.mp h
    exact hsame (flush_same sh.db (by simpa [Eff.unrecorded] using he))
  | insertJob job =>
    obtain ⟨-, rfl⟩ := act_insertJob.mp h
    have hjob : job.asked = false := by simpa [Eff.unrecorded] using he
    refine ⟨insertJob_carries _ _, ?_⟩
    simp [Table.select_insert, hjob]
  | insertVM vm job => cases he
  | recover =>
    obtain rfl := act_recover.mp h
    exact hsame (recover_same sh.db)
  | http caller req =>
    obtain ⟨i, pve, -, -, rfl⟩ := act_http.mp h
    exact hsame (same_of_eq rfl rfl)
  | ssh v ip =>
    rw [act_ssh.mp h]
    apply hsame
    split <;> exact same_of_eq rfl rfl
  | _ =>
    obtain ⟨i, h⟩ := h
    apply hsame
    cases i <;> simp only [perform, reduceCtorEq] at h
    all_goals first
      | (cases h; exact same_of_eq rfl rfl)
      | (split at h <;> cases h; exact same_of_eq rfl rfl)

theorem unrecorded_of_isRead {caller : Option Caller} (h : IsRead caller e) :
    e.unrecorded = true := by
  cases h with
  | clock hc => cases hc <;> rfl
  | _ => rfl

theorem WorkerT.unrecorded {φ φ' : WorkerPhase} (h : WorkerT φ e a φ') : e.unrecorded = true := by
  cases h with
  | quiet hread => exact unrecorded_of_isRead hread
  | learn hl => cases hl <;> rfl
  | edit he hc =>
    obtain ⟨b, c, b', c', rfl, -, -, -, -, hb, hc'⟩ := hc.rows
    have hname : c'.hostname = b'.hostname := by
      rw [← VM.core_hostname, ← VM.core_hostname, hb, hc']
      exact he.hostname
    simp [Eff.unrecorded, hname]
  | fail _ _ hc | finish _ hc =>
    obtain ⟨b, c, b', c', rfl, -, -, -, -, hb, hc'⟩ := hc.rows
    have hname : c'.hostname = b'.hostname := by
      rw [← VM.core_hostname, ← VM.core_hostname, hb, hc']
    simp [Eff.unrecorded, hname]
  | @insert v job j hcore =>
    have htype : job.type = .sshReadinessCheck := congrArg JobCore.type hcore
    simp [Eff.unrecorded, Job.asked, htype]
  | _ => simp [Eff.unrecorded]

theorem BootT.unrecorded {φ φ' : BootPhase} (h : BootT φ e a φ') : e.unrecorded = true := by
  cases h <;> rfl

end Step

/-- Where a request stands with its audit row. -/
inductive RecordPhase where
  | init
  /-- it has read the record of the VM -/
  | read (v : VmId) (hostname : String)
  | recorded (j : JobId)

def RecordPhase.jobs : RecordPhase → List JobId
  | init | read _ _ => []
  | recorded j => [j]

/-- The protocol of the requests: a job that they ask for comes with the row that tells of it. -/
inductive RecordT (c : Audited.Context) (r : Request) :
    RecordPhase → (e : AuditedEff) → AuditedAns e → RecordPhase → Prop
  | quiet {φ : RecordPhase} {e : Eff} {a : Ans e} : e.unrecorded = true →
      RecordT c r φ (.plain e) a φ
  | read {v : VmId} (vm : VM) : RecordT c r .init (.plain (.getVM v)) (some vm) (.read v vm.hostname)
  | refused {φ : RecordPhase} {e : Eff} {event : AuditEvent} : RecordT c r φ (.commit e event) none φ
  | insert {v : VmId} {hostname : String} {job : Job} {detail : Dict} (j : JobId) :
      job.asked = true → job.type = r.jobType → job.vmId = some v →
      RecordT c r (.read v hostname)
        (.commit (.insertJob job) (Audited.auditVm c r.jobType.auditAction (some v) hostname detail))
        (some j) (.recorded j)
  | create {vm : VM} {job : Job} {detail : Dict} (v : VmId) (j : JobId) :
      job.asked = true → job.type = r.jobType →
      RecordT c r .init
        (.commit (.insertVM vm job) (Audited.auditVm c r.jobType.auditAction none vm.hostname detail))
        (some (v, j)) (.recorded j)

/-- The jobs that a request should have recorded when it is answered. -/
def Request.owed (r : Request) : Except Raised Response → List JobId
  | .error _ => []
  | .ok response => match r, response with
    | .recheckSsh _, _ => []
    | _, .creating _ j => [j]
    | _, .queued j => [j]

section Rules
variable {α β : Type} {c : Audited.Context} {r : Request} {φ : RecordPhase}
  {Q : α → Unit → RecordPhase → Prop}

/-- An exception leaves nothing recorded. -/
def Unrecorded (_ : Raised) (_ : Unit) (φ : RecordPhase) : Prop := φ.jobs = []

/-- The request has recorded what it answers. -/
def Owing (r : Request) (response : Response) (_ : Unit) (φ : RecordPhase) : Prop :=
  φ.jobs = r.owed (.ok response)

theorem plainly_bind (m : Route α) (f : α → Route β) :
    plainly (m >>= f) = plainly m >>= fun a => plainly (f a) := translate_bind m f

theorem plainly_spec {m : Route α} (hm : Reads (fun e => e.unrecorded = true) m)
    (hQ : ∀ a, Q a () φ) (hφ : φ.jobs = []) :
    Spec (RecordT c r) (plainly m) () φ Q Unrecorded := by
  have hreads : Reads (fun e => ∃ e', e = AuditedEff.plain e' ∧ e'.unrecorded = true) (plainly m) :=
    reads_translate hm fun e he => ⟨e, rfl, he⟩
  apply hreads.spec
  · intro e he a
    obtain ⟨e', rfl, he'⟩ := he
    exact .quiet he'
  · exact hQ
  · intro x
    exact hφ

theorem plainlyRead_spec {m : Route α} (hm : Reads (IsRead none) m) (hQ : ∀ a, Q a () φ)
    (hφ : φ.jobs = []) : Spec (RecordT c r) (plainly m) () φ Q Unrecorded :=
  plainly_spec (reads_mono hm fun _ he => unrecorded_of_isRead he) hQ hφ

theorem plainlyAwait_spec {e : Eff} {Q : Ans e → Unit → RecordPhase → Prop}
    {F : Raised → Unit → RecordPhase → Prop} (he : e.unrecorded = true) (hQ : ∀ a, Q a () φ) :
    Spec (RecordT c r) (plainly (Task.await e)) () φ Q F := by
  have hawait : plainly (Task.await e) = Task.await (AuditedEff.plain e) := rfl
  rw [hawait]
  apply spec_await
  intro a
  exact ⟨φ, .quiet he, hQ a⟩

theorem getLiveVm_recordSpec {v : VmId} {Q : VM → Unit → RecordPhase → Prop}
    (hQ : ∀ vm, Q vm () (.read v vm.hostname)) :
    Spec (RecordT c r) (plainly (getLiveVm v)) () .init Q Unrecorded := by
  have hsplit : plainly (getLiveVm v) = _ := plainly_bind _ _
  rw [hsplit]
  apply spec_bind
  apply spec_await (e := AuditedEff.plain (.getVM v))
  intro row
  cases row with
  | none => exact ⟨_, .quiet rfl, spec_raise rfl⟩
  | some vm =>
    refine ⟨_, .read vm, ?_⟩
    by_cases hd : vm.deletedAt = none
    · simp only [hd, if_true]
      exact spec_pure (hQ vm)
    · simp only [hd, if_false]
      exact spec_raise rfl

theorem recordAndCommit_spec {e : Eff} {event : AuditEvent} {Q : Ans e → Unit → RecordPhase → Prop}
    (h : ∀ a, ∃ φ', RecordT c r φ (.commit e event) (some a) φ' ∧ Q a () φ') (hφ : φ.jobs = []) :
    Spec (RecordT c r) (recordAndCommit e event) () φ Q Unrecorded := by
  apply spec_bind
  apply spec_await
  intro answer
  cases answer with
  | none => exact ⟨φ, .refused, spec_raise hφ⟩
  | some a =>
    obtain ⟨φ', ht, hQ⟩ := h a
    exact ⟨φ', ht, spec_pure hQ⟩

theorem enqueueJob_recordSpec {v : VmId} {hostname : String} {metadata : JobMeta}
    {rootPassword template : Option String} {detail : Dict}
    (hr : r.jobType ≠ .sshReadinessCheck) :
    Spec (RecordT c r)
      (Audited.enqueueJob v r.jobType metadata rootPassword template
        (Audited.auditVm c r.jobType.auditAction (some v) hostname detail)) ()
      (.read v hostname) (Owing r) Unrecorded := by
  apply spec_bind
  apply recordAndCommit_spec _ rfl
  intro j
  refine ⟨.recorded j, .insert j (by simp [Job.asked, hr]) rfl rfl, ?_⟩
  apply spec_bind
  apply plainlyAwait_spec rfl
  intro _
  apply spec_pure
  cases r with
  | recheckSsh v => exact absurd rfl hr
  | _ => rfl

theorem withCreateVmLock_recordSpec {body : AuditedRoute α}
    (hb : Spec (RecordT c r) body () φ Q Unrecorded) :
    Spec (RecordT c r) (Audited.withCreateVmLock body) () φ Q Unrecorded := by
  apply spec_bind
  apply plainlyAwait_spec rfl
  intro _
  apply spec_bind
  apply spec_catch
  apply spec_mono hb
  · intro a s' φ' hQ
    apply spec_bind
    apply plainlyAwait_spec rfl
    intro _
    exact spec_pure hQ
  · intro x s' φ' hφ
    apply spec_bind
    apply plainlyAwait_spec rfl
    intro _
    exact spec_raise hφ

end Rules

namespace Audited
variable {c : Context}

theorem insertVm_recordSpec {payload : VMCreate} {template : Template} {size : Int × Int}
    {node : String} :
    Spec (RecordT c (.createVm payload)) (insertVm c payload template size node) () .init
      (fun vj _ φ => φ.jobs = [vj.2]) Unrecorded := by
  apply spec_bind
  apply plainlyRead_spec (reads_hostnameFree _) _ rfl
  intro _
  apply spec_bind
  apply plainly_spec (reads_ofExcept _) _ rfl
  intro minDiskGb
  apply recordAndCommit_spec _ rfl
  intro vj
  exact ⟨.recorded vj.2, .create vj.1 vj.2 rfl rfl, rfl⟩

theorem createVm_recordSpec (payload : VMCreate) :
    Spec (RecordT c (.createVm payload)) (createVm c payload) () .init
      (Owing (.createVm payload)) Unrecorded := by
  apply spec_bind
  apply plainlyRead_spec (reads_refuseIf _ _) _ rfl
  intro _
  cases vmSizes payload.size with
  | none => exact spec_raise rfl
  | some size =>
    apply spec_bind
    apply plainlyRead_spec (reads_refuseIf _ _) _ rfl
    intro _
    apply spec_bind
    apply plainlyRead_spec (reads_enabledTemplate _) _ rfl
    intro template
    apply spec_bind
    apply plainlyRead_spec (reads_hostnameFree _) _ rfl
    intro _
    apply spec_bind
    apply plainlyRead_spec (reads_validateCreatePreflight _ _) _ rfl
    intro preflight
    apply spec_bind
    apply spec_mono (withCreateVmLock_recordSpec insertVm_recordSpec) _ fun _ _ _ h => h
    intro vj s' φ' hjobs
    apply spec_bind
    apply plainlyAwait_spec rfl
    intro _
    exact spec_pure hjobs

theorem startVm_recordSpec (v : VmId) :
    Spec (RecordT c (.startVm v)) (startVm c v) () .init (Owing (.startVm v)) Unrecorded := by
  apply spec_bind
  apply getLiveVm_recordSpec
  intro vm
  apply spec_bind
  apply plainlyRead_spec (reads_refuseIf _ _) _ rfl
  intro _
  apply spec_bind
  apply plainlyRead_spec (reads_refuseIf _ _) _ rfl
  intro _
  exact enqueueJob_recordSpec (r := .startVm v) (by simp [Request.jobType])

theorem stopVm_recordSpec (v : VmId) :
    Spec (RecordT c (.stopVm v)) (stopVm c v) () .init (Owing (.stopVm v)) Unrecorded := by
  apply spec_bind
  apply getLiveVm_recordSpec
  intro vm
  apply spec_bind
  apply plainlyRead_spec (reads_refuseIf _ _) _ rfl
  intro _
  exact enqueueJob_recordSpec (r := .stopVm v) (by simp [Request.jobType])

theorem rebootVm_recordSpec (v : VmId) :
    Spec (RecordT c (.rebootVm v)) (rebootVm c v) () .init (Owing (.rebootVm v)) Unrecorded := by
  apply spec_bind
  apply getLiveVm_recordSpec
  intro vm
  apply spec_bind
  apply plainlyRead_spec (reads_refuseIf _ _) _ rfl
  intro _
  exact enqueueJob_recordSpec (r := .rebootVm v) (by simp [Request.jobType])

theorem deleteVm_recordSpec (v : VmId) (confirmHostname : String) :
    Spec (RecordT c (.deleteVm v confirmHostname)) (deleteVm c v confirmHostname) () .init
      (Owing (.deleteVm v confirmHostname)) Unrecorded := by
  apply spec_bind
  apply getLiveVm_recordSpec
  intro vm
  apply spec_bind
  apply plainlyRead_spec (reads_refuseIf _ _) _ rfl
  intro _
  apply spec_bind
  apply plainlyRead_spec (reads_refuseIf _ _) _ rfl
  intro _
  exact enqueueJob_recordSpec (r := .deleteVm v confirmHostname) (by simp [Request.jobType])

theorem reinstallVm_recordSpec (v : VmId) (payload : ReinstallVM) :
    Spec (RecordT c (.reinstallVm v payload)) (reinstallVm c v payload) () .init
      (Owing (.reinstallVm v payload)) Unrecorded := by
  apply spec_bind
  apply plainlyRead_spec (reads_refuseIf _ _) _ rfl
  intro _
  apply spec_bind
  apply getLiveVm_recordSpec
  intro vm
  apply spec_bind
  apply plainlyRead_spec (reads_refuseIf _ _) _ rfl
  intro _
  apply spec_bind
  apply plainlyRead_spec (reads_refuseIf _ _) _ rfl
  intro _
  apply spec_bind
  apply plainlyRead_spec (reads_enabledTemplate _) _ rfl
  intro template
  apply spec_bind
  apply plainlyRead_spec (reads_validateCreatePreflight _ _) _ rfl
  intro preflight
  exact enqueueJob_recordSpec (r := .reinstallVm v payload) (by simp [Request.jobType])

/-- A check of SSH is a job that nobody has asked for. -/
theorem recheckSsh_recordSpec (v : VmId) :
    Spec (RecordT c (.recheckSsh v)) (plainly (recheckSsh v)) () .init (Owing (.recheckSsh v))
      Unrecorded := by
  have hawait : ∀ {e : Eff}, e.unrecorded = true →
      Reads (fun e => e.unrecorded = true) (Task.await e : Route (Ans e)) := fun he => reads_await he
  have hquiet : Reads (fun e => e.unrecorded = true) (recheckSsh v) := by
    apply reads_bind
    · apply reads_bind (hawait rfl)
      intro vm
      cases vm with
      | none => exact reads_raise _
      | some vm =>
        dsimp only
        split
        · exact reads_pure _
        · exact reads_raise _
    · intro vm
      apply reads_bind (reads_mono (reads_refuseIf _ _) fun _ he => unrecorded_of_isRead he)
      intro _
      apply reads_bind (hawait (by simp [Eff.unrecorded]))
      intro _
      apply reads_bind (hawait rfl)
      intro j
      apply reads_bind (hawait rfl)
      intro _
      exact reads_pure _
  exact plainly_spec hquiet (fun _ => rfl) rfl

/-- Every request keeps to the protocol. -/
theorem serve_follows (c : Context) (r : Request) :
    (serve c r).Follows (RecordT c r) .init fun out φ => φ.jobs = r.owed out := by
  have h : Spec (RecordT c r) (handle c r) () .init (Owing r) Unrecorded := by
    cases r with
    | createVm payload => exact createVm_recordSpec payload
    | startVm v => exact startVm_recordSpec v
    | stopVm v => exact stopVm_recordSpec v
    | rebootVm v => exact rebootVm_recordSpec v
    | reinstallVm v payload => exact reinstallVm_recordSpec v payload
    | deleteVm v confirmHostname => exact deleteVm_recordSpec v confirmHostname
    | recheckSsh v => exact recheckSsh_recordSpec v
  apply Prog.follows_bind h.follows
  intro out φ' hout
  obtain ⟨result, s'⟩ := out
  cases result with
  | ok response => exact hout
  | error x => exact hout

end Audited

/-- The row tells of a job in the database, and of its VM. -/
def AuditRow.Tells (row : AuditRow) (db : Db) : Prop :=
  ∃ j job v vm, row.job = some j ∧ db.jobs.get j = some job ∧ job.vmId = some v ∧
    db.vms.get v = some vm ∧ row.event.action = job.type.auditAction ∧
    row.event.targetType = some "vm" ∧ row.event.targetId = some v ∧
    row.event.targetLabel = some vm.hostname

/-- The row tells of this request. -/
structure AuditRow.Of (row : AuditRow) (c : Audited.Context) (r : Request) : Prop where
  action : row.event.action = r.jobType.auditAction
  actor : row.event.actor = some c.adminUsername
  sourceIp : row.event.sourceIp = c.request.clientIp
  requestId : row.event.requestId = some c.request.requestId

/-- What is known in this phase. -/
def RecordPhase.Holds (db : Db) (trail : List AuditRow) (f : Recording) : RecordPhase → Prop
  | .init => f.recorded = []
  | .read v hostname => f.recorded = [] ∧ ∃ vm, db.vms.get v = some vm ∧ vm.hostname = hostname
  | .recorded j => f.recorded = [j] ∧ ∃ row ∈ trail, row.job = some j ∧ row.Of f.context f.request

theorem RecordPhase.Holds.jobs {db : Db} {trail : List AuditRow} {f : Recording} {φ : RecordPhase}
    (h : φ.Holds db trail f) : f.recorded = φ.jobs := by
  cases φ with
  | init => exact h
  | read v hostname => exact h.1
  | recorded j => exact h.1

/-- The request keeps to the protocol, from a phase that fits what it has recorded. -/
def Recording.Kept (f : Recording) (db : Db) (trail : List AuditRow) : Prop :=
  ∃ φ, f.program.Follows (RecordT f.context f.request) φ (fun out φ => φ.jobs = f.request.owed out) ∧
    φ.Holds db trail f

section Carries
variable {db db' : Db} {trail trail' : List AuditRow} {f : Recording}

theorem AuditRow.Tells.carries {row : AuditRow} (h : row.Tells db) (hc : db.Carries db') :
    row.Tells db' := by
  obtain ⟨j, job, v, vm, hj, hjob, hv, hvm, haction, htype, hid, hlabel⟩ := h
  obtain ⟨job', hjob', htype', hv'⟩ := hc.jobs hjob
  obtain ⟨vm', hvm', hname⟩ := hc.vms hvm
  exact ⟨j, job', v, vm', hj, hjob', hv'.trans hv, hvm', by rw [haction, htype'], htype, hid,
    by rw [hlabel, hname]⟩

theorem RecordPhase.Holds.carries {φ : RecordPhase} (h : φ.Holds db trail f) (hc : db.Carries db')
    (ht : ∀ row ∈ trail, row ∈ trail') : φ.Holds db' trail' f := by
  cases φ with
  | init => exact h
  | read v hostname =>
    obtain ⟨hrecorded, vm, hvm, hname⟩ := h
    obtain ⟨vm', hvm', hname'⟩ := hc.vms hvm
    exact ⟨hrecorded, vm', hvm', hname'.trans hname⟩
  | recorded j =>
    obtain ⟨hrecorded, row, hrow, hof⟩ := h
    exact ⟨hrecorded, row, ht row hrow, hof⟩

theorem Recording.Kept.carries (h : f.Kept db trail) (hc : db.Carries db')
    (ht : ∀ row ∈ trail, row ∈ trail') : f.Kept db' trail' := by
  obtain ⟨φ, hfollows, hholds⟩ := h
  exact ⟨φ, hfollows, hholds.carries hc ht⟩

end Carries

/-- What every run keeps. -/
structure AuditedSys.Accounted (s : AuditedSys) : Prop where
  alone : s.panel.requests = []
  boot : ∃ φ, s.panel.boot.Follows BootT φ fun _ _ => True
  worker : ∃ φ, s.panel.worker.Follows WorkerT φ fun _ _ => True
  jobs : s.trail.map AuditRow.job = (s.panel.shared.db.jobs.select Job.asked).map some
  rows : ∀ row ∈ s.trail, row.Tells s.panel.shared.db
  requests : ∀ f ∈ s.requests, f.Kept s.panel.shared.db s.trail

namespace AuditedSys.Accounted
variable {s s' : AuditedSys}

theorem init (h : AuditedInitial s) : s.Accounted where
  alone := h.panel.requests
  boot := ⟨.over, by rw [h.panel.boot]; trivial⟩
  worker := ⟨.over, by rw [h.panel.worker]; trivial⟩
  jobs := by
    rw [h.trail, h.panel.jobs]
    rfl
  rows := by
    intro row hrow
    rw [h.trail] at hrow
    cases hrow
  requests := by
    intro f hf
    rw [h.requests] at hf
    cases hf

/-- A step of the process that leaves the rows as they are. -/
theorem process {l : Label} {panel : Sys} (h : s.Accounted) (hl : l.ofProcess = true)
    (hs : Step s.panel l panel) : ({ s with panel } : AuditedSys).Accounted := by
  have hkeep : ∀ {sh : Shared} {e : Eff} {a : Ans e}, Act s.panel.shared e a sh →
      e.unrecorded = true →
      s.trail.map AuditRow.job = (sh.db.jobs.select Job.asked).map some ∧
      (∀ row ∈ s.trail, row.Tells sh.db) ∧ ∀ f ∈ s.requests, f.Kept sh.db s.trail := by
    intro sh e a hact he
    obtain ⟨hc, hasked⟩ := hact.unrecorded he
    refine ⟨?_, ?_, ?_⟩
    · rw [hasked]
      exact h.jobs
    · intro row hrow
      exact (h.rows row hrow).carries hc
    · intro f hf
      exact (h.requests f hf).carries hc fun _ hrow => hrow
  cases hs with
  | crash _ => cases hl
  | receive r _ _ => cases hl
  | request _ _ _ => cases hl
  | restart settings _ =>
    exact ⟨rfl, ⟨.init, Prog.follows_mono (lifespan_follows settings) fun _ _ _ => trivial⟩,
      ⟨.over, trivial⟩, h.jobs, h.rows, h.requests⟩
  | get _ _ _ _ =>
    exact ⟨h.alone, h.boot,
      ⟨_, Prog.follows_mono (dispatch_follows _ _) fun _ _ _ => trivial⟩, h.jobs, h.rows, h.requests⟩
  | boot _ hk hact =>
    obtain ⟨φ, hfollows⟩ := h.boot
    rw [hk] at hfollows
    obtain ⟨φ', ht, hrest⟩ := hfollows _
    obtain ⟨hjobs, hrows, hrequests⟩ := hkeep hact ht.unrecorded
    exact ⟨h.alone, ⟨φ', hrest⟩, h.worker, hjobs, hrows, hrequests⟩
  | worker _ hk hact =>
    obtain ⟨φ, hfollows⟩ := h.worker
    rw [hk] at hfollows
    obtain ⟨φ', ht, hrest⟩ := hfollows _
    obtain ⟨hjobs, hrows, hrequests⟩ := hkeep hact ht.unrecorded
    exact ⟨h.alone, h.boot, ⟨φ', hrest⟩, hjobs, hrows, hrequests⟩

/-- One request goes on over new rows. -/
theorem goesOn {db' : Db} {trail' : List AuditRow} (h : s.Accounted)
    (hc : s.panel.shared.db.Carries db') (ht : ∀ row ∈ s.trail, row ∈ trail') {i : Nat}
    {f' : Recording} (hf' : f'.Kept db' trail') : ∀ f ∈ s.requests.set i f', f.Kept db' trail' := by
  intro f hf
  rcases List.mem_or_eq_of_mem_set hf with hf | rfl
  · exact (h.requests f hf).carries hc ht
  · exact hf'

theorem plain (h : s.Accounted) {i : Nat} {f : Recording} {e : Eff}
    {k : Ans e → Prog AuditedEff AuditedAns (Except Raised Response)} {a : Ans e} {sh : Shared}
    (hf : s.requests[i]? = some f) (hk : f.program = .await (.plain e) k)
    (hact : Act s.panel.shared e a sh) :
    ({ s with
        panel := { s.panel with shared := sh }
        requests := s.requests.set i { f with program := k a } } : AuditedSys).Accounted := by
  obtain ⟨φ, hfollows, hholds⟩ := h.requests f (List.mem_of_getElem? hf)
  rw [hk] at hfollows
  obtain ⟨φ', ht, hrest⟩ := hfollows a
  have he : e.unrecorded = true := by
    cases ht with
    | quiet he => exact he
    | read vm => rfl
  obtain ⟨hc, hasked⟩ := hact.unrecorded he
  have hholds' : φ'.Holds sh.db s.trail { f with program := k a } := by
    cases ht with
    | quiet _ => exact hholds.carries hc fun _ hrow => hrow
    | read vm =>
      obtain ⟨hvm, rfl⟩ := act_getVM.mp hact
      exact ⟨hholds, vm, hvm.symm, rfl⟩
  refine ⟨h.alone, h.boot, h.worker, ?_, ?_, ?_⟩
  · rw [hasked]
    exact h.jobs
  · intro row hrow
    exact (h.rows row hrow).carries hc
  · exact h.goesOn hc (fun _ hrow => hrow) ⟨φ', hrest, hholds'⟩

end AuditedSys.Accounted

/-- A commit that adds one job that was asked for, with the row that tells of it. -/
structure Entered (db db' : Db) (row : AuditRow) (j : JobId) : Prop where
  job : row.job = some j
  carries : db.Carries db'
  asked : db'.jobs.select Job.asked = db.jobs.select Job.asked ++ [j]
  tells : row.Tells db'

theorem RecordT.entered {c : Audited.Context} {r : Request} {φ φ' : RecordPhase} {e : Eff}
    {event : AuditEvent} {a : Ans e} {sh sh' : Shared} {trail : List AuditRow} {f : Recording}
    (ht : RecordT c r φ (.commit e event) (some a) φ') (hholds : φ.Holds sh.db trail f)
    (hact : Act sh e a sh') :
    ∃ j, Entered sh.db sh'.db (event.row e a) j ∧ φ' = .recorded j ∧ f.recorded = [] ∧
      (event.row e a).Of c r := by
  cases ht with
  | @insert v hostname job detail j hasked htype hv =>
    obtain ⟨rfl, rfl⟩ := act_insertJob.mp hact
    obtain ⟨hrecorded, vm, hvm, hname⟩ := hholds
    refine ⟨_, ⟨rfl, insertJob_carries _ _, ?_, ?_⟩, rfl, hrecorded, ⟨rfl, rfl, rfl, rfl⟩⟩
    · rw [Table.select_insert, if_pos hasked]
    · exact ⟨_, job, v, vm, rfl, Table.get_insert_self _ _, hv, hvm, by rw [htype]; rfl, rfl, rfl,
        by rw [hname]; rfl⟩
  | @create vm job detail v j hasked htype =>
    obtain ⟨heq, rfl⟩ := act_insertVM.mp hact
    obtain ⟨rfl, rfl⟩ := Prod.mk.inj heq
    have hasked' : ({ job with vmId := some sh.db.vms.next } : Job).asked = true := hasked
    refine ⟨_, ⟨rfl, insertVm_carries _ _ _, ?_, ?_⟩, rfl, hholds, ⟨rfl, rfl, rfl, rfl⟩⟩
    · rw [Table.select_insert, if_pos hasked']
    · exact ⟨_, _, _, vm, rfl, Table.get_insert_self _ _, rfl, Table.get_insert_self _ _,
        by rw [← htype]; rfl, rfl, rfl, rfl⟩

namespace AuditedSys.Accounted
variable {s s' : AuditedSys}

theorem commit (h : s.Accounted) {i : Nat} {f : Recording} {e : Eff} {event : AuditEvent}
    {k : Option (Ans e) → Prog AuditedEff AuditedAns (Except Raised Response)} {a : Ans e}
    {sh : Shared} (hf : s.requests[i]? = some f) (hk : f.program = .await (.commit e event) k)
    (hact : Act s.panel.shared e a sh) :
    ({ panel := { s.panel with shared := sh }
       requests := s.requests.set i
         { f with
           program := k (some a)
           recorded := f.recorded ++ (insertedJob e a).toList }
       trail := s.trail ++ [event.row e a] } : AuditedSys).Accounted := by
  obtain ⟨φ, hfollows, hholds⟩ := h.requests f (List.mem_of_getElem? hf)
  rw [hk] at hfollows
  obtain ⟨φ', ht, hrest⟩ := hfollows (some a)
  obtain ⟨j, hentered, rfl, hnone, hof⟩ := ht.entered hholds hact
  have hlast : event.row e a ∈ s.trail ++ [event.row e a] :=
    List.mem_append_right _ (List.mem_singleton_self _)
  refine ⟨h.alone, h.boot, h.worker, ?_, ?_, ?_⟩
  · rw [List.map_append, h.jobs, hentered.asked, List.map_append, List.map_singleton,
      List.map_singleton, hentered.job]
  · intro row hrow
    rcases List.mem_append.mp hrow with hrow | hrow
    · exact (h.rows row hrow).carries hentered.carries
    · rw [List.mem_singleton.mp hrow]
      exact hentered.tells
  · apply h.goesOn hentered.carries fun _ hrow => List.mem_append_left _ hrow
    have hjob : insertedJob e a = some j := hentered.job
    refine ⟨.recorded j, hrest, ?_, event.row e a, hlast, hentered.job, hof⟩
    rw [hnone, hjob]
    rfl

theorem refuse (h : s.Accounted) {i : Nat} {f : Recording} {e : Eff} {event : AuditEvent}
    {k : Option (Ans e) → Prog AuditedEff AuditedAns (Except Raised Response)}
    (hf : s.requests[i]? = some f) (hk : f.program = .await (.commit e event) k) :
    ({ s with requests := s.requests.set i { f with program := k none } } :
      AuditedSys).Accounted := by
  obtain ⟨φ, hfollows, hholds⟩ := h.requests f (List.mem_of_getElem? hf)
  rw [hk] at hfollows
  obtain ⟨φ', ht, hrest⟩ := hfollows none
  cases ht with
  | refused =>
    refine ⟨h.alone, h.boot, h.worker, h.jobs, h.rows, ?_⟩
    apply h.goesOn (Db.Carries.refl _) fun _ hrow => hrow
    exact ⟨φ, hrest, hholds.carries (Db.Carries.refl _) fun _ hrow => hrow⟩

theorem step {l : AuditedLabel} (h : s.Accounted) (hs : AuditedStep s l s') : s'.Accounted := by
  cases hs with
  | crash _ =>
    exact ⟨rfl, ⟨.over, trivial⟩, ⟨.over, trivial⟩, h.jobs, h.rows, fun f hf => (by cases hf)⟩
  | process hl hs => exact h.process hl hs
  | @receive c r _ _ _ =>
    refine ⟨h.alone, h.boot, h.worker, h.jobs, h.rows, ?_⟩
    intro f hf
    rcases List.mem_append.mp hf with hf | hf
    · exact h.requests f hf
    · rw [List.mem_singleton.mp hf]
      exact ⟨.init, Audited.serve_follows c r, rfl⟩
  | plain _ hf hk hact => exact h.plain hf hk hact
  | commit _ hf hk hact => exact h.commit hf hk hact
  | refuse _ hf hk => exact h.refuse hf hk

end AuditedSys.Accounted

theorem AuditedReachable.accounted {s : AuditedSys} (h : AuditedReachable s) : s.Accounted :=
  Reach.invariant (P := AuditedSys.Accounted) (fun _ => .init) (fun _ _ _ hp hs _ => hp.step hs) h

/-- The same panel, without the rows. -/
structure AuditedSys.Erases (s : AuditedSys) (t : Sys) : Prop where
  panel : s.panel = { t with requests := [] }
  requests : (s.requests.map fun f => f.program.translate AuditedEff.erased answered) =
    t.requests.map fun p => p.bind fun out => .ret (out.mapError Raised.exc)
  dead : t.alive = false → t.requests = []

theorem serve_erased (c : Audited.Context) (r : Request) :
    (Audited.serve c r).translate AuditedEff.erased answered =
      (serve c.settings r).bind fun out => .ret (out.mapError Raised.exc) := by
  have hid : ∀ out : Except Raised Response, out.mapError id = out := by
    intro out
    cases out <;> rfl
  have hhandle := congrFun (Audited.handle_erased c r) ()
  have hfirst := congrArg (fun p => p.bind fun out => Prog.ret out.1) hhandle
  simp only [eraseRows, reraise, Task.translate, Prog.bind_assoc, Prog.translate_id, Prog.bind,
    hid] at hfirst
  simp only [Audited.serve, serve, Prog.translate_bind, Prog.bind_assoc, Prog.bind, Prog.translate]
  exact hfirst

/-- An await of a request is that of the request with its row. -/
theorem erased_await {p : Prog AuditedEff AuditedAns (Except Raised Response)} {e : Eff}
    {k : Ans e → Handler}
    (h : p.translate AuditedEff.erased answered =
      (Prog.await e k).bind fun out => .ret (out.mapError Raised.exc)) :
    (∃ k', p = .await (.plain e) k' ∧ ∀ a, (k' a).translate AuditedEff.erased answered =
      (k a).bind fun out => .ret (out.mapError Raised.exc)) ∨
    ∃ event k', p = .await (.commit e event) k' ∧ ∀ a,
      (k' (some a)).translate AuditedEff.erased answered =
        (k a).bind fun out => .ret (out.mapError Raised.exc) := by
  cases p with
  | ret out => cases h
  | await ae k' =>
    cases ae with
    | plain e' =>
      simp only [Prog.translate, Prog.bind, Prog.await.injEq, AuditedEff.erased] at h
      obtain ⟨rfl, h⟩ := h
      exact .inl ⟨k', rfl, congrFun (eq_of_heq h)⟩
    | commit e' event =>
      simp only [Prog.translate, Prog.bind, Prog.await.injEq, AuditedEff.erased] at h
      obtain ⟨rfl, h⟩ := h
      exact .inr ⟨event, k', rfl, congrFun (eq_of_heq h)⟩

theorem AuditedSys.Erases.step {s : AuditedSys} {t t' : Sys} {l : Label} (h : s.Erases t)
    (hs : Step t l t') : ∃ l' s', AuditedStep s l' s' ∧ s'.Erases t' := by
  obtain ⟨panel, requests, trail⟩ := s
  obtain ⟨hpanel, hrequests, hdead⟩ := h
  dsimp only at hpanel hrequests
  subst hpanel
  have halive : ∀ {ts : List Handler}, t.alive = true → t.alive = false → ts = [] := by
    intro ts ha hd
    rw [ha] at hd
    cases hd
  cases hs with
  | crash ha => exact ⟨_, _, .crash ha, rfl, rfl, fun _ => rfl⟩
  | restart settings ha =>
    rw [hdead ha] at hrequests
    exact ⟨_, _, .process rfl (.restart settings ha), rfl, hrequests, fun _ => rfl⟩
  | get ha hw hr hq =>
    exact ⟨_, _, .process rfl (.get ha hw hr hq), rfl, hrequests, hdead⟩
  | boot ha hk hact =>
    exact ⟨_, _, .process rfl (.boot ha hk hact), rfl, hrequests, hdead⟩
  | worker ha hk hact =>
    exact ⟨_, _, .process rfl (.worker ha hk hact), rfl, hrequests, hdead⟩
  | receive r ha hb =>
    let c : Audited.Context :=
      { settings := t.settings, adminUsername := "admin"
        request := { uuid := "00000000-0000-4000-8000-000000000000", uuid_length := rfl } }
    refine ⟨_, _, .receive (c := c) r ha hb rfl, rfl, ?_, halive ha⟩
    rw [List.map_append, hrequests, List.map_append, List.map_singleton, List.map_singleton,
      serve_erased]
  | @request i e k a sh ha hk hact =>
    have hget := congrArg (fun l => l[i]?) hrequests
    simp only [List.getElem?_map, hk, Option.map_some, Option.map_eq_some_iff] at hget
    obtain ⟨f, hf, hprogram⟩ := hget
    rcases erased_await hprogram with ⟨k', hp, hk'⟩ | ⟨event, k', hp, hk'⟩
    · refine ⟨_, _, .plain ha hf hp hact, rfl, ?_, halive ha⟩
      rw [List.map_set, List.map_set, hrequests, hk']
    · refine ⟨_, _, .commit ha hf hp hact, rfl, ?_, halive ha⟩
      rw [List.map_set, List.map_set, hrequests, hk']

theorem audited_of_reachable {t : Sys} (h : Reachable .any t) :
    ∃ s, AuditedReachable s ∧ s.Erases t := by
  induction h with
  | @start t h =>
    refine ⟨{ panel := t }, .start ⟨h, rfl, rfl⟩, ?_, ?_, fun _ => h.requests⟩
    · rw [← h.requests]
    · rw [h.requests]
      rfl
  | next _ hs _ ih =>
    obtain ⟨s, hreach, herases⟩ := ih
    obtain ⟨l', s', hs', herases'⟩ := herases.step hs
    exact ⟨s', .next hreach hs' trivial, herases'⟩

/-- The trail has one row for each job that a request has asked for, in the order of the jobs, and no
other. Each tells its job's action and VM. A request that has been answered has recorded nothing if it was
refused, and otherwise its job, under its own name, address and id. -/
theorem trail_accounts {s : AuditedSys} (h : AuditedReachable s) :
    s.trail.map AuditRow.job = (s.panel.shared.db.jobs.select Job.asked).map some ∧
    (∀ row ∈ s.trail, row.Tells s.panel.shared.db) ∧
    ∀ f ∈ s.requests, (∀ j ∈ f.recorded, ∃ row ∈ s.trail, row.job = some j ∧
        row.Of f.context f.request) ∧
      ∀ out, f.program = .ret out → f.recorded = f.request.owed out := by
  have hinv := h.accounted
  refine ⟨hinv.jobs, hinv.rows, ?_⟩
  intro f hf
  obtain ⟨φ, hfollows, hholds⟩ := hinv.requests f hf
  constructor
  · intro j hj
    rw [hholds.jobs] at hj
    cases φ with
    | init => cases hj
    | read v hostname => cases hj
    | recorded j' =>
      rw [List.mem_singleton.mp hj]
      exact hholds.2
  · intro out hout
    rw [hout] at hfollows
    rw [hholds.jobs]
    exact hfollows

open Scenario in
/-- The request of a creation, in the trail. -/
theorem trail_accounts_creation :
    ∃ s, AuditedReachable s ∧ s.trail.map (fun row => row.event.action) = ["vm.create"] ∧
      (s.trail.map AuditRow.job = (s.panel.shared.db.jobs.select Job.asked).map some ∧
      (∀ row ∈ s.trail, row.Tells s.panel.shared.db) ∧
      ∀ f ∈ s.requests, (∀ j ∈ f.recorded, ∃ row ∈ s.trail, row.job = some j ∧
          row.Of f.context f.request) ∧
        ∀ out, f.program = .ret out → f.recorded = f.request.owed out) := by
  have hrun : (panel.run (fun _ _ _ => true) (startup [] 0 ++ create 0 (body "a" named_a) 100)).any
      (fun s => s.shared.db.jobs.select Job.asked = [0] &&
        (s.shared.db.jobs.get 0).any fun job => job.type = .createVm) = true := by
    decide +kernel
  obtain ⟨t, ht, hchecks⟩ := evaluated_any hrun
  rw [Bool.and_eq_true, decide_eq_true_eq, Option.any_eq_true] at hchecks
  obtain ⟨hasked, job, hjob, htype⟩ := hchecks
  obtain ⟨s, hs, herases⟩ := audited_of_reachable ht
  have haccounts := trail_accounts hs
  have hdb : s.panel.shared.db = t.shared.db := by rw [herases.panel]
  have hkeys : s.trail.map AuditRow.job = [some 0] := by
    rw [haccounts.1, hdb, hasked]
    rfl
  refine ⟨s, hs, ?_, haccounts⟩
  obtain ⟨row, hrow, hkey⟩ := List.map_eq_singleton_iff.mp hkeys
  rw [hrow, List.map_singleton, List.singleton_inj]
  obtain ⟨j, job', v, vm, hj, hjob', -, -, haction, -⟩ :=
    haccounts.2.1 row (by rw [hrow]; exact List.mem_singleton_self row)
  rw [hkey] at hj
  cases hj
  rw [hdb, hjob] at hjob'
  cases hjob'
  rw [haction, of_decide_eq_true htype]
  rfl

end Clusteration
