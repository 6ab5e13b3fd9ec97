import Clusteration.Panel.Lifecycle

namespace Clusteration

/-- The columns of a VM row that decisions rest on. -/
structure Core where
  status : VMStatus
  ssh : SSHStatus
  vmid : Option Int
  ip : Option String
  deletedAt : Option Nat
  hostname : String
  deriving DecidableEq

def VM.core (vm : VM) : Core where
  status := vm.status
  ssh := vm.sshStatus
  vmid := vm.proxmoxVmid
  ip := vm.ipAddress
  deletedAt := vm.deletedAt
  hostname := vm.hostname

@[simp] theorem VM.core_status (vm : VM) : vm.core.status = vm.status := rfl
@[simp] theorem VM.core_ssh (vm : VM) : vm.core.ssh = vm.sshStatus := rfl
@[simp] theorem VM.core_vmid (vm : VM) : vm.core.vmid = vm.proxmoxVmid := rfl
@[simp] theorem VM.core_ip (vm : VM) : vm.core.ip = vm.ipAddress := rfl
@[simp] theorem VM.core_deletedAt (vm : VM) : vm.core.deletedAt = vm.deletedAt := rfl
@[simp] theorem VM.core_hostname (vm : VM) : vm.core.hostname = vm.hostname := rfl

def Core.merge (base cur row : Core) : Core where
  status := column base.status cur.status row.status
  ssh := column base.ssh cur.ssh row.ssh
  vmid := column base.vmid cur.vmid row.vmid
  ip := column base.ip cur.ip row.ip
  deletedAt := column base.deletedAt cur.deletedAt row.deletedAt
  hostname := column base.hostname cur.hostname row.hostname

theorem VM.core_merge (base cur row : VM) :
    (VM.merge base cur row).core = Core.merge base.core cur.core row.core := rfl

/-- The row is what the session last wrote, but for a re-check that asked for a new SSH test. -/
def Core.Agrees (x row : Core) : Prop := row = x ∨ row = { x with ssh := .pending }

theorem Core.Agrees.refl (x : Core) : x.Agrees x := Or.inl rfl

section Agrees
variable {x row : Core} (h : x.Agrees row)
include h

theorem Core.Agrees.status : row.status = x.status := by rcases h with rfl | rfl <;> rfl
theorem Core.Agrees.vmid : row.vmid = x.vmid := by rcases h with rfl | rfl <;> rfl
theorem Core.Agrees.ip : row.ip = x.ip := by rcases h with rfl | rfl <;> rfl
theorem Core.Agrees.deletedAt : row.deletedAt = x.deletedAt := by rcases h with rfl | rfl <;> rfl
theorem Core.Agrees.hostname : row.hostname = x.hostname := by rcases h with rfl | rfl <;> rfl

theorem Core.Agrees.ssh : row.ssh = x.ssh ∨ row.ssh = .pending := by
  rcases h with rfl | rfl
  · exact Or.inl rfl
  · exact Or.inr rfl

/-- A commit of the session brings the row to the session's values. A re-check in between only
survives in a column the session did not change. -/
theorem Core.Agrees.merge (x' : Core) :
    Core.merge x x' row = { x' with ssh := if x'.ssh = x.ssh then row.ssh else x'.ssh } := by
  obtain ⟨s', ssh', n', ip', d', h'⟩ := x'
  rcases h with rfl | rfl <;> simp only [Core.merge, column] <;> congr 1 <;> split <;> simp_all

theorem Core.Agrees.merge_agrees (x' : Core) : x'.Agrees (Core.merge x x' row) := by
  rw [h.merge]
  by_cases hs : x'.ssh = x.ssh
  · rw [if_pos hs]
    rcases h.ssh with hr | hr
    · left
      rw [hr, ← hs]
    · right
      rw [hr]
  · left
    rw [if_neg hs]

end Agrees

/-- A re-check's own commit: the SSH column asks for a test again, or is left alone. -/
theorem Core.merge_pending (y row : Core) :
    Core.merge y { y with ssh := .pending } row =
      { row with ssh := if y.ssh = .pending then row.ssh else .pending } := by
  obtain ⟨s, ssh, n, ip, d, hostname⟩ := row
  simp only [Core.merge, column, if_true]
  congr 1
  by_cases h : SSHStatus.pending = y.ssh
  · rw [if_pos h, if_pos h.symm]
  · rw [if_neg h, if_neg fun h' => h h'.symm]

/-- The columns of a job row that decisions rest on. -/
structure JobCore where
  type : JobType
  status : JobStatus
  vmId : Option VmId
  target : Option Int
  deriving DecidableEq

def Job.core (job : Job) : JobCore where
  type := job.type
  status := job.status
  vmId := job.vmId
  target := job.metadata.targetVmid

@[simp] theorem Job.core_type (job : Job) : job.core.type = job.type := rfl
@[simp] theorem Job.core_status (job : Job) : job.core.status = job.status := rfl
@[simp] theorem Job.core_vmId (job : Job) : job.core.vmId = job.vmId := rfl
@[simp] theorem Job.core_target (job : Job) : job.core.target = job.metadata.targetVmid := rfl

theorem column_of_row {α : Type} [DecidableEq α] {base cur row : α} (h : row = base) :
    column base cur row = cur := by
  unfold column
  split
  · next hc => rw [h, hc]
  · rfl

/-- The row's columns after a commit whose base is the row. -/
theorem Job.core_merge {base cur row : Job} (hs : base.status = row.status)
    (ht : base.metadata.targetVmid = row.metadata.targetVmid) :
    (Job.merge base cur row).core =
      { row.core with status := cur.status, target := cur.metadata.targetVmid } := by
  have hm : (column base.metadata cur.metadata row.metadata).targetVmid = cur.metadata.targetVmid := by
    unfold column
    split
    · next hc => rw [hc, ht]
    · rfl
  simp only [Job.core, Job.merge, column_of_row hs.symm, hm]

@[simp] theorem JobMeta.merge_targetVmid (m patch : JobMeta) :
    (m.merge patch).targetVmid = (patch.targetVmid <|> m.targetVmid) := rfl

def JobStatus.finished : JobStatus → Bool
  | success | failed => true
  | queued | running => false

/-- The jobs whose end starts a readiness check. -/
def JobType.followedUp : JobType → Bool
  | createVm | reinstallVm | startVm | rebootVm => true
  | _ => false

/-- The jobs that clone a template. -/
def JobType.provisions : JobType → Bool
  | createVm | reinstallVm => true
  | _ => false

theorem JobType.followedUp_of_provisions {type : JobType} (h : type.provisions = true) :
    type.followedUp = true := by
  cases type <;> first | rfl | cases h

theorem flush_vms_one (db : Db) (jobs : List (Dirty Job)) (d : Dirty VM) :
    (db.flush ⟨jobs, [d]⟩).vms = db.vms.update d.key (VM.merge d.base d.cur) := rfl

theorem flush_jobs_one (db : Db) (vms : List (Dirty VM)) (d : Dirty Job) :
    (db.flush ⟨[d], vms⟩).jobs = db.jobs.update d.key (Job.merge d.base d.cur) := rfl

end Clusteration
