import Clusteration.Framework.Table
import Clusteration.Panel.Json

namespace Clusteration

/-- Keys of the `vms` and `jobs` rows: `uuid4` gives each new row a key no row had before. -/
abbrev VmId := Nat
abbrev JobId := Nat

inductive VMStatus where
  | creating | provisioning | stopped | starting | running | stopping | rebooting | deleting
  | deleted | error
  deriving DecidableEq, Repr

/-- The statuses `mark_orphaned_running_as_failed` calls transient. -/
def VMStatus.transient : VMStatus → Bool
  | creating | provisioning | starting | stopping | rebooting | deleting => true
  | stopped | running | deleted | error => false

inductive SSHStatus where
  | pending | ready | failed
  deriving DecidableEq, Repr

inductive JobStatus where
  | queued | running | success | failed
  deriving DecidableEq, Repr

inductive JobType where
  | createVm | reinstallVm | startVm | stopVm | rebootVm | deleteVm | sshReadinessCheck
  deriving DecidableEq, Repr

def JobType.value : JobType → String
  | createVm => "create_vm"
  | reinstallVm => "reinstall_vm"
  | startVm => "start_vm"
  | stopVm => "stop_vm"
  | rebootVm => "reboot_vm"
  | deleteVm => "delete_vm"
  | sshReadinessCheck => "ssh_readiness_check"

/-- A row of `vms`. -/
structure VM where
  hostname : String
  template : String
  cpu : Int := 1
  memoryMb : Int := 2048
  diskGb : Int := 12
  proxmoxVmid : Option Int := none
  node : String := "pve1"
  status : VMStatus := .creating
  sshStatus : SSHStatus := .pending
  ipAddress : Option String := none
  deletedAt : Option Nat := none
  deriving DecidableEq, Repr

/-- The keys of `job.meta` (the column `metadata`) that the code reads back or that name a warning. -/
structure JobMeta where
  operation : Option String := none
  template : Option String := none
  node : Option String := none
  targetVmid : Option Int := none
  warning : Option String := none
  deriving DecidableEq, Repr

/-- `{**meta, **patch}`. -/
def JobMeta.merge (m patch : JobMeta) : JobMeta where
  operation := patch.operation <|> m.operation
  template := patch.template <|> m.template
  node := patch.node <|> m.node
  targetVmid := patch.targetVmid <|> m.targetVmid
  warning := patch.warning <|> m.warning

/-- A row of `jobs`. -/
structure Job where
  type : JobType
  status : JobStatus := .queued
  vmId : Option VmId := none
  metadata : JobMeta := {}
  error : Option String := none
  deriving DecidableEq, Repr

/-- A row of `templates`. -/
structure Template where
  os : String
  name : String
  proxmoxTemplateVmid : Int
  defaults : Dict := []

/-- What is put on `JOB_QUEUE`. -/
structure Payload where
  type : JobType
  jobId : JobId
  vmId : Option VmId
  rootPassword : Option String := none
  template : Option String := none
  deriving DecidableEq, Repr

structure Db where
  vms : Table VM := {}
  jobs : Table Job := {}
  templates : List Template := []

/-- The unit of work of the ORM: a commit writes the columns whose value in the session (`cur`)
differs from the one it loaded or last wrote (`base`), and leaves the others as they are. -/
def column {α : Type} [DecidableEq α] (base cur row : α) : α := if cur = base then row else cur

def VM.merge (base cur row : VM) : VM :=
  { row with
    hostname := column base.hostname cur.hostname row.hostname
    template := column base.template cur.template row.template
    cpu := column base.cpu cur.cpu row.cpu
    memoryMb := column base.memoryMb cur.memoryMb row.memoryMb
    diskGb := column base.diskGb cur.diskGb row.diskGb
    proxmoxVmid := column base.proxmoxVmid cur.proxmoxVmid row.proxmoxVmid
    node := column base.node cur.node row.node
    status := column base.status cur.status row.status
    sshStatus := column base.sshStatus cur.sshStatus row.sshStatus
    ipAddress := column base.ipAddress cur.ipAddress row.ipAddress
    deletedAt := column base.deletedAt cur.deletedAt row.deletedAt }

def Job.merge (base cur row : Job) : Job :=
  { row with
    status := column base.status cur.status row.status
    metadata := column base.metadata cur.metadata row.metadata
    error := column base.error cur.error row.error }

/-- One object of a session: its key, the values last loaded or written, and its values now. -/
structure Dirty (ρ : Type) where
  key : Nat
  base : ρ
  cur : ρ

/-- What a commit sends to the database. -/
structure Flush where
  jobs : List (Dirty Job) := []
  vms : List (Dirty VM) := []

def Db.flush (db : Db) (f : Flush) : Db :=
  { db with
    vms := f.vms.foldl (fun t d => t.update d.key (VM.merge d.base d.cur)) db.vms
    jobs := f.jobs.foldl (fun t d => t.update d.key (Job.merge d.base d.cur)) db.jobs }

/-- `get_settings()`: what the modelled functions read of it. -/
structure Settings where
  proxmoxHost : String := ""
  proxmoxTokenId : String := ""
  proxmoxTokenSecret : String := ""
  proxmoxDefaultNode : String := "pve1"
  proxmoxDefaultStorage : String := "local-lvm"
  templateDebianVmid : Int := 9000
  templateUbuntuVmid : Int := 9001
  templateFedoraVmid : Int := 9002
  templateHermesVmid : Int := 9010
  templateOpenclawVmid : Int := 9011
  templateClaudeVmid : Int := 9012
  cloudinitNameserver : String := "1.1.1.1"
  cloudinitIpconfig : String := "ip=dhcp"
  consoleSshPrivateKey : String := ""
  consoleSshPublicKey : String := ""
  vmDiskChoices : List Int := [12, 16, 36, 64, 100]
  deriving Repr

/-- `VM_SIZES[size]`: vCPUs and memory. -/
def vmSizes : String → Option (Int × Int)
  | "small" => some (1, 2048)
  | "medium" => some (2, 4096)
  | _ => none

/-- `missing_runtime_settings`. -/
def missingRuntimeSettings (settings : Settings) : List String :=
  let required : List (String × String) :=
    [("CONSOLE_SSH_PRIVATE_KEY", settings.consoleSshPrivateKey),
     ("CONSOLE_SSH_PUBLIC_KEY", settings.consoleSshPublicKey),
     ("PROXMOX_HOST", settings.proxmoxHost),
     ("PROXMOX_TOKEN_ID", settings.proxmoxTokenId),
     ("PROXMOX_TOKEN_SECRET", settings.proxmoxTokenSecret)]
  let placeholder := ["change-me", "secret", "placeholder"].contains
    (strip settings.proxmoxTokenSecret).toLower
  (required.filter fun kv => strip kv.2 = "" || (placeholder && kv.1 = "PROXMOX_TOKEN_SECRET")).map
    Prod.fst

end Clusteration
