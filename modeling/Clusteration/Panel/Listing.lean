import Clusteration.Web.Pages

open Clusteration.Web

namespace Clusteration

/-- What the rows of the model do not say: the text of a key, and of a job's `created_at`. -/
structure Labels where
  uuid : VmId → Uuid
  createdAt : JobId → String

/-- `serialize_vm`, with the job whose error is shown. -/
def serializeVm (labels : Labels) (v : VmId) (vm : VM) (lastError : Option (JobId × Job)) : VMOut :=
  let running : Bool := vm.status = .running
  let sshReady : Bool := vm.sshStatus = .ready
  let hasProxmoxVm := vm.proxmoxVmid.isSome
  let shown := vm.status = .error || (running && !sshReady)
  { id := labels.uuid v
    hostname := vm.hostname
    template := vm.template
    cpu := vm.cpu
    memoryMb := vm.memoryMb
    diskGb := vm.diskGb
    status := vm.status
    sshStatus := vm.sshStatus
    ipAddress := vm.ipAddress
    actions :=
      { canStart := hasProxmoxVm && (vm.status = .stopped || vm.status = .error)
        canStop := running
        canReboot := running
        canTerminal := running && sshReady
        canDelete := vm.status = .running || vm.status = .stopped || vm.status = .error
        canReinstall := vm.status = .running || vm.status = .stopped || vm.status = .error
        canRecheck := running && !sshReady }
    hasProxmoxVm
    lastError := if shown then lastError.bind fun j => j.2.error else none
    lastErrorAt := if shown then lastError.map fun j => labels.createdAt j.1 else none
    lastErrorJobType := if shown then lastError.map fun j => j.2.type.value else none }

/-- `errors.setdefault(job.vm_id, job)` -/
def setdefault (errors : List (VmId × JobId × Job)) (j : JobId) (job : Job) :
    List (VmId × JobId × Job) :=
  match job.vmId with
  | none => errors
  | some v => if errors.any fun e => e.1 = v then errors else errors ++ [(v, j, job)]

/-- The live VMs. -/
def Db.listed (db : Db) : List VmId := db.vms.select fun vm => vm.deletedAt.isNone

/-- The jobs of these VMs that have an error. -/
def Db.errored (db : Db) (vms : List VmId) : List JobId :=
  db.jobs.select fun job => job.error.isSome && job.vmId.any vms.contains

/-- One round of the loop over these jobs. -/
def Db.noteError (db : Db) (errors : List (VmId × JobId × Job)) (j : JobId) :
    List (VmId × JobId × Job) :=
  match db.jobs.get j with
  | some job => setdefault errors j job
  | none => errors

/-- `list_vms`, whose queries name the rows in these orders; the one of the jobs reads `later`. -/
def listVms (labels : Labels) (db later : Db) (vms : List VmId) (jobs : List JobId) : List VMOut :=
  let errors := jobs.foldl later.noteError []
  vms.filterMap fun v => (db.vms.get v).map fun vm =>
    serializeVm labels v vm ((errors.find? fun e => e.1 = v).map Prod.snd)

end Clusteration
