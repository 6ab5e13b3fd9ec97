import Clusteration.Panel.Lifecycle
import Clusteration.Panel.Schemas

open Async

namespace Clusteration

/-- A handler of the API. -/
abbrev Route (α : Type) := Task Eff Ans Unit Exc α

inductive Response where
  | creating (vm : VmId) (job : JobId)
  | queued (job : JobId)
  deriving DecidableEq, Repr

/-- `if condition: raise exc`. -/
def refuseIf (condition : Bool) (exc : Exc) : Route Unit :=
  if condition then throw exc else pure ()

def validateCreatePreflight (settings : Settings) (template : Template) :
    Route (String × Option Int) :=
  tryCatch
    (do
      let _ ← ProxmoxClient.nextId none
      let node ← ProxmoxClient.resolveTemplateNode none (template.node settings)
        template.proxmoxTemplateVmid
      let diskGb ← ProxmoxClient.vmDiskSizeGb none node template.proxmoxTemplateVmid
      let _ ← ProxmoxClient.request none (.storageStatus node settings.proxmoxDefaultStorage)
      pure (node, diskGb))
    fun exc => match exc with
      | .proxmoxAuthError m => throw (.appHTTPException "PROXMOX_AUTH_FAILED" m 403)
      | .proxmoxError m | .proxmoxTaskError m | .proxmoxTimeoutError m =>
        throw (.appHTTPException "PROXMOX_UNAVAILABLE" m 502)
      | exc => throw exc

def getLiveVm (v : VmId) : Route VM := do
  let vm ← Task.await (Eff.getVM v)
  match vm with
  | some vm =>
    if vm.deletedAt = none then pure vm
    else throw (.appHTTPException "VM_NOT_FOUND" "VM não encontrada" 404)
  | none => throw (.appHTTPException "VM_NOT_FOUND" "VM não encontrada" 404)

/-- A template that may be used, as `create_vm` and `reinstall_vm` look it up. -/
def enabledTemplate (os : String) : Route Template := do
  let template ← Task.await (Eff.selectTemplate os)
  match template with
  | none => throw (.appHTTPException "TEMPLATE_NOT_FOUND" "template não encontrado" 404)
  | some template => do
    refuseIf template.disabled (.appHTTPException "TEMPLATE_DISABLED" "template desabilitado" 400)
    pure template

def notConfigured (settings : Settings) (purpose : String) : Route Unit :=
  let missing := missingRuntimeSettings settings
  refuseIf (!missing.isEmpty) (.appHTTPException "PROXMOX_NOT_CONFIGURED"
    (s!"configure o .env antes de {purpose} VMs: " ++ ", ".intercalate missing) 400)

def hostnameFree (hostname : String) : Route Unit := do
  let existing ← Task.await (Eff.selectLiveHostname hostname)
  refuseIf existing.isSome
    (.appHTTPException "HOSTNAME_TAKEN" "já existe uma VM ativa com esse hostname" 409)

/-- `async with _CREATE_VM_LOCK`. -/
def withCreateVmLock {α : Type} (body : Route α) : Route α := do
  Task.await Eff.lock
  let a ← tryCatch body fun exc => do
    Task.await Eff.unlock
    throw exc
  Task.await Eff.unlock
  pure a

/-- The rows `create_vm` adds. -/
def insertVm (payload : VMCreate) (template : Template) (size : Int × Int) (node : String) :
    Route (VmId × JobId) := do
  hostnameFree payload.hostname
  let minDiskGb := Dict.get template.defaults "min_disk_gb"
  let minDiskGb ← ofExcept (if minDiskGb.truthy then minDiskGb.toInt else .ok 0)
  Task.await (Eff.insertVM
    { hostname := payload.hostname, template := payload.template, cpu := size.1
      memoryMb := size.2, diskGb := max payload.diskGb minDiskGb, node }
    { type := .createVm
      metadata := { operation := some "queued", node := some node
                    template := some payload.template } })

def createVm (settings : Settings) (payload : VMCreate) : Route Response := do
  notConfigured settings "criar"
  match vmSizes payload.size with
  | none => throw (.appHTTPException "VALIDATION_ERROR" "tamanho inválido" 400)
  | some size =>
    refuseIf (!settings.vmDiskChoices.contains payload.diskGb)
      (.appHTTPException "VALIDATION_ERROR" "disco inválido" 400)
    let template ← enabledTemplate payload.template
    hostnameFree payload.hostname
    let preflight ← validateCreatePreflight settings template
    let (v, j) ← withCreateVmLock (insertVm payload template size preflight.1)
    Task.await (Eff.put
      { type := .createVm, jobId := j, vmId := some v, rootPassword := some payload.rootPassword })
    pure (.creating v j)

/-- `enqueue_power_job`, and the same last steps of `delete_vm` and `reinstall_vm`. -/
def enqueueJob (v : VmId) (type : JobType) (metadata : JobMeta) (rootPassword template : Option String) :
    Route Response := do
  let j ← Task.await (Eff.insertJob { type, vmId := some v, metadata })
  Task.await (Eff.put { type, jobId := j, vmId := some v, rootPassword, template })
  pure (.queued j)

def enqueuePowerJob (v : VmId) (type : JobType) : Route Response := enqueueJob v type {} none none

def startVm (v : VmId) : Route Response := do
  let vm ← getLiveVm v
  refuseIf (!(vm.status = .stopped || vm.status = .error))
    (.appHTTPException "INVALID_STATE" "VM não pode ser iniciada neste estado" 409)
  refuseIf vm.proxmoxVmid.isNone (.appHTTPException "INVALID_STATE"
    "VM ainda não existe no Proxmox; tente criar novamente ou remova o registro" 409)
  enqueuePowerJob v .startVm

def stopVm (v : VmId) : Route Response := do
  let vm ← getLiveVm v
  refuseIf (vm.status ≠ .running) (.appHTTPException "INVALID_STATE" "VM não está running" 409)
  enqueuePowerJob v .stopVm

def rebootVm (v : VmId) : Route Response := do
  let vm ← getLiveVm v
  refuseIf (vm.status ≠ .running) (.appHTTPException "INVALID_STATE" "VM não está running" 409)
  enqueuePowerJob v .rebootVm

/-- The statuses `reinstall_vm` and `delete_vm` accept. -/
def VMStatus.settled : VMStatus → Bool
  | running | stopped | error => true
  | _ => false

def reinstallVm (settings : Settings) (v : VmId) (payload : ReinstallVM) : Route Response := do
  notConfigured settings "reinstalar"
  let vm ← getLiveVm v
  refuseIf (payload.confirmHostname ≠ vm.hostname)
    (.appHTTPException "HOSTNAME_MISMATCH" "hostname de confirmação não confere" 400)
  refuseIf (!vm.status.settled)
    (.appHTTPException "INVALID_STATE" "VM não pode ser reinstalada neste estado" 409)
  let templateOs := match payload.template with
    | some os => if os = "" then vm.template else os
    | none => vm.template
  let template ← enabledTemplate templateOs
  let preflight ← validateCreatePreflight settings template
  enqueueJob v .reinstallVm
    { operation := some "queued", template := some templateOs, node := some preflight.1 }
    (some payload.rootPassword) (some templateOs)

def deleteVm (v : VmId) (confirmHostname : String) : Route Response := do
  let vm ← getLiveVm v
  refuseIf (confirmHostname ≠ vm.hostname)
    (.appHTTPException "HOSTNAME_MISMATCH" "hostname de confirmação não confere" 400)
  refuseIf (!vm.status.settled)
    (.appHTTPException "INVALID_STATE" "VM não pode ser deletada neste estado" 409)
  enqueueJob v .deleteVm {} none none

def recheckSsh (v : VmId) : Route Response := do
  let vm ← getLiveVm v
  refuseIf (vm.status ≠ .running) (.appHTTPException "INVALID_STATE"
    "a VM precisa estar running para checar o SSH" 409)
  Task.await (Eff.commit ⟨[], [⟨v, vm, { vm with sshStatus := .pending }⟩]⟩)
  let j ← Task.await (Eff.insertJob { type := .sshReadinessCheck, vmId := some v })
  Task.await (Eff.put { type := .sshReadinessCheck, jobId := j, vmId := some v })
  pure (.queued j)

/-- The requests that act on VMs and jobs, with their validated bodies. -/
inductive Request where
  | createVm (payload : VMCreate)
  | startVm (v : VmId)
  | stopVm (v : VmId)
  | rebootVm (v : VmId)
  | reinstallVm (v : VmId) (payload : ReinstallVM)
  | deleteVm (v : VmId) (confirmHostname : String)
  | recheckSsh (v : VmId)

def handle (settings : Settings) : Request → Route Response
  | .createVm payload => createVm settings payload
  | .startVm v => startVm v
  | .stopVm v => stopVm v
  | .rebootVm v => rebootVm v
  | .reinstallVm v payload => reinstallVm settings v payload
  | .deleteVm v confirmHostname => deleteVm v confirmHostname
  | .recheckSsh v => recheckSsh v

/-- The coroutine of one request. -/
def serve (settings : Settings) (r : Request) : Prog Eff Ans (Except Exc Response) :=
  (handle settings r ()).bind fun out => .ret out.1

end Clusteration
