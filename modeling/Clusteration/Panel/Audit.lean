import Clusteration.Framework.Translate
import Clusteration.Panel.Routes
import Clusteration.Web.Pages

open Async

namespace Clusteration

/-- What `record_audit` reads of a request, and the uuid its id is drawn from if it brings none. -/
structure HttpRequest where
  headers : List (String × String) := []
  client : Option String := none
  uuid : String
  uuid_length : uuid.length = 36

namespace HttpRequest

/-- `request.headers.get(name)`, of a name in lower case. -/
def header (request : HttpRequest) (name : String) : Option String :=
  (request.headers.find? fun h => h.1.toLower = name).map Prod.snd

/-- `RequestIdMiddleware`: the `request_id` of the state. -/
def requestId (request : HttpRequest) : String :=
  let id := (request.header "x-request-id").getD ""
  if id = "" then request.uuid else id

def clientIp (request : HttpRequest) : Option String :=
  let fwd := (request.header "x-forwarded-for").getD ""
  if fwd = "" then request.client
  else some (strip (String.ofList (fwd.toList.takeWhile (· ≠ ','))))

end HttpRequest

/-- A row of `audit_events`. -/
structure AuditEvent where
  action : String
  actor : Option String := none
  sourceIp : Option String := none
  targetType : Option String := none
  /-- `none`: the VM that the same commit inserts -/
  targetId : Option VmId := none
  targetLabel : Option String := none
  detail : Dict := []
  requestId : Option String := none

/-- No string is longer than its column; the key of a VM has 36 of the 64 characters. -/
def AuditEvent.fits (event : AuditEvent) : Bool :=
  event.action.length ≤ 64 && event.actor.all (·.length ≤ 128) &&
    event.sourceIp.all (·.length ≤ 64) && event.targetType.all (·.length ≤ 32) &&
    event.targetLabel.all (·.length ≤ 255) && event.requestId.all (·.length ≤ 64)

/-- The same of a row of `vms`. -/
def VM.fits (vm : VM) : Bool :=
  vm.hostname.length ≤ 128 && vm.template.length ≤ 64 && vm.node.length ≤ 128 &&
    vm.ipAddress.all (·.length ≤ 64)

/-- The rows a commit inserts fit. The strings of a job row are values of its enumerations, or of no
limited length. -/
def Eff.fits : Eff → Bool
  | .insertVM vm _ => vm.fits
  | _ => true

inductive AuditedEff where
  | plain (e : Eff)
  /-- the commit `e` of a session that also holds the row of `record_audit` -/
  | commit (e : Eff) (event : AuditEvent)

/-- A commit is answered `none` when the database refuses the transaction. -/
abbrev AuditedAns : AuditedEff → Type
  | .plain e => Ans e
  | .commit e _ => Option (Ans e)

inductive Raised where
  | exc (exc : Exc)
  /-- the `DBAPIError` of a commit -/
  | database
  deriving DecidableEq

abbrev AuditedRoute (α : Type) := Task AuditedEff AuditedAns Unit Raised α

/-- A part of a handler that adds no audit row. -/
def plainly {α : Type} : Route α → AuditedRoute α :=
  Task.translate .plain (fun _ r => r) .exc

/-- `record_audit`, and the commit of the session. -/
def recordAndCommit (e : Eff) (event : AuditEvent) : AuditedRoute (Ans e) := do
  let answer ← Task.await (AuditedEff.commit e event)
  match answer with
  | some r => pure r
  | none => throw .database

namespace Audited

/-- What `_audit_vm` reads: the request and the settings. -/
structure Context where
  settings : Settings
  adminUsername : String
  request : HttpRequest

def auditVm (c : Context) (action : String) (v : Option VmId) (hostname : String) (detail : Dict) :
    AuditEvent :=
  { action, actor := some c.adminUsername, sourceIp := c.request.clientIp, targetType := some "vm"
    targetId := v, targetLabel := some hostname, detail, requestId := some c.request.requestId }

/-- `async with _CREATE_VM_LOCK`. -/
def withCreateVmLock {α : Type} (body : AuditedRoute α) : AuditedRoute α := do
  plainly (Task.await Eff.lock)
  let a ← tryCatch body fun exc => do
    plainly (Task.await Eff.unlock)
    throw exc
  plainly (Task.await Eff.unlock)
  pure a

/-- The rows `create_vm` adds. -/
def insertVm (c : Context) (payload : VMCreate) (template : Template) (size : Int × Int)
    (node : String) : AuditedRoute (VmId × JobId) := do
  plainly (hostnameFree payload.hostname)
  let minDiskGb := Dict.get template.defaults "min_disk_gb"
  let minDiskGb ← plainly (ofExcept (if minDiskGb.truthy then minDiskGb.toInt else .ok 0))
  let effectiveDiskGb := max payload.diskGb minDiskGb
  recordAndCommit
    (.insertVM
      { hostname := payload.hostname, template := payload.template, cpu := size.1
        memoryMb := size.2, diskGb := effectiveDiskGb, node }
      { type := .createVm
        metadata := { operation := some "queued", node := some node
                      template := some payload.template } })
    (auditVm c "vm.create" none payload.hostname
      [("template", .str payload.template), ("size", .str payload.size),
        ("disk_gb", .int effectiveDiskGb), ("requested_disk_gb", .int payload.diskGb)])

def createVm (c : Context) (payload : VMCreate) : AuditedRoute Response := do
  plainly (notConfigured c.settings "criar")
  match vmSizes payload.size with
  | none => throw (.exc (.appHTTPException "VALIDATION_ERROR" "tamanho inválido" 400))
  | some size =>
    plainly (refuseIf (!c.settings.vmDiskChoices.contains payload.diskGb)
      (.appHTTPException "VALIDATION_ERROR" "disco inválido" 400))
    let template ← plainly (enabledTemplate payload.template)
    plainly (hostnameFree payload.hostname)
    let preflight ← plainly (validateCreatePreflight c.settings template)
    let (v, j) ← withCreateVmLock (insertVm c payload template size preflight.1)
    plainly (Task.await (Eff.put
      { type := .createVm, jobId := j, vmId := some v, rootPassword := some payload.rootPassword }))
    pure (.creating v j)

/-- `enqueue_power_job`, and the same last steps of `delete_vm` and `reinstall_vm`. -/
def enqueueJob (v : VmId) (type : JobType) (metadata : JobMeta) (rootPassword template : Option String)
    (event : AuditEvent) : AuditedRoute Response := do
  let j ← recordAndCommit (.insertJob { type, vmId := some v, metadata }) event
  plainly (Task.await (Eff.put { type, jobId := j, vmId := some v, rootPassword, template }))
  pure (.queued j)

def startVm (c : Context) (v : VmId) : AuditedRoute Response := do
  let vm ← plainly (getLiveVm v)
  plainly (refuseIf (!(vm.status = .stopped || vm.status = .error))
    (.appHTTPException "INVALID_STATE" "VM não pode ser iniciada neste estado" 409))
  plainly (refuseIf vm.proxmoxVmid.isNone (.appHTTPException "INVALID_STATE"
    "VM ainda não existe no Proxmox; tente criar novamente ou remova o registro" 409))
  enqueueJob v .startVm {} none none (auditVm c "vm.start" (some v) vm.hostname [])

def stopVm (c : Context) (v : VmId) : AuditedRoute Response := do
  let vm ← plainly (getLiveVm v)
  plainly (refuseIf (vm.status ≠ .running)
    (.appHTTPException "INVALID_STATE" "VM não está running" 409))
  enqueueJob v .stopVm {} none none (auditVm c "vm.stop" (some v) vm.hostname [])

def rebootVm (c : Context) (v : VmId) : AuditedRoute Response := do
  let vm ← plainly (getLiveVm v)
  plainly (refuseIf (vm.status ≠ .running)
    (.appHTTPException "INVALID_STATE" "VM não está running" 409))
  enqueueJob v .rebootVm {} none none (auditVm c "vm.reboot" (some v) vm.hostname [])

/-- An optional column as a value of `detail`. -/
def optional {α : Type} (f : α → Json) (value : Option α) : Json := (value.map f).getD .null

def reinstallVm (c : Context) (v : VmId) (payload : ReinstallVM) : AuditedRoute Response := do
  plainly (notConfigured c.settings "reinstalar")
  let vm ← plainly (getLiveVm v)
  plainly (refuseIf (payload.confirmHostname ≠ vm.hostname)
    (.appHTTPException "HOSTNAME_MISMATCH" "hostname de confirmação não confere" 400))
  plainly (refuseIf (!vm.status.settled)
    (.appHTTPException "INVALID_STATE" "VM não pode ser reinstalada neste estado" 409))
  let templateOs := match payload.template with
    | some os => if os = "" then vm.template else os
    | none => vm.template
  let template ← plainly (enabledTemplate templateOs)
  let preflight ← plainly (validateCreatePreflight c.settings template)
  enqueueJob v .reinstallVm
    { operation := some "queued", template := some templateOs, node := some preflight.1 }
    (some payload.rootPassword) (some templateOs)
    (auditVm c "vm.reinstall" (some v) vm.hostname
      [("previous_template", .str vm.template), ("next_template", .str templateOs),
        ("proxmox_vmid", optional .int vm.proxmoxVmid), ("ip_address", optional .str vm.ipAddress),
        ("node", .str vm.node)])

def deleteVm (c : Context) (v : VmId) (confirmHostname : String) : AuditedRoute Response := do
  let vm ← plainly (getLiveVm v)
  plainly (refuseIf (confirmHostname ≠ vm.hostname)
    (.appHTTPException "HOSTNAME_MISMATCH" "hostname de confirmação não confere" 400))
  plainly (refuseIf (!vm.status.settled)
    (.appHTTPException "INVALID_STATE" "VM não pode ser deletada neste estado" 409))
  enqueueJob v .deleteVm {} none none
    (auditVm c "vm.delete" (some v) vm.hostname
      [("proxmox_vmid", optional .int vm.proxmoxVmid), ("ip_address", optional .str vm.ipAddress),
        ("node", .str vm.node), ("status_before", .str (Web.statusValue vm.status))])

/-- The handlers with their audit rows; `recheck_ssh` writes none. -/
def handle (c : Context) : Request → AuditedRoute Response
  | .createVm payload => createVm c payload
  | .startVm v => startVm c v
  | .stopVm v => stopVm c v
  | .rebootVm v => rebootVm c v
  | .reinstallVm v payload => reinstallVm c v payload
  | .deleteVm v confirmHostname => deleteVm c v confirmHostname
  | .recheckSsh v => plainly (recheckSsh v)

end Audited

/-- The awaits of a request with their answers, newest first. `none` is a commit that the database
refused. -/
abbrev Journal := List ((e : Eff) × Option (Ans e))

/-- The database accepts only rows that fit. -/
def Stored : (e : Eff) → Ans e → Prop
  | .getVM _, some vm => vm.fits = true
  | _, _ => True

/-- Everything outside the request: how it answers an await, after what it has answered before. `none`
never answers, or is a commit that it refuses for its own reasons. -/
structure Surroundings where
  answer : Journal → (e : Eff) → Option (Ans e)
  stored : ∀ journal e r, answer journal e = some r → Stored e r

/-- The run of a request that commits its audit rows or, with `audits` false, adds none: what it comes
to, and what it has done. A commit fails as a whole if a row does not fit. -/
def Surroundings.run {α : Type} (s : Surroundings) (audits : Bool) :
    Prog AuditedEff AuditedAns α → Journal → Option α × Journal
  | .ret a, journal => (some a, journal)
  | .await (.plain e) k, journal =>
    match s.answer journal e with
    | some r => s.run audits (k r) (⟨e, some r⟩ :: journal)
    | none => (none, journal)
  | .await (.commit e event) k, journal =>
    let answer := if e.fits && (!audits || event.fits) then s.answer journal e else none
    s.run audits (k answer) (⟨e, answer⟩ :: journal)

/-- What the request is answered, if it is, and the awaits it has made. -/
def Surroundings.serve (s : Surroundings) (audits : Bool) (c : Audited.Context) (r : Request) :
    Option (Except Raised Response) × Journal :=
  s.run audits ((Audited.handle c r ()).bind fun out => .ret out.1) []

end Clusteration
