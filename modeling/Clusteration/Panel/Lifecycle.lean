import Clusteration.Panel.ProxmoxClient

open Async

namespace Clusteration

/-- The ORM session of a job: the two rows as last loaded or written, and as they are now. -/
structure Session where
  job0 : Job
  job : Job
  vm0 : VM
  vm : VM

abbrev Work (α : Type) := Task Eff Ans Session Exc α

def commit (c : Caller) : Work Unit := do
  let s ← Task.session
  Task.await (Eff.commit ⟨[⟨c.job, s.job0, s.job⟩], [⟨c.vm, s.vm0, s.vm⟩]⟩)
  Task.assign fun s => { s with job0 := s.job, vm0 := s.vm }

def setVm (f : VM → VM) : Work Unit := Task.assign fun s => { s with vm := f s.vm }

def setJob (f : Job → Job) : Work Unit := Task.assign fun s => { s with job := f s.job }

def theVm : Work VM := do
  let s ← Task.session
  pure s.vm

def setJobMeta (c : Caller) (patch : JobMeta) : Work Unit := do
  setJob fun job => { job with metadata := job.metadata.merge patch }
  commit c

def enqueueSshCheck (v : VmId) : Work JobId :=
  Task.await (Eff.insertJob { type := .sshReadinessCheck, vmId := some v })

/-- `(template.defaults or {}).get("node") or settings.PROXMOX_DEFAULT_NODE`. -/
def Template.node (template : Template) (settings : Settings) : String :=
  let node := (Dict.get template.defaults "node").strOr
  if node = "" then settings.proxmoxDefaultNode else node

/-- `template.defaults and template.defaults.get("enabled") is False`. -/
def Template.disabled (template : Template) : Bool :=
  match Dict.get template.defaults "enabled" with
  | .bool false => true
  | _ => false

/-- The `seed` list of `seed_templates`. -/
def seed (settings : Settings) : List Template :=
  let os (version : String) : Dict :=
    [("family", .str "os"), ("version", .str version), ("min_disk_gb", .int 12)]
  let ai (bundle : String) : Dict :=
    [("family", .str "ai"), ("base", .str "ubuntu"), ("bundle", .str bundle),
     ("min_disk_gb", .int 16)]
  [⟨"debian", "Debian 13 cloud-init (stable/latest)", settings.templateDebianVmid, os "13/trixie"⟩,
   ⟨"ubuntu", "Ubuntu 26.04 LTS cloud-init (latest LTS)", settings.templateUbuntuVmid,
     os "26.04/resolute"⟩,
   ⟨"fedora", "Fedora Cloud 44 cloud-init (latest)", settings.templateFedoraVmid, os "44"⟩,
   ⟨"hermes", "Hermes AI image (prebuilt)", settings.templateHermesVmid, ai "hermes"⟩,
   ⟨"openclaw", "OpenClaw AI image (prebuilt)", settings.templateOpenclawVmid, ai "openclaw"⟩,
   ⟨"claude", "Claude CLI image (prebuilt)", settings.templateClaudeVmid, ai "claude"⟩]

/-- One round of the loop of `seed_templates`. -/
def seedOne (settings : Settings) (rows : List Template) (item : Template) : List Template :=
  let defaults : Dict := Dict.merge
    [("enabled", .bool true), ("node", .str settings.proxmoxDefaultNode)] item.defaults
  if rows.any fun row => row.os = item.os then
    rows.map fun row =>
      if row.os = item.os then
        { row with
          name := item.name
          proxmoxTemplateVmid := item.proxmoxTemplateVmid
          defaults := (Dict.merge defaults row.defaults).set "node"
            (.str settings.proxmoxDefaultNode) }
      else row
  else rows ++ [{ item with defaults }]

/-- The rows `seed_templates` leaves. -/
def seedTemplates (settings : Settings) (rows : List Template) : List Template :=
  (seed settings).foldl (seedOne settings) rows

def ensureDiskSize (c : Caller) (vmid : Int) (phase : String) : Work Unit := do
  setJobMeta c { operation := some s!"{phase}:resize-check", targetVmid := some vmid }
  let vm ← theVm
  let currentGb ← ProxmoxClient.vmDiskSizeGb (some c) vm.node vmid
  let requestedGb := vm.diskGb
  match currentGb with
  | some currentGb =>
    if requestedGb ≤ currentGb then
      if requestedGb < currentGb then
        setVm fun vm => { vm with diskGb := currentGb }
        setJobMeta c
          { operation := some s!"{phase}:resize-skip"
            warning := some "template já possui disco maior; resize para baixo foi ignorado" }
      else pure ()
    else
      let _ ← ProxmoxClient.request (some c) (.resize vm.node vmid "scsi0" s!"{requestedGb}G")
      setJobMeta c { operation := some s!"{phase}:resize" }
  | none =>
    let refused ← exceptProxmox
      (do
        let _ ← ProxmoxClient.request (some c) (.resize vm.node vmid "scsi0" s!"{requestedGb}G")
        pure none)
      fun exc => pure (some exc)
    match refused with
    | some exc =>
      setJobMeta c
        { operation := some s!"{phase}:resize-skip"
          warning := some ("não foi possível confirmar/redimensionar o disco pelo token; "
            ++ s!"VM continuará com o disco do template: {exc.str}") }
    | none => setJobMeta c { operation := some s!"{phase}:resize" }

/-- `try: m except ProxmoxTimeoutError as exc: h exc`. -/
def exceptTimeout {α : Type} (m : Work α) (h : Exc → Work α) : Work α :=
  tryCatch m fun x => match x with
    | .proxmoxTimeoutError _ => h x
    | _ => throw x

/-- `provision_vm_from_template`, first part: the template's node, the VMID and the clone. -/
def cloneTemplate (settings : Settings) (c : Caller) (template : Template) (phase : String) :
    Work Int := do
  let preferredNode := template.node settings
  setVm fun vm => { vm with node := preferredNode, template := template.os, sshStatus := .pending }
  commit c
  setJobMeta c
    { operation := some s!"{phase}:resolve-template", template := some template.os }
  let node ← ProxmoxClient.resolveTemplateNode (some c) preferredNode template.proxmoxTemplateVmid
  setVm fun vm => { vm with node }
  commit c
  setJobMeta c { operation := some s!"{phase}:allocate-vmid", node := some node }
  let newVmid ← ProxmoxClient.nextId (some c)
  let vm ← theVm
  let upid ← ProxmoxClient.request (some c)
    (.clone vm.node template.proxmoxTemplateVmid newVmid vm.hostname)
  setJobMeta c
    { node := some vm.node, operation := some s!"{phase}:clone", template := some template.os
      targetVmid := some newVmid }
  let _ ← ProxmoxClient.waitForTask (some c) vm.node upid
  setVm fun vm => { vm with proxmoxVmid := some newVmid, status := .provisioning }
  commit c
  pure newVmid

/-- Second part: cloud-init, the disk and the first boot. -/
def bootClone (settings : Settings) (c : Caller) (rootPassword : String) (phase : String)
    (newVmid : Int) : Work Unit := do
  setJobMeta c { operation := some s!"{phase}:config-cloudinit", targetVmid := some newVmid }
  let vm ← theVm
  let _ ← ProxmoxClient.request (some c) (.setConfig vm.node newVmid
    { ciuser := "root", cipassword := rootPassword, sshkeys := strip settings.consoleSshPublicKey
      ipconfig0 := settings.cloudinitIpconfig, nameserver := settings.cloudinitNameserver
      cores := vm.cpu, memory := vm.memoryMb, onboot := 1 })
  ensureDiskSize c newVmid phase
  let vm ← theVm
  let upid ← ProxmoxClient.request (some c) (.power vm.node newVmid .start)
  setJobMeta c { node := some vm.node, operation := some s!"{phase}:start" }
  let _ ← ProxmoxClient.waitForTask (some c) vm.node upid
  setVm fun vm => { vm with status := .running }
  commit c

/-- Third part: the first address; `false` when the agent gave none in time. -/
def firstIp (c : Caller) (phase : String) (newVmid : Int) : Work Bool :=
  exceptTimeout
    (do
      let vm ← theVm
      setJobMeta c
        { operation := some s!"{phase}:wait-ip", node := some vm.node, targetVmid := some newVmid }
      let ip ← ProxmoxClient.waitForIp (some c) vm.node newVmid 600
      setVm fun vm => { vm with ipAddress := some ip }
      commit c
      pure true)
    fun exc => do
      setVm fun vm => { vm with sshStatus := .failed }
      setJobMeta c { warning := some exc.str, operation := some s!"{phase}:wait-ip" }
      commit c
      pure false

/-- Last part: a machine-id of its own and a reboot for a lease of its own. -/
def resetIdentity (c : Caller) (phase : String) (newVmid : Int) : Work Unit := do
  exceptProxmox
    (do
      let vm ← theVm
      setJobMeta c
        { operation := some s!"{phase}:reset-machine-id", node := some vm.node
          targetVmid := some newVmid }
      ProxmoxClient.resetMachineId (some c) vm.node newVmid
      let rebootUpid ← ProxmoxClient.request (some c) (.power vm.node newVmid .reboot)
      setJobMeta c { node := some vm.node, operation := some s!"{phase}:reboot-uniq" }
      let _ ← ProxmoxClient.waitForTask (some c) vm.node rebootUpid
      setJobMeta c
        { operation := some s!"{phase}:wait-ip-after-reboot", node := some vm.node
          targetVmid := some newVmid }
      let ip ← ProxmoxClient.waitForIp (some c) vm.node newVmid 300
      setVm fun vm => { vm with ipAddress := some ip }
      commit c)
    -- not fatal: the guest exists and runs
    fun _ => pure ()
  let vm ← theVm
  setJobMeta c
    { operation := some s!"{phase}:ready", node := some vm.node, targetVmid := some newVmid }

def provisionVmFromTemplate (settings : Settings) (c : Caller) (template : Template)
    (rootPassword phase : String) : Work Unit := do
  let newVmid ← cloneTemplate settings c template phase
  bootClone settings c rootPassword phase newVmid
  if ← firstIp c phase newVmid then resetIdentity c phase newVmid else pure ()

def createVmJob (settings : Settings) (c : Caller) (rootPassword : String) : Work Unit := do
  let vm ← theVm
  let template ← Task.await (Eff.selectTemplate vm.template)
  match template with
  | none => throw (.runtimeError "template não encontrado")
  | some template => provisionVmFromTemplate settings c template rootPassword "create"

/-- What `endpoints[operation]` of `power_job` holds. -/
structure PowerOp where
  action : PowerAction
  transient : VMStatus
  final : VMStatus
  deriving DecidableEq

def powerOp : JobType → Option PowerOp
  | .startVm => some ⟨.start, .starting, .running⟩
  | .stopVm => some ⟨.shutdown, .stopping, .stopped⟩
  | .rebootVm => some ⟨.reboot, .rebooting, .running⟩
  | _ => none

/-- The jobs that boot the guest of a VM: a new address is awaited, and a readiness check follows. -/
def JobType.bootsVm : JobType → Bool
  | startVm | rebootVm => true
  | _ => false

/-- The address of a guest `power_job` has booted. -/
def awaitAddress (c : Caller) (operation : JobType) (op : PowerOp) (node : String) (vmid : Int) :
    Work Unit :=
  if operation.bootsVm then
    exceptTimeout
      (do
        let ip ← ProxmoxClient.waitForIp (some c) node vmid 300
        setVm fun vm => { vm with ipAddress := some ip })
      fun exc => do
        setVm fun vm => { vm with sshStatus := .failed }
        setJobMeta c { warning := some exc.str, operation := some s!"{op.action.value}:wait-ip" }
  else pure ()

/-- `power_job` of a record that has the VMID `vmid`. -/
def powerGuest (c : Caller) (operation : JobType) (op : PowerOp) (vmid : Int) : Work Unit := do
  setVm fun vm => { vm with
    status := op.transient
    sshStatus := if operation = .startVm then .pending else vm.sshStatus }
  commit c
  let vm ← theVm
  let node ← ProxmoxClient.resolveVmNode (some c) vm.node vmid
  setVm fun vm => { vm with node }
  let upid ← ProxmoxClient.request (some c) (.power node vmid op.action)
  setJobMeta c { node := some node, operation := some op.action.value }
  let _ ← ProxmoxClient.waitForTask (some c) node upid
  setVm fun vm => { vm with status := op.final }
  awaitAddress c operation op node vmid
  commit c

def powerJob (c : Caller) (operation : JobType) : Work Unit := do
  let vm ← theVm
  match vm.proxmoxVmid, powerOp operation with
  | none, _ => throw (.runtimeError "VM ainda não possui VMID Proxmox")
  | some _, none => throw (.keyError operation.value)
  | some vmid, some op => powerGuest c operation op vmid

/-- The best-effort stop of `destroy_existing_vm`. -/
def stopIfRunning (c : Caller) (vmid : Int) (operation : String) : Work Unit :=
  exceptProxmox
    (do
      let vm ← theVm
      let current ← ProxmoxClient.request (some c) (.statusCurrent vm.node vmid)
      match Dict.get (ProxmoxClient.asDict current) "status" with
      | .str "running" =>
        let stopUpid ← ProxmoxClient.request (some c) (.power vm.node vmid .stop)
        setJobMeta c { node := some vm.node, operation := some s!"{operation}:stop" }
        let _ ← ProxmoxClient.waitForTask (some c) vm.node stopUpid
        pure ()
      | _ => pure ())
    fun _ => pure ()

/-- `destroy_existing_vm` of a record that has the VMID `vmid`. -/
def destroyGuest (c : Caller) (vmid : Int) (operation : String) : Work Unit := do
  let found ← exceptProxmox
    (do
      let vm ← theVm
      let node ← ProxmoxClient.resolveVmNode (some c) vm.node vmid
      setVm fun vm => { vm with node }
      commit c
      pure true)
    fun exc => if contains exc.str "não encontrado" then pure false else throw exc
  if found then
    stopIfRunning c vmid operation
    let vm ← theVm
    let upid ← ProxmoxClient.request (some c) (.destroy vm.node vmid)
    setJobMeta c { node := some vm.node, operation := some operation }
    let _ ← ProxmoxClient.waitForTask (some c) vm.node upid
    pure ()
  else pure ()

def destroyExistingVm (c : Caller) (operation : String) : Work Unit := do
  let vm ← theVm
  match vm.proxmoxVmid with
  | none => pure ()
  | some vmid => destroyGuest c vmid operation

def deleteVmJob (c : Caller) : Work Unit := do
  setVm fun vm => { vm with status := .deleting }
  commit c
  destroyExistingVm c "delete"
  let now ← Task.await .utcnow
  setVm fun vm => { vm with status := .deleted, deletedAt := some now }
  commit c

def reinstallVmJob (settings : Settings) (c : Caller) (rootPassword : String)
    (templateOs : Option String) : Work Unit := do
  let vm ← theVm
  let targetOs := match templateOs with
    | some os => if os = "" then vm.template else os
    | none => vm.template
  let template ← Task.await (Eff.selectTemplate targetOs)
  match template with
  | none => throw (.runtimeError "template não encontrado")
  | some template =>
    if template.disabled then throw (.runtimeError "template desabilitado")
    else
      setVm fun vm => { vm with status := .deleting, sshStatus := .pending }
      commit c
      destroyExistingVm c "reinstall-destroy"
      setVm fun vm => { vm with
        template := template.os, proxmoxVmid := none, ipAddress := none
        node := template.node settings, status := .provisioning }
      commit c
      provisionVmFromTemplate settings c template rootPassword "reinstall"

/-- One try of `check_ssh_ready`. -/
def trySsh (c : Caller) (ip : String) : Work (Bool ⊕ Unit) := do
  let term ← openTerminal (Task.await (Eff.connect c.vm ip)) (Task.await (Eff.ssh c.vm ip))
  match term with
  | some conn =>
    Task.await (Eff.closeConnection conn)
    setVm fun vm => { vm with sshStatus := .ready }
    commit c
    pure (.inl true)
  | none => pure (.inr ())

def sshFailed (c : Caller) : Work Bool := do
  setVm fun vm => { vm with sshStatus := .failed }
  commit c
  pure false

def checkSshReady (c : Caller) : Work Bool := do
  let vm ← theVm
  match vm.ipAddress with
  | none => sshFailed c
  | some ip =>
    if ip = "" then sshFailed c
    else ProxmoxClient.pollUntil 90000 5000 (trySsh c ip) (sshFailed c)

end Clusteration
