import Clusteration.Framework.Coroutine
import Clusteration.Panel.Effects

open Async

namespace Clusteration

/-- A method of `ProxmoxClient`, run by a coroutine whose session it does not know. -/
abbrev Client (S α : Type) := Task Eff Ans S Exc α

variable {S α : Type}

def ofExcept : Except Exc α → Client S α
  | .ok a => pure a
  | .error x => throw x

/-- `try: m except ProxmoxError as exc: h exc`. -/
def exceptProxmox (m : Client S α) (h : Exc → Client S α) : Client S α :=
  tryCatch m fun x => if x.isProxmoxError then h x else throw x

namespace ProxmoxClient

/-- One attempt of `_request`: the data, or `last_exc`. -/
def requestOnce (caller : Option Caller) (req : Req) : Client S (Json ⊕ Option Failure) := do
  let out ← Task.await (.http caller req)
  match out.attempt with
  | .data d => pure (.inl d)
  | .raised x => throw x
  | .failed f => pure (.inr (some f))

/-- How `_request` ends without an answer. -/
def requestFailed (req : Req) : Option Failure → Client S Json
  | some f => throw (f.exc req)
  | none => throw (.proxmoxError "erro ao chamar Proxmox")

/-- `_request`: four attempts. -/
def request (caller : Option Caller) (req : Req) : Client S Json :=
  Task.retry (fun _ => requestOnce caller req) (fun last => last.all Failure.retryable)
    (requestFailed req) 3 none

def nextId (caller : Option Caller) : Client S Int := do
  let data ← request caller .nextId
  ofExcept data.toInt

/-- `data if isinstance(data, list) else []`. -/
def asList : Json → List Json
  | .arr items => items
  | _ => []

/-- `data if isinstance(data, dict) else {}`. -/
def asDict : Json → Dict
  | .obj d => d
  | _ => []

def clusterResources (caller : Option Caller) : Client S (List Json) := do
  let data ← request caller .clusterResources
  pure (asList data)

def findVmResource (caller : Option Caller) (vmid : Int) : Client S (Option Dict) := do
  let resources ← clusterResources caller
  ofExcept (findResource vmid resources)

def vmConfig (caller : Option Caller) (node : String) (vmid : Int) : Client S Dict := do
  let data ← request caller (.vmConfig node vmid)
  pure (asDict data)

def resolveTemplateNode (caller : Option Caller) (preferredNode : String) (templateVmid : Int) :
    Client S String := do
  let (resource, clusterError) ← exceptProxmox
    (do let resource ← findVmResource caller templateVmid; pure (resource, ""))
    fun exc => pure (none, exc.str)
  match resource with
  | some resource =>
    if isTemplate resource then
      let node := strip (Dict.get resource "node").strOr
      if node = "" then
        throw (.proxmoxError s!"template VMID {templateVmid} encontrado sem node no Proxmox")
      else pure node
    else throw (.proxmoxError s!"VMID {templateVmid} encontrado, mas não está marcado como template")
  | none =>
    if preferredNode ≠ "" then
      exceptProxmox
        (do
          let config ← vmConfig caller preferredNode templateVmid
          if isTemplate config then pure preferredNode
          else throw (.proxmoxError
            s!"VMID {templateVmid} existe em {preferredNode}, mas não está marcado como template"))
        fun exc =>
          let clusterSuffix :=
            if clusterError ≠ "" then s!" lookup do cluster respondeu: {clusterError};" else ""
          throw (.proxmoxError (s!"template VMID {templateVmid} não encontrado no cluster;"
            ++ clusterSuffix ++ s!" node configurado respondeu: {exc.str}"))
    else
      let suffix := if clusterError ≠ "" then s!": {clusterError}" else ""
      throw (.proxmoxError (s!"template VMID {templateVmid} não encontrado no cluster" ++ suffix))

def notFoundText (vmid : Int) : String := s!"VMID {vmid} não encontrado no cluster"

def withoutNodeText (vmid : Int) : String := s!"VMID {vmid} encontrado sem node no Proxmox"

theorem notFoundText_contains (vmid : Int) :
    contains (notFoundText vmid) "não encontrado" = true := by
  have h : notFoundText vmid =
      ("VMID " ++ toString vmid ++ " ") ++ "não encontrado" ++ " no cluster" := by
    change ("VMID " ++ toString vmid) ++ " não encontrado no cluster" = _
    rw [String.append_assoc, String.append_assoc, String.append_assoc]
    rfl
  rw [h]
  exact contains_append _ _ _

theorem withoutNodeText_contains (vmid : Int) :
    contains (withoutNodeText vmid) "não encontrado" = false := by
  rw [Bool.eq_false_iff]
  intro h
  -- the text would have to have an `ã`
  have hm : 'ã' ∈ ("VMID " ++ toString vmid ++ " encontrado sem node no Proxmox").toList :=
    mem_of_contains h (by decide)
  rw [String.toList_append, String.toList_append, List.mem_append, List.mem_append] at hm
  rcases hm with (hm | hm) | hm
  · revert hm
    decide
  · rcases mem_toString_int hm with hd | hd
    · revert hd
      decide
    · revert hd
      decide
  · revert hm
    decide

/-- The second half of `resolve_vm_node`: the cluster-wide lookup. -/
def lookupVmNode (caller : Option Caller) (vmid : Int) : Client S String := do
  let resource ← findVmResource caller vmid
  match resource with
  | none => throw (.proxmoxError (notFoundText vmid))
  | some resource =>
    let node := strip (Dict.get resource "node").strOr
    if node = "" then throw (.proxmoxError (withoutNodeText vmid)) else pure node

/-- The first half of `resolve_vm_node`: the record's own node. -/
def isOnNode (caller : Option Caller) (preferredNode : String) (vmid : Int) : Client S Bool :=
  if preferredNode ≠ "" then
    exceptProxmox
      (do let _ ← request caller (.statusCurrent preferredNode vmid); pure true)
      fun _ => pure false
  else pure false

def resolveVmNode (caller : Option Caller) (preferredNode : String) (vmid : Int) :
    Client S String := do
  if ← isOnNode caller preferredNode vmid then pure preferredNode
  else lookupVmNode caller vmid

def vmDiskSizeGb (caller : Option Caller) (node : String) (vmid : Int) :
    Client S (Option Int) := do
  let listed ← exceptProxmox
    (do let resource ← findVmResource caller vmid; ofExcept (diskSizeGbFromResource resource))
    fun _ => pure none
  match listed with
  | some gb => pure (some gb)
  | none =>
    let config ← exceptProxmox (some <$> vmConfig caller node vmid) fun _ => pure none
    match config with
    | none => pure none
    | some config => ofExcept (parseDiskSizeGb (Dict.get config "scsi0").strOr)

/-- What `wait_for_task` makes of one status answer: an end, or another poll. -/
def taskEnd : Json → Except Exc (Option String)
  | .obj status =>
    match Dict.get status "status" with
    | .str "stopped" =>
      let exitStatus := (Dict.get status "exitstatus").strOr
      if exitStatus ≠ "" ∧ exitStatus ≠ "OK" then .error (.proxmoxTaskError exitStatus)
      else .ok (some (if exitStatus = "" then "OK" else exitStatus))
    | _ => .ok none
  | x => .error (.attributeError s!"'{x.typeName}' object has no attribute 'get'")

/-- One poll of `wait_for_task`. -/
def pollTask (caller : Option Caller) (node upid : String) : Client S (String ⊕ Unit) := do
  let status ← request caller (.taskStatus node upid)
  let ended ← ofExcept (taskEnd status)
  match ended with
  | some exitStatus => pure (.inl exitStatus)
  | none => pure (.inr ())

/-- One round of a loop that polls until its deadline; `true` says that the deadline has passed. -/
def pollOnce (interval deadline : Nat) (poll : Client S (α ⊕ Unit)) : Client S (α ⊕ Bool) := do
  match ← poll with
  | .inl a => pure (.inl a)
  | .inr () =>
    let now ← Task.await .time
    if deadline ≤ now then pure (.inr true)
    else
      let _ ← Task.await (.sleep interval)
      pure (.inr false)

/-- How such a loop gives up. It is not to run out of rounds before its deadline. -/
def pastDeadline (late : Client S α) : Bool → Client S α
  | true => late
  | false => do
    let never ← Task.await .forever
    nomatch never

/-- `while True`: poll, give up once `loop.time()` has reached the deadline, sleep for `interval`.
The clock lets it sleep `timeout / interval + 1` times at most. -/
def pollUntil (timeout interval : Nat) (poll : Client S (α ⊕ Unit)) (late : Client S α) :
    Client S α := do
  let start ← Task.await .time
  Task.retry (fun _ => pollOnce interval (start + timeout) poll) (fun past => !past)
    (pastDeadline late) (timeout / interval + 1) false

/-- `wait_for_task`. `quote` only takes a UPID that is a string. -/
def waitForTask (caller : Option Caller) (node : String) (upid : Json) : Client S String :=
  match upid with
  | .str upid =>
    pollUntil 600000 3000 (pollTask caller node upid)
      (throw (.proxmoxTimeoutError "task não terminou em 600s"))
  | _ => throw (.typeError "quote_from_bytes() expected bytes")

/-- One poll of `wait_for_ip`. -/
def pollIp (caller : Option Caller) (node : String) (vmid : Int) : Client S (String ⊕ Unit) := do
  let ip ← exceptProxmox
    (do
      let data ← request caller (.networkInterfaces node vmid)
      ofExcept (parseFirstIpv4 data))
    fun _ => pure none
  match ip with
  | some ip => pure (.inl ip)
  | none => pure (.inr ())

def waitForIp (caller : Option Caller) (node : String) (vmid : Int) (timeout : Nat) :
    Client S String :=
  pollUntil (timeout * 1000) 3000 (pollIp caller node vmid)
    (throw (.proxmoxTimeoutError s!"guest-agent não retornou IP em {timeout}s"))

/-- One poll of `agent_exec`. -/
def pollExec (caller : Option Caller) (node : String) (vmid : Int) (pid : Json) :
    Client S (String ⊕ Unit) := do
  let status ← request caller (.execStatus node vmid pid)
  if (Dict.get (asDict status) "exited").truthy then
    pure (.inl (Dict.get (asDict status) "out-data").strOr)
  else pure (.inr ())

def agentExec (caller : Option Caller) (node : String) (vmid : Int) (script : String) :
    Client S String := do
  let started ← request caller (.exec node vmid script)
  match Dict.get (asDict started) "pid" with
  | .null => pure ""
  | pid => pollUntil 60000 1500 (pollExec caller node vmid pid) (pure "")

def resetScript : String :=
  "rm -f /etc/machine-id /var/lib/dbus/machine-id && " ++
  "systemd-machine-id-setup >/dev/null 2>&1 && " ++
  "ln -sf /etc/machine-id /var/lib/dbus/machine-id && " ++
  "echo reset-ok"

/-- One try of `reset_machine_id`, given the last error met so far. -/
def resetOnce (caller : Option Caller) (node : String) (vmid : Int) (last : Option Exc) :
    Client S (Unit ⊕ Option Exc) :=
  exceptProxmox
    (do
      let out ← agentExec caller node vmid resetScript
      if contains out "reset-ok" then pure (.inl ()) else pure (.inr last))
    fun exc => pure (.inr (some exc))

def resetFailed : Option Exc → Client S Unit
  | some exc => throw exc
  | none => throw (.proxmoxError "reset de machine-id não confirmou (guest-exec indisponível)")

/-- `reset_machine_id`: fifteen tries. -/
def resetMachineId (caller : Option Caller) (node : String) (vmid : Int) : Client S Unit :=
  Task.retry (resetOnce caller node vmid) (fun _ => true) resetFailed 14 none

end ProxmoxClient

end Clusteration
