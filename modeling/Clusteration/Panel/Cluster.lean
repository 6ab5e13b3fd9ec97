import Clusteration.Panel.Http

namespace Clusteration

/-- Whose machine-id a guest has: the one baked into a template, or one drawn for it alone. -/
inductive MachineId where
  | template (vmid : Int)
  | fresh (k : Nat)
  deriving DecidableEq, Repr

/-- The job a request is sent for, and the record that job belongs to. -/
structure Caller where
  job : JobId
  vm : VmId
  deriving DecidableEq, Repr

/-- A guest Proxmox holds. `origin` is the job whose clone made it, `none` for guests that were
there before the panel. -/
structure Guest where
  vmid : Int
  node : String
  origin : Option Caller := none
  running : Bool := false
  machineId : MachineId := .template 0
  bootId : MachineId := .template 0
  addr : String := ""
  deriving DecidableEq, Repr

/-- A node is named as a host is: the name is not empty, and has no white space around it. -/
def isNodeName (node : String) : Bool := node ≠ "" && strip node = node

/-- The Proxmox cluster: its guests, and for each UPID it gave out whether the task took effect. -/
structure Cluster where
  guests : List Guest := []
  tasks : List (String × Bool) := []
  drawn : Nat := 0

namespace Cluster

def find (c : Cluster) (n : Int) : Option Guest := c.guests.find? fun g => g.vmid = n

def update (c : Cluster) (n : Int) (f : Guest → Guest) : Cluster :=
  { c with guests := c.guests.map fun g => if g.vmid = n then f g else g }

def remove (c : Cluster) (n : Int) : Cluster :=
  { c with guests := c.guests.filter fun g => g.vmid ≠ n }

/-- What a state-changing request does when Proxmox carries it out; `none` when it cannot. A guest
that boots gets the lease `addr` under the machine-id it has then. -/
def apply (c : Cluster) (caller : Option Caller) (addr : String) : Req → Option Cluster
  | .clone node templateVmid newid _ =>
    if (c.find newid).isSome || !isNodeName node then none
    else some { c with
      guests := c.guests ++ [{ vmid := newid, node, origin := caller,
                               machineId := .template templateVmid, bootId := .template templateVmid }] }
  | .setConfig node n _ | .resize node n _ _ =>
    if (c.find n).any (fun g => g.node = node) then some c else none
  | .power node n .start =>
    if (c.find n).any (fun g => g.node = node && !g.running) then
      some (c.update n fun g => { g with running := true, bootId := g.machineId, addr })
    else none
  | .power node n .reboot =>
    if (c.find n).any (fun g => g.node = node && g.running) then
      some (c.update n fun g => { g with bootId := g.machineId, addr })
    else none
  | .power node n .shutdown | .power node n .stop =>
    if (c.find n).any (fun g => g.node = node && g.running) then
      some (c.update n fun g => { g with running := false })
    else none
  | .exec node n _ =>
    if (c.find n).any (fun g => g.node = node && g.running) then
      some { c.update n (fun g => { g with machineId := .fresh c.drawn }) with drawn := c.drawn + 1 }
    else none
  | .destroy node n =>
    if (c.find n).any (fun g => g.node = node && !g.running) then some (c.remove n) else none
  | _ => none

end Cluster

/-- How Proxmox takes one attempt: whether it carries the request out, the lease of a guest that
boots, and what comes back. An attempt may be carried out and its answer lost. A power task that
fails may yet leave its guest running, or stopped, as `left` says. -/
structure HttpIn where
  applied : Bool := false
  left : Option Bool := none
  addr : String := ""
  out : HttpOutcome

/-- What comes of the attempt: the request, nothing, or whatever else a power task does to the power
of its guest. -/
def HttpIn.effect (i : HttpIn) (req : Req) : Option Req :=
  if i.applied then some req
  else match req, i.left with
    | .power node n _, some true => some (.power node n .start)
    | .power node n _, some false => some (.power node n .stop)
    | _, _ => none

/-- The attempt boots its guest. -/
def HttpIn.boots (i : HttpIn) (req : Req) : Bool := (i.effect req).any Req.boots

/-- The attempt resets its guest's machine-id. -/
def HttpIn.renews (i : HttpIn) (req : Req) : Bool := (i.effect req).any Req.renews

/-- The VMID `/cluster/nextid` answers. -/
def nextIdOf (out : HttpOutcome) : Option Int :=
  match out.attempt with
  | .data d => match d.toInt with
    | .ok n => some n
    | .error _ => none
  | _ => none

/-- The UPID an answer carries. -/
def upidOf (out : HttpOutcome) : Option String :=
  match out.attempt with
  | .data (.str u) => some u
  | _ => none

/-- The address an agent answer names first. -/
def ipOf (out : HttpOutcome) : Option String :=
  match out.attempt with
  | .data d => match parseFirstIpv4 d with
    | .ok ip => ip
    | .error _ => none
  | _ => none

/-- The exit status of a task status answer, once the task has stopped; `some ""` when the answer
leaves it out. -/
def exitOf (out : HttpOutcome) : Option String :=
  match out.attempt with
  | .data (.obj d) => match Dict.get d "status" with
    | .str "stopped" => some (Dict.get d "exitstatus").strOr
    | _ => none
  | _ => none

/-- What Proxmox keeps to: `nextid` names a VMID free at that moment, a task reported OK took
effect, and a UPID is given out once. -/
def Cluster.honest (c : Cluster) (req : Req) (i : HttpIn) : Bool :=
  match req with
  | .nextId => match nextIdOf i.out with
    | some n => 100 ≤ n && (c.find n).isNone
    | none => true
  | .taskStatus _ upid => exitOf i.out != some "OK" || c.tasks.lookup upid == some true
  | req => req.isGet || (match upidOf i.out with
    | some u => (c.tasks.lookup u).isNone
    | none => true)

/-- One attempt of a request, as the cluster sees it. -/
def Cluster.serve (c : Cluster) (caller : Option Caller) (req : Req) (i : HttpIn) : Option Cluster :=
  if !c.honest req i then none
  else if req.isGet then (if i.applied then none else some c)
  else
    let carried := match i.effect req with
      | some effect => c.apply caller i.addr effect
      | none => some c
    carried.map fun c' => match upidOf i.out with
      | some u => { c' with tasks := (u, i.applied) :: c'.tasks }
      | none => c'

end Clusteration
