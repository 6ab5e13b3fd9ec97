import Clusteration.Panel.Startup
import Clusteration.Panel.Routes
import Clusteration.Protocol.Rows

open Async

namespace Clusteration

/-- Where a job stands between the worker's first and last commit for it. -/
inductive Stage where
  | entry
  /-- `power_job` has committed its transient status -/
  | acting
  /-- Proxmox accepted the request of `power_job` under the UPID `u` -/
  | powering (u : String)
  /-- `power_job` takes its task as done -/
  | powered
  /-- the agent has answered `power_job` with an address -/
  | heard (ip : String)
  /-- the status `deleting` is committed -/
  | deleting
  /-- Proxmox accepted to destroy guest `n` under the UPID `u` -/
  | destroying (n : Int) (u : String)
  /-- `destroy_existing_vm` takes the guest as gone -/
  | gone
  /-- `reinstall_vm_job` has cleared the VMID -/
  | blank
  /-- `provision_vm_from_template` has begun -/
  | prepared
  | allocated (n : Int)
  /-- the clone was accepted and its VMID is in `job.meta` -/
  | cloned (n : Int)
  /-- the wait for the clone's task began at this reading of the clock -/
  | copying (n : Int) (start : Nat)
  /-- what the job has learnt makes it raise before its clone is in the record -/
  | lost (n : Int)
  /-- the VMID is in the record -/
  | created (n : Int)
  /-- Proxmox accepted to start the clone under the UPID `u` -/
  | starting (n : Int) (u : String)
  /-- the job takes the clone as started -/
  | started (n : Int)
  | up (n : Int)
  /-- the clone's agent has answered with an address -/
  | named (n : Int) (ip : String)
  /-- `open_terminal` has succeeded -/
  | reached
  /-- nothing is left that could raise -/
  | settled
  deriving DecidableEq

/-- Stages in which an exception may end the job. -/
def Stage.raises : Stage → Bool
  | allocated _ | cloned _ | copying _ _ | settled => false
  | _ => true

/-- A job in the worker: its own and its record's key, its type, the `target_vmid` and the columns
of the record it last committed, and its stage. -/
structure Exec where
  j : JobId
  v : VmId
  type : JobType
  target : Option Int
  x : Core
  stage : Stage

def Exec.caller (w : Exec) : Caller := ⟨w.j, w.v⟩

/-- Stages in which the record's guest counts as gone. -/
def Exec.Gone (w : Exec) : Prop := w.stage = .gone ∨ (w.stage = .deleting ∧ w.x.vmid = none)

theorem Exec.Gone.raises {w : Exec} (h : w.Gone) : w.stage.raises = true := by
  rcases h with h | ⟨h, _⟩
  · simp [h, Stage.raises]
  · simp [h, Stage.raises]

/-- The commits of a job that is not over yet: the stage, the columns and the `target_vmid` after. -/
inductive Edit (w : Exec) : Stage → Core → Option Int → Prop
  /-- only what no decision rests on changes: the node, the disk, the rest of `job.meta` -/
  | metadata : Edit w w.stage w.x w.target
  | power {op : PowerOp} : w.stage = .entry → powerOp w.type = some op → w.x.vmid.isSome →
      Edit w .acting
        { w.x with status := op.transient
                   ssh := if w.type = .startVm then .pending else w.x.ssh } w.target
  | stopped {op : PowerOp} : w.stage = .powered → powerOp w.type = some op → w.type = .stopVm →
      Edit w .settled { w.x with status := op.final } w.target
  | addressed {op : PowerOp} {ip : String} : w.stage = .heard ip → powerOp w.type = some op →
      Edit w .settled { w.x with status := op.final, ip := some ip } w.target
  | unheard {op : PowerOp} : w.stage = .powered → powerOp w.type = some op →
      Edit w .settled { w.x with status := op.final, ssh := .failed } w.target
  | delete : w.stage = .entry → w.type = .deleteVm →
      Edit w .deleting { w.x with status := .deleting } w.target
  | wipe : w.stage = .entry → w.type = .reinstallVm →
      Edit w .deleting { w.x with status := .deleting, ssh := .pending } w.target
  | deleted (now : Nat) : w.Gone → w.type = .deleteVm →
      Edit w .settled { w.x with status := .deleted, deletedAt := some now } w.target
  | cleared : w.Gone → w.type = .reinstallVm →
      Edit w .blank { w.x with status := .provisioning, vmid := none, ip := none } w.target
  | prepare : (w.stage = .entry ∧ w.type = .createVm) ∨
      (w.stage = .blank ∧ w.type = .reinstallVm) →
      Edit w .prepared { w.x with ssh := .pending } w.target
  | target {n : Int} : w.stage = .allocated n → Edit w (.cloned n) w.x (some n)
  | targetLost {n : Int} : w.stage = .lost n → Edit w (.lost n) w.x (some n)
  | adopt {n : Int} {start : Nat} : w.stage = .copying n start →
      Edit w (.created n) { w.x with status := .provisioning, vmid := some n } w.target
  | booted {n : Int} : w.stage = .started n → Edit w (.up n) { w.x with status := .running } w.target
  | address {n : Int} {ip : String} : w.stage = .named n ip →
      Edit w (.up n) { w.x with ip := some ip } w.target
  | noAddress {n : Int} : w.stage = .up n → Edit w .settled { w.x with ssh := .failed } w.target
  | ready {n : Int} : w.stage = .up n → Edit w .settled w.x w.target
  | sshReady : w.stage = .reached → Edit w .settled { w.x with ssh := .ready } w.target
  | sshFailed : w.stage = .entry → w.type = .sshReadinessCheck →
      Edit w .settled { w.x with ssh := .failed } w.target

/-- The state-changing requests of a job. -/
inductive Calls (w : Exec) : Req → Prop
  | power {op : PowerOp} {n : Int} (node : String) : w.stage = .acting → powerOp w.type = some op →
      w.x.vmid = some n → Calls w (.power node n op.action)
  | stop {n : Int} (node : String) : w.stage = .deleting → w.x.vmid = some n →
      Calls w (.power node n .stop)
  | destroy {n : Int} (node : String) : w.stage = .deleting → w.x.vmid = some n →
      Calls w (.destroy node n)
  | clone {n : Int} (node : String) (templateVmid : Int) (name : String) : w.stage = .allocated n →
      Calls w (.clone node templateVmid n name)
  | config {n : Int} (node : String) (data : CloudInit) : w.stage = .created n →
      Calls w (.setConfig node n data)
  | resize {n : Int} (node disk size : String) : w.stage = .created n →
      Calls w (.resize node n disk size)
  | start {n : Int} (node : String) : w.stage = .created n → Calls w (.power node n .start)
  | exec {n : Int} (node script : String) : w.stage = .up n → Calls w (.exec node n script)
  | reboot {n : Int} (node : String) : w.stage = .up n → Calls w (.power node n .reboot)

/-- The listing makes `resolve_vm_node` end in an error whose text says "não encontrado". -/
def missing (n : Int) (out : HttpOutcome) : Bool :=
  match out.attempt with
  | .data d => match findResource n (ProxmoxClient.asList d) with
    | .ok none => true
    | _ => false
  | .failed f => contains (f.exc .clusterResources).str "não encontrado"
  | .raised _ => false

/-- The answer shows a task that still runs, or one that has ended well. -/
def taskRuns (out : HttpOutcome) : Bool :=
  match out.attempt with
  | .data d => match ProxmoxClient.taskEnd d with
    | .ok _ => true
    | .error _ => false
  | _ => false

/-- The answers that move a job to another stage. -/
inductive Learns (w : Exec) : (e : Eff) → Ans e → Stage → Prop
  | nextId {out : HttpOutcome} {n : Int} : w.stage = .prepared → nextIdOf out = some n →
      Learns w (.http (some w.caller) .nextId) out (.allocated n)
  | powering {op : PowerOp} {out : HttpOutcome} {n : Int} {u : String} (node : String) :
      w.stage = .acting → powerOp w.type = some op → w.x.vmid = some n → upidOf out = some u →
      Learns w (.http (some w.caller) (.power node n op.action)) out (.powering u)
  | powered {out : HttpOutcome} {u : String} (node : String) : w.stage = .powering u →
      exitOf out = some "" ∨ exitOf out = some "OK" →
      Learns w (.http (some w.caller) (.taskStatus node u)) out .powered
  | heard {out : HttpOutcome} {n : Int} {ip : String} (node : String) : w.stage = .powered →
      w.type.bootsVm = true → w.x.vmid = some n → ipOf out = some ip →
      Learns w (.http (some w.caller) (.networkInterfaces node n)) out (.heard ip)
  | missing {out : HttpOutcome} {n : Int} : w.stage = .deleting → w.x.vmid = some n →
      missing n out = true → Learns w (.http (some w.caller) .clusterResources) out .gone
  | accepted {out : HttpOutcome} {n : Int} {u : String} (node : String) : w.stage = .deleting →
      w.x.vmid = some n → upidOf out = some u →
      Learns w (.http (some w.caller) (.destroy node n)) out (.destroying n u)
  | starting {out : HttpOutcome} {n : Int} {u : String} (node : String) : w.stage = .created n →
      upidOf out = some u →
      Learns w (.http (some w.caller) (.power node n .start)) out (.starting n u)
  | started {out : HttpOutcome} {n : Int} {u : String} (node : String) : w.stage = .starting n u →
      exitOf out = some "" ∨ exitOf out = some "OK" →
      Learns w (.http (some w.caller) (.taskStatus node u)) out (.started n)
  | unaccepted {out : HttpOutcome} {n : Int} (node : String) (templateVmid : Int) (name : String) :
      w.stage = .allocated n → upidOf out = none →
      Learns w (.http (some w.caller) (.clone node templateVmid n name)) out (.lost n)
  | copying {n : Int} (start : Nat) : w.stage = .cloned n → Learns w .time start (.copying n start)
  | broken {out : HttpOutcome} {n : Int} {start : Nat} (node u : String) :
      w.stage = .copying n start → taskRuns out = false →
      Learns w (.http (some w.caller) (.taskStatus node u)) out (.lost n)
  | late {n : Int} {start now : Nat} : w.stage = .copying n start → start + 600000 ≤ now →
      Learns w .time now (.lost n)
  | named {out : HttpOutcome} {n : Int} {ip : String} (node : String) : w.stage = .up n →
      ipOf out = some ip →
      Learns w (.http (some w.caller) (.networkInterfaces node n)) out (.named n ip)
  | destroyed {out : HttpOutcome} {n : Int} {u : String} (node : String) :
      w.stage = .destroying n u → exitOf out = some "" ∨ exitOf out = some "OK" →
      Learns w (.http (some w.caller) (.taskStatus node u)) out .gone
  | reached {ip : String} : w.stage = .entry → w.type = .sshReadinessCheck → w.x.ip = some ip →
      Learns w (.ssh w.v ip) true .reached

/-- Where the answer to a state-changing request moves the job, the job may send that request. -/
theorem Learns.calls {w : Exec} {req : Req} {out : HttpOutcome} {stage : Stage}
    (h : Learns w (.http (some w.caller) req) out stage) (hg : req.isGet = false) : Calls w req := by
  cases h with
  | nextId _ _ | powered _ _ _ | heard _ _ _ _ _ | missing _ _ _ | started _ _ _
  | destroyed _ _ _ | broken _ _ _ _ | named _ _ _ => cases hg
  | powering node hs hop hn _ => exact .power node hs hop hn
  | accepted node hs hn _ => exact .destroy node hs hn
  | unaccepted node templateVmid name hs _ => exact .clone node templateVmid name hs
  | starting node hs _ => exact .start node hs

/-- A commit of the job's session that brings the two rows to these columns. -/
structure Commits (w : Exec) (f : Flush) (status : JobStatus) (target : Option Int) (x' : Core) :
    Prop where
  rows : ∃ b c b' c', f = ⟨[⟨w.j, b, c⟩], [⟨w.v, b', c'⟩]⟩ ∧
    b.status = .running ∧ c.status = status ∧
    b.metadata.targetVmid = w.target ∧ c.metadata.targetVmid = target ∧
    b'.core = w.x ∧ c'.core = x'

/-- Awaits of a loop that watches the clock. -/
inductive IsClock : Eff → Prop
  | time : IsClock .time
  | sleep (ms : Nat) : IsClock (.sleep ms)
  | forever : IsClock .forever

def Req.asksAddress : Req → Bool
  | networkInterfaces _ _ => true
  | _ => false

/-- Awaits that leave the shared state alone. -/
inductive IsRead (caller : Option Caller) : Eff → Prop
  | get {req : Req} : req.isGet = true → req.asksAddress = false → IsRead caller (.http caller req)
  | clock {e : Eff} : IsClock e → IsRead caller e
  | utcnow : IsRead caller .utcnow
  | selectTemplate (os : String) : IsRead caller (.selectTemplate os)
  | selectLiveHostname (h : String) : IsRead caller (.selectLiveHostname h)
  | connect (v : VmId) (ip : String) : IsRead caller (.connect v ip)
  | closeConnection (conn : ConnId) : IsRead caller (.closeConnection conn)

/-- The same, and the question for a guest's address. -/
inductive IsLook (caller : Option Caller) : Eff → Prop
  | read {e : Eff} : IsRead caller e → IsLook caller e
  | address (node : String) (n : Int) : IsLook caller (.http caller (.networkInterfaces node n))

/-- Where the worker stands. -/
inductive WorkerPhase where
  | over
  | fetched (p : Payload)
  | gotJob (p : Payload) (job : Job)
  | noVm (j : JobId) (job : Job)
  | orphan (j : JobId)
  | loaded (p : Payload) (job : Job) (v : VmId) (vm : VM)
  | exec (w : Exec)
  /-- the job has succeeded and the readiness check of its VM is due -/
  | succeeded (v : VmId)
  | inserted (p : Payload)

def sshPayload (j : JobId) (v : VmId) : Payload :=
  { type := .sshReadinessCheck, jobId := j, vmId := some v }

def Job.running (job : Job) : Job := { job with status := .running }

def Exec.begin (p : Payload) (job : Job) (v : VmId) (vm : VM) : Exec where
  j := p.jobId
  v := v
  type := job.type
  target := job.metadata.targetVmid
  x := vm.core
  stage := .entry

/-- The protocol of the worker. -/
inductive WorkerT : WorkerPhase → (e : Eff) → Ans e → WorkerPhase → Prop
  | jobMissing (p : Payload) : WorkerT (.fetched p) (.getJob p.jobId) none .over
  | job {p : Payload} (job : Job) : p.vmId.isSome = true →
      WorkerT (.fetched p) (.getJob p.jobId) (some job) (.gotJob p job)
  | jobAlone {p : Payload} (job : Job) : p.vmId = none →
      WorkerT (.fetched p) (.getJob p.jobId) (some job) (.noVm p.jobId job)
  | vm {p : Payload} {job : Job} {v : VmId} (vm : VM) : p.vmId = some v →
      WorkerT (.gotJob p job) (.getVM v) (some vm) (.loaded p job v vm)
  | vmMissing {p : Payload} {job : Job} {v : VmId} : p.vmId = some v →
      WorkerT (.gotJob p job) (.getVM v) none (.noVm p.jobId job)
  | orphan {j : JobId} {job : Job} :
      WorkerT (.noVm j job) (.commit ⟨[⟨j, job, job.running⟩], []⟩) () (.orphan j)
  | orphanFailed {j : JobId} {b c : Job} : b.status = .running → c.status = .failed →
      WorkerT (.orphan j) (.commit ⟨[⟨j, b, c⟩], []⟩) () .over
  | enter {p : Payload} {job : Job} {v : VmId} {vm : VM} :
      WorkerT (.loaded p job v vm) (.commit ⟨[⟨p.jobId, job, job.running⟩], [⟨v, vm, vm⟩]⟩) ()
        (.exec (Exec.begin p job v vm))
  | quiet {w : Exec} {e : Eff} {r : Ans e} : IsRead (some w.caller) e →
      WorkerT (.exec w) e r (.exec w)
  /-- the agent names no address -/
  | silent {w : Exec} {out : HttpOutcome} {node : String} {n : Int} : ipOf out = none →
      WorkerT (.exec w) (.http (some w.caller) (.networkInterfaces node n)) out (.exec w)
  | refused {w : Exec} (ip : String) : WorkerT (.exec w) (.ssh w.v ip) false (.exec w)
  | call {w : Exec} {req : Req} {out : HttpOutcome} : Calls w req →
      WorkerT (.exec w) (.http (some w.caller) req) out (.exec w)
  | learn {w : Exec} {e : Eff} {r : Ans e} {stage : Stage} : Learns w e r stage →
      WorkerT (.exec w) e r (.exec { w with stage })
  | edit {w : Exec} {f : Flush} {stage : Stage} {x : Core} {target : Option Int} :
      Edit w stage x target → Commits w f .running target x →
      WorkerT (.exec w) (.commit f) () (.exec { w with stage, x, target })
  | fail {w : Exec} {f : Flush} : w.stage.raises = true → w.type ≠ .sshReadinessCheck →
      Commits w f .failed w.target { w.x with status := .error } →
      WorkerT (.exec w) (.commit f) () .over
  | finish {w : Exec} {f : Flush} : w.stage = .settled → Commits w f .success w.target w.x →
      WorkerT (.exec w) (.commit f) () (if w.type.followedUp then .succeeded w.v else .over)
  | insert {v : VmId} {job : Job} {j : JobId} :
      job.core = ⟨.sshReadinessCheck, .queued, some v, none⟩ →
      WorkerT (.succeeded v) (.insertJob job) j (.inserted (sshPayload j v))
  | put {p : Payload} : WorkerT (.inserted p) (.put p) () .over

/-- Where the startup stands. -/
inductive BootPhase where
  | init
  | seeded
  | recovered
  | started
  | putting (rest : List Payload) (abandoned : List (JobId × Job))
  | over

inductive BootT : BootPhase → (e : Eff) → Ans e → BootPhase → Prop
  | seed (rows : List Template → List Template) : BootT .init (.seedTemplates rows) () .seeded
  | recover : BootT .seeded .recover () .recovered
  | startWorker : BootT .recovered .startWorker () .started
  | select (jobs : List (JobId × Job)) : BootT .started .selectQueued jobs
      (.putting ((jobs.filter fun j => !j.2.type.needsPassword).map fun j => requeuePayload j.1 j.2)
        (jobs.filter fun j => j.2.type.needsPassword))
  | put {p : Payload} {rest : List Payload} {abandoned : List (JobId × Job)} :
      BootT (.putting (p :: rest) abandoned) (.put p) () (.putting rest abandoned)
  | abandon {abandoned : List (JobId × Job)} : BootT (.putting [] abandoned)
      (.commit ⟨abandoned.map fun j => ⟨j.1, j.2, abandonJob j.2⟩, []⟩) () .over

/-- Where a request stands. -/
inductive RequestPhase where
  | init
  /-- `create_vm` holds its lock -/
  | locked
  /-- it holds the lock, and has found no live record with the hostname -/
  | vacant (hostname : String)
  | created (p : Payload)
  /-- the endpoint's checks of the VM are passed -/
  | accepted (type : JobType) (v : VmId)
  | recheck (v : VmId) (vm : VM)
  | marked (v : VmId)
  /-- the job is in the database and its payload is due -/
  | inserted (p : Payload)
  | over
  deriving DecidableEq

/-- What the endpoint checks of the record before it takes a job of this type. -/
def Core.accepts (x : Core) : JobType → Bool
  | .startVm => x.deletedAt.isNone && (x.status = .stopped || x.status = .error) && x.vmid.isSome
  | .stopVm | .rebootVm => x.deletedAt.isNone && x.status = .running
  | .reinstallVm | .deleteVm => x.deletedAt.isNone && x.status.settled
  | _ => false

inductive RequestT : RequestPhase → (e : Eff) → Ans e → RequestPhase → Prop
  | quiet {φ : RequestPhase} {e : Eff} {r : Ans e} : IsRead none e → RequestT φ e r φ
  | refused (v : VmId) (r : Option VM) : RequestT .init (.getVM v) r .over
  | accept {v : VmId} {vm : VM} {type : JobType} : vm.core.accepts type = true →
      RequestT .init (.getVM v) (some vm) (.accepted type v)
  | recheck {v : VmId} {vm : VM} : vm.deletedAt = none → vm.status = .running →
      RequestT .init (.getVM v) (some vm) (.recheck v vm)
  | mark {v : VmId} {vm : VM} : RequestT (.recheck v vm)
      (.commit ⟨[], [⟨v, vm, { vm with sshStatus := .pending }⟩]⟩) () (.marked v)
  | insert {v : VmId} {type : JobType} {job : Job} {j : JobId} {p : Payload} :
      job.core = ⟨type, .queued, some v, none⟩ → p.type = type → p.jobId = j → p.vmId = some v →
      RequestT (.accepted type v) (.insertJob job) j (.inserted p)
  | insertCheck {v : VmId} {job : Job} {j : JobId} :
      job.core = ⟨.sshReadinessCheck, .queued, some v, none⟩ →
      RequestT (.marked v) (.insertJob job) j (.inserted (sshPayload j v))
  | lock : RequestT .init .lock () .locked
  | vacant {hostname : String} : hostname.toLower = hostname →
      RequestT .locked (.selectLiveHostname hostname) none (.vacant hostname)
  | create {hostname : String} {vm : VM} {job : Job} {v : VmId} {j : JobId} {p : Payload} :
      vm.core = ⟨.creating, .pending, none, none, none, hostname⟩ →
      job.core = ⟨.createVm, .queued, none, none⟩ →
      p.type = .createVm → p.jobId = j → p.vmId = some v →
      RequestT (.vacant hostname) (.insertVM vm job) (v, j) (.created p)
  | giveUp : RequestT .locked .unlock () .over
  | giveUpVacant {hostname : String} : RequestT (.vacant hostname) .unlock () .over
  | unlock {p : Payload} : RequestT (.created p) .unlock () (.inserted p)
  | put {p : Payload} : RequestT (.inserted p) (.put p) () .over

/-- Phases in which a request may end: it owes nothing. -/
def RequestPhase.Idle : RequestPhase → Prop
  | init | accepted .. | recheck .. | .over => True
  | _ => False

end Clusteration
