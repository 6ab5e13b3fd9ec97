import Mathlib.Logic.Function.Basic
import Clusteration.Protocol.Refinement

namespace Clusteration

/-- What the invariants speak of: the phases of the coroutines, the queue, the columns of the rows
that decisions rest on, Proxmox and the history. -/
@[ext]
structure View where
  alive : Bool
  boot : BootPhase
  worker : WorkerPhase
  requests : List RequestPhase
  queue : List Payload
  jobs : JobId → Option JobCore
  vms : VmId → Option Core
  pve : Cluster
  hist : List Ev

def Abs.view (t : Abs) : View where
  alive := t.alive
  boot := t.boot
  worker := t.worker
  requests := t.requests
  queue := t.shared.queue
  jobs := fun i => (t.shared.db.jobs.get i).map Job.core
  vms := fun v => (t.shared.db.vms.get v).map VM.core
  pve := t.shared.pve
  hist := t.shared.hist

/-- A commit brings the row to the session's columns; only an SSH column the session did not change
may have been set to `pending` by a re-check. -/
def Core.written (x x' row : Core) : Core := { x' with ssh := if x'.ssh = x.ssh then row.ssh else x'.ssh }

/-- `mark_orphaned_running_as_failed`: a VM, whose running job had the target `adopted`. -/
def Core.recovered (adopted : Option Int) (x : Core) : Core :=
  { x with
    status := if x.status.transient && x.deletedAt.isNone then .error else x.status
    vmid := x.vmid <|> adopted }

/-- `mark_orphaned_running_as_failed`: a job. -/
def JobCore.interrupted (c : JobCore) : JobCore :=
  if c.status = .running then { c with status := .failed } else c

/-- Events a reading await may leave. -/
def Ev.Quiet : Ev → Prop
  | .time _ => True
  | _ => False

/-- The turns of a request that change no row. -/
inductive Turn (m : View) : RequestPhase → RequestPhase → Prop
  | refused : Turn m .init .over
  | accept {v : VmId} {x : Core} {type : JobType} : m.vms v = some x → x.accepts type = true →
      Turn m .init (.accepted type v)
  | recheck {v : VmId} {vm : VM} : m.vms v = some vm.core → vm.deletedAt = none →
      vm.status = .running → Turn m .init (.recheck v vm)
  | lock : Turn m .init .locked
  | vacant {hostname : String} : hostname.toLower = hostname →
      (∀ v x, m.vms v = some x → x.deletedAt = none → x.hostname.toLower ≠ hostname) →
      Turn m .locked (.vacant hostname)
  | giveUp : Turn m .locked .over
  | giveUpVacant {hostname : String} : Turn m (.vacant hostname) .over
  | unlock {p : Payload} : Turn m (.created p) (.inserted p)

/-- The request is about to add a job of this type. -/
inductive RequestPhase.Adds : RequestPhase → JobType → VmId → Prop
  | accepted (type : JobType) (v : VmId) : Adds (.accepted type v) type v
  | marked (v : VmId) : Adds (.marked v) .sshReadinessCheck v

open Function in
/-- The steps of the panel, seen from the invariants. -/
inductive Move : View → Label → View → Prop
  | crash {m : View} : m.alive = true →
      Move m .crash
        { m with alive := false, boot := .over, worker := .over, requests := [], queue := [] }
  | restart {m : View} (settings : Settings) : m.alive = false →
      Move m (.restart settings) { m with alive := true, boot := .init, worker := .over, requests := [] }
  | get {m : View} {p : Payload} {rest : List Payload} : m.alive = true → m.worker = .over →
      m.queue = p :: rest →
      Move m (.get p) { m with queue := rest, worker := .fetched p, hist := .dispatch p.jobId :: m.hist }
  | receive {m : View} (r : Request) : m.alive = true → m.boot = .over →
      Move m (.receive r) { m with requests := m.requests ++ [.init] }
  /-- an await that only reads -/
  | observe {m : View} {t : Thread} {e : Eff} {a : Ans e} (evs : List Ev) :
      (∀ ev ∈ evs, ev.Quiet) → Move m (.await t e a) { m with hist := evs ++ m.hist }
  | seed {m : View} {e : Eff} {a : Ans e} : m.alive = true → m.boot = .init →
      Move m (.await .boot e a) { m with boot := .seeded }
  | recover {m : View} (adopted : VmId → Option Int) : m.alive = true → m.boot = .seeded →
      (∀ v n, adopted v = some n ↔ ∃ i c, m.jobs i = some c ∧ c.status = .running ∧
        c.vmId = some v ∧ c.target = some n ∧ n ≠ 0) →
      Move m (.await .boot .recover ())
        { m with
          boot := .recovered
          jobs := fun i => (m.jobs i).map JobCore.interrupted
          vms := fun v => (m.vms v).map (Core.recovered (adopted v)) }
  | startWorker {m : View} : m.alive = true → m.boot = .recovered →
      Move m (.await .boot .startWorker ()) { m with boot := .started }
  | select {m : View} {jobs : List (JobId × Job)} : m.alive = true → m.boot = .started →
      (∀ j ∈ jobs, m.jobs j.1 = some j.2.core ∧ j.2.status = .queued) →
      (jobs.map Prod.fst).Nodup →
      (∀ i c, m.jobs i = some c → c.status = .queued → i ∈ jobs.map Prod.fst) →
      Move m (.await .boot .selectQueued jobs)
        { m with
          boot := .putting
            ((jobs.filter fun j => !j.2.type.needsPassword).map fun j => requeuePayload j.1 j.2)
            (jobs.filter fun j => j.2.type.needsPassword) }
  | requeue {m : View} {p : Payload} {rest : List Payload} {abandoned : List (JobId × Job)} :
      m.alive = true → m.boot = .putting (p :: rest) abandoned →
      Move m (.await .boot (.put p) ())
        { m with boot := .putting rest abandoned, queue := m.queue ++ [p] }
  | abandon {m : View} {abandoned : List (JobId × Job)} {f : Flush} : m.alive = true →
      m.boot = .putting [] abandoned →
      Move m (.await .boot (.commit f) ())
        { m with
          boot := .over
          jobs := fun i =>
            if i ∈ abandoned.map Prod.fst then (m.jobs i).map fun c => { c with status := .failed }
            else m.jobs i }
  | job {m : View} {p : Payload} {job : Job} : m.alive = true → m.worker = .fetched p →
      m.jobs p.jobId = some job.core →
      Move m (.await .worker (.getJob p.jobId) (some job)) { m with worker := .gotJob p job }
  | vm {m : View} {p : Payload} {job : Job} {v : VmId} {vm : VM} : m.alive = true →
      m.worker = .gotJob p job → p.vmId = some v → m.vms v = some vm.core →
      Move m (.await .worker (.getVM v) (some vm)) { m with worker := .loaded p job v vm }
  | enter {m : View} {p : Payload} {job : Job} {v : VmId} {vm row : VM} {f : Flush} :
      m.alive = true → m.worker = .loaded p job v vm → m.vms v = some row.core →
      Move m (.await .worker (.commit f) ())
        { m with
          worker := .exec (Exec.begin p job v vm)
          jobs := update m.jobs p.jobId (some ⟨p.type, .running, some v, none⟩)
          hist := .enter p.jobId (some row) :: m.hist }
  | http {m : View} {w : Exec} {req : Req} {i : HttpIn} {stage : Stage} {pve : Cluster} :
      m.alive = true → m.worker = .exec w →
      (Calls w req ∧ stage = w.stage) ∨ Learns w (.http (some w.caller) req) i.out stage →
      m.pve.serve (some w.caller) req i = some pve →
      Move m (.await .worker (.http (some w.caller) req) i.out)
        { m with
          worker := .exec { w with stage }, pve
          hist := httpEvents m.pve (some w.caller) req i ++ m.hist }
  | ssh {m : View} {w : Exec} {ip : String} : m.alive = true → m.worker = .exec w →
      w.stage = .entry → w.type = .sshReadinessCheck → w.x.ip = some ip →
      Move m (.await .worker (.ssh w.v ip) true)
        { m with worker := .exec { w with stage := .reached }, hist := .sshOk w.v ip :: m.hist }
  | clock {m : View} {w : Exec} {stage : Stage} {now : Nat} : m.alive = true → m.worker = .exec w →
      Learns w .time now stage →
      Move m (.await .worker .time now)
        { m with worker := .exec { w with stage }, hist := .time now :: m.hist }
  | edit {m : View} {w : Exec} {stage : Stage} {x row : Core} {target : Option Int} {f : Flush} :
      m.alive = true → m.worker = .exec w → m.vms w.v = some row → Edit w stage x target →
      Move m (.await .worker (.commit f) ())
        { m with
          worker := .exec { w with stage, x, target }
          jobs := update m.jobs w.j (some ⟨w.type, .running, some w.v, target⟩)
          vms := update m.vms w.v (some (Core.written w.x x row)) }
  | fail {m : View} {w : Exec} {row : Core} {f : Flush} : m.alive = true → m.worker = .exec w →
      m.vms w.v = some row → w.stage.raises = true → w.type ≠ .sshReadinessCheck →
      Move m (.await .worker (.commit f) ())
        { m with
          worker := .over
          jobs := update m.jobs w.j (some ⟨w.type, .failed, some w.v, w.target⟩)
          vms := update m.vms w.v (some { row with status := .error }) }
  | finish {m : View} {w : Exec} {f : Flush} : m.alive = true → m.worker = .exec w →
      w.stage = .settled →
      Move m (.await .worker (.commit f) ())
        { m with
          worker := if w.type.followedUp then .succeeded w.v else .over
          jobs := update m.jobs w.j (some ⟨w.type, .success, some w.v, w.target⟩) }
  | follow {m : View} {v : VmId} {job : Job} {j : JobId} : m.alive = true →
      m.worker = .succeeded v → m.jobs j = none →
      Move m (.await .worker (.insertJob job) j)
        { m with
          worker := .inserted (sshPayload j v)
          jobs := update m.jobs j (some ⟨.sshReadinessCheck, .queued, some v, none⟩) }
  | followPut {m : View} {p : Payload} : m.alive = true → m.worker = .inserted p →
      Move m (.await .worker (.put p) ()) { m with worker := .over, queue := m.queue ++ [p] }
  | turn {m : View} {i : Nat} {e : Eff} {a : Ans e} {φ φ' : RequestPhase} : m.alive = true →
      m.requests[i]? = some φ → Turn m φ φ' →
      Move m (.await (.request i) e a) { m with requests := m.requests.set i φ' }
  | mark {m : View} {i : Nat} {v : VmId} {vm : VM} {row : Core} {f : Flush} : m.alive = true →
      m.requests[i]? = some (.recheck v vm) → m.vms v = some row →
      Move m (.await (.request i) (.commit f) ())
        { m with
          requests := m.requests.set i (.marked v)
          vms := update m.vms v
            (some { row with ssh := if vm.sshStatus = .pending then row.ssh else .pending }) }
  | insert {m : View} {i : Nat} {φ : RequestPhase} {type : JobType} {v : VmId} {job : Job}
      {j : JobId} {p : Payload} : m.alive = true → m.requests[i]? = some φ → φ.Adds type v →
      m.jobs j = none → job.core = ⟨type, .queued, some v, none⟩ →
      p.type = type → p.jobId = j → p.vmId = some v →
      Move m (.await (.request i) (.insertJob job) j)
        { m with
          requests := m.requests.set i (.inserted p)
          jobs := update m.jobs j (some job.core) }
  | create {m : View} {i : Nat} {hostname : String} {v : VmId} {j : JobId} {vm : VM} {job : Job}
      {p : Payload} :
      m.alive = true → m.requests[i]? = some (.vacant hostname) → m.vms v = none → m.jobs j = none →
      p.type = .createVm → p.jobId = j → p.vmId = some v →
      Move m (.await (.request i) (.insertVM vm job) (v, j))
        { m with
          requests := m.requests.set i (.created p)
          vms := update m.vms v (some ⟨.creating, .pending, none, none, none, hostname⟩)
          jobs := update m.jobs j (some ⟨.createVm, .queued, some v, none⟩) }
  | put {m : View} {i : Nat} {p : Payload} : m.alive = true →
      m.requests[i]? = some (.inserted p) →
      Move m (.await (.request i) (.put p) ())
        { m with requests := m.requests.set i .over, queue := m.queue ++ [p] }

end Clusteration
