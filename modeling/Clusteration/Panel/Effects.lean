import Clusteration.Panel.Cluster
import Clusteration.Panel.Terminal

namespace Clusteration

/-- The awaits of the panel's coroutines. Each is one atomic action on the shared state. A session
refresh has no effect on it and is left out, and so is a sleep outside the loops that watch the
clock. -/
inductive Eff where
  | getJob (id : JobId)
  | getVM (id : VmId)
  | selectTemplate (os : String)
  /-- `select(VM).where(lower(hostname) == h, deleted_at is null)` -/
  | selectLiveHostname (h : String)
  /-- `db.commit()` of the session's changed objects -/
  | commit (f : Flush)
  /-- `db.add(job); db.commit()` -/
  | insertJob (job : Job)
  /-- `db.add(vm); db.flush(); db.add(job); db.commit()`: both rows in one transaction -/
  | insertVM (vm : VM) (job : Job)
  | put (p : Payload)
  | http (caller : Option Caller) (req : Req)
  /-- `loop.time()`, in milliseconds -/
  | time
  /-- `asyncio.sleep`, in milliseconds -/
  | sleep (ms : Nat)
  /-- an await that nothing ever ends -/
  | forever
  | utcnow
  /-- `asyncssh.connect`, on behalf of a VM's readiness check -/
  | connect (vm : VmId) (ip : String)
  /-- `conn.create_process`: did it come to a terminal? -/
  | ssh (vm : VmId) (ip : String)
  /-- `TerminalProcess.close` -/
  | closeConnection (conn : ConnId)
  | lock
  | unlock
  | seedTemplates (rows : List Template → List Template)
  | recover
  | startWorker
  /-- `select(Job).where(status == queued)`, in any order -/
  | selectQueued

/-- What each await answers. -/
abbrev Ans : Eff → Type
  | .getJob _ => Option Job
  | .getVM _ => Option VM
  | .selectTemplate _ => Option Template
  | .selectLiveHostname _ => Option VM
  | .commit _ => Unit
  | .insertJob _ => JobId
  | .insertVM _ _ => VmId × JobId
  | .put _ => Unit
  | .http _ _ => HttpOutcome
  | .time => Nat
  | .sleep _ => Unit
  | .forever => Empty
  | .utcnow => Nat
  | .connect _ _ => Option ConnId
  | .ssh _ _ => Bool
  | .closeConnection _ => Unit
  | .lock => Unit
  | .unlock => Unit
  | .seedTemplates _ => Unit
  | .recover => Unit
  | .startWorker => Unit
  | .selectQueued => List (JobId × Job)

/-- What the history of a run records. It is written for the statements about runs; no code
reads it. -/
inductive Ev where
  /-- the worker called `dispatch` for the job -/
  | dispatch (j : JobId)
  /-- `dispatch` committed the job as running, with the VM row as it was then -/
  | enter (j : JobId) (row : Option VM)
  /-- an attempt of a state-changing request was sent, with the guest its VMID named -/
  | call (caller : Option Caller) (req : Req) (guest : Option Guest)
  | boot (n : Int)
  /-- the script that resets the machine-id ran in guest `n` -/
  | renew (n : Int)
  /-- the agent of guest `n` answered with this address -/
  | report (n : Int) (ip : String)
  | sshOk (v : VmId) (ip : String)
  /-- `loop.time()` was read -/
  | time (now : Nat)

/-- Everything the coroutines share: the database and Proxmox outlive a crash, the queue, the
lock and the worker do not. -/
structure Shared where
  db : Db := {}
  pve : Cluster := {}
  queue : List Payload := []
  locked : Bool := false
  workerOn : Bool := false
  hist : List Ev := []

/-- `mark_orphaned_running_as_failed`: the rows its commit leaves. -/
def markOrphanedRunningAsFailed (db : Db) : Db :=
  let jobs := db.jobs.select fun job => job.status = .running
  let failed := db.jobs.rewrite fun _ job =>
    if job.status = .running then
      { job with status := .failed, error := some "job interrompido por restart do serviço" }
    else job
  let adopted := jobs.foldl (fun (vms : Table VM) j =>
    match db.jobs.get j with
    | none => vms
    | some job => match job.vmId, job.metadata.targetVmid with
      | some v, some target =>
        if target = 0 then vms
        else vms.update v fun vm =>
          if vm.proxmoxVmid = none then
            { vm with proxmoxVmid := some target
                      node := match job.metadata.node with
                        | some node => if node = "" then vm.node else node
                        | none => vm.node }
          else vm
      | _, _ => vms) db.vms
  let vms := adopted.rewrite fun _ vm =>
    if vm.status.transient && vm.deletedAt.isNone then { vm with status := .error } else vm
  { db with jobs := failed, vms }

/-- The environment's part in an await. -/
inductive In where
  | none
  | http (i : HttpIn)
  | nat (n : Nat)
  | ssh (ok : Bool)
  | order (jobs : List JobId)

/-- The history a commit writes: `dispatch` marks a job as running in exactly one place. -/
def enterEvents (db : Db) (f : Flush) : List Ev :=
  f.jobs.filterMap fun d =>
    if d.base.status ≠ .running ∧ d.cur.status = .running then
      some (.enter d.key (d.base.vmId.bind db.vms.get))
    else none

/-- The history one attempt of a request writes. -/
def httpEvents (pve : Cluster) (caller : Option Caller) (req : Req) (i : HttpIn) : List Ev :=
  match req with
  | .networkInterfaces _ n => ((ipOf i.out).map (Ev.report n)).toList
  | req =>
    if req.isGet then []
    else (if i.boots req then (req.target.map Ev.boot).toList else []) ++
      ((if i.renews req then (req.target.map Ev.renew).toList else []) ++
        [Ev.call caller req (req.target.bind pve.find)])

/-- One await. `none`: it cannot end this way in this state. -/
def perform (s : Shared) : (e : Eff) → In → Option (Ans e × Shared)
  | .getJob id, .none => some (s.db.jobs.get id, s)
  | .getVM id, .none => some (s.db.vms.get id, s)
  | .selectTemplate os, .none => some (s.db.templates.find? fun t => t.os = os, s)
  | .selectLiveHostname h, .none =>
    some (s.db.vms.rows.find? fun vm => vm.hostname.toLower = h && vm.deletedAt.isNone, s)
  | .commit f, .none =>
    some ((), { s with db := s.db.flush f, hist := enterEvents s.db f ++ s.hist })
  | .insertJob job, .none =>
    some (s.db.jobs.next, { s with db := { s.db with jobs := s.db.jobs.insert job } })
  | .insertVM vm job, .none =>
    some ((s.db.vms.next, s.db.jobs.next),
      { s with db := { s.db with
          vms := s.db.vms.insert vm
          jobs := s.db.jobs.insert { job with vmId := some s.db.vms.next } } })
  | .put p, .none => some ((), { s with queue := s.queue ++ [p] })
  | .http caller req, .http i => (s.pve.serve caller req i).map fun pve =>
    (i.out, { s with pve, hist := httpEvents s.pve caller req i ++ s.hist })
  | .time, .nat now => some (now, { s with hist := .time now :: s.hist })
  | .sleep _, .none => some ((), s)
  | .utcnow, .nat n => some (n, s)
  | .connect _ _, .nat conn => some (some conn, s)
  | .connect _ _, .none => some (none, s)
  | .closeConnection _, .none => some ((), s)
  | .ssh v ip, .ssh ok =>
    some (ok, if ok then { s with hist := .sshOk v ip :: s.hist } else s)
  | .lock, .none => if s.locked then none else some ((), { s with locked := true })
  | .unlock, .none => some ((), { s with locked := false })
  | .seedTemplates rows, .none =>
    some ((), { s with db := { s.db with templates := rows s.db.templates } })
  | .recover, .none => some ((), { s with db := markOrphanedRunningAsFailed s.db })
  | .startWorker, .none => some ((), { s with workerOn := true })
  | .selectQueued, .order l =>
    if l.isPerm (s.db.jobs.select fun job => job.status = .queued) then
      some (l.filterMap fun j => (s.db.jobs.get j).map fun job => (j, job), s)
    else none
  | _, _ => none

/-- The await `e` takes the shared state from `s` to `s'` and answers `r`. -/
def Act (s : Shared) (e : Eff) (r : Ans e) (s' : Shared) : Prop :=
  ∃ i, perform s e i = some (r, s')

end Clusteration
