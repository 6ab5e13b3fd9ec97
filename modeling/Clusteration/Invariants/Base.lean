import Clusteration.Invariants.Stages
import Clusteration.Invariants.View

namespace Clusteration

def BootPhase.early : BootPhase → Bool
  | init | seeded | recovered | started => true
  | _ => false

/-- The queued jobs have not been selected yet. -/
def View.Early (m : View) : Prop := m.alive = false ∨ m.boot.early = true

/-- Jobs and VMs may still be as the last process left them. -/
def View.Unrecovered (m : View) : Prop := m.alive = false ∨ m.boot = .init ∨ m.boot = .seeded

def View.Open (m : View) : Prop := m.alive = true ∧ m.boot = .over

def WorkerPhase.payloads : WorkerPhase → List Payload
  | fetched p | gotJob p _ | loaded p _ _ _ | inserted p => [p]
  | _ => []

def BootPhase.payloads : BootPhase → List Payload
  | putting rest _ => rest
  | _ => []

def BootPhase.abandoned : BootPhase → List (JobId × Job)
  | putting _ abandoned => abandoned
  | _ => []

def RequestPhase.payloads : RequestPhase → List Payload
  | created p | inserted p => [p]
  | _ => []

def View.payloads (m : View) : List Payload :=
  m.queue ++ (m.worker.payloads ++ (m.boot.payloads ++ m.requests.flatMap RequestPhase.payloads))

/-- The queued jobs somebody is going to run, or to give up. -/
def View.held (m : View) : List JobId :=
  m.payloads.map Payload.jobId ++ m.boot.abandoned.map Prod.fst

def View.queuedCount (m : View) (i : JobId) : Nat :=
  if (m.jobs i).any fun c => c.status = .queued then 1 else 0

/-- The creation of `v` is still to be run. -/
def View.Fresh (m : View) (v : VmId) : Prop :=
  ∃ i c, m.jobs i = some c ∧ c.type = .createVm ∧ c.status = .queued ∧ c.vmId = some v

/-- A record whose creation has been run. -/
structure View.Known (m : View) (v : VmId) : Prop where
  row : ∃ x, m.vms v = some x
  run : ¬ m.Fresh v

def Payload.Matches (p : Payload) (m : View) : Prop :=
  ∃ v, p.vmId = some v ∧ m.jobs p.jobId = some ⟨p.type, .queued, some v, none⟩

/-- The job rows and the record of the job the worker runs. -/
structure Exec.Holds (w : Exec) (m : View) : Prop where
  ok : w.Ok
  job : m.jobs w.j = some ⟨w.type, .running, some w.v, w.target⟩
  row : ∃ row, m.vms w.v = some row ∧ w.x.Agrees row

def WorkerPhase.Holds (m : View) : WorkerPhase → Prop
  | noVm _ _ | orphan _ => False
  | gotJob p job => m.jobs p.jobId = some job.core
  | loaded p job v vm => m.jobs p.jobId = some job.core ∧ p.vmId = some v ∧
      ∃ row, m.vms v = some row ∧ vm.core.Agrees row
  | exec w => w.Holds m
  | succeeded v => m.Known v
  | .over | fetched _ | inserted _ => True

def RequestPhase.Holds (m : View) : RequestPhase → Prop
  | accepted type v => m.Known v ∧ type ≠ .createVm ∧ type ≠ .sshReadinessCheck
  | recheck v _ | marked v => m.Known v
  | _ => True

/-- The invariant every run keeps. -/
structure Base (m : View) : Prop where
  dead : m.alive = false → m.boot = .over
  early : m.Early → m.worker = .over ∧ m.queue = []
  closed : ¬ m.Open → m.requests = []
  refs : ∀ {i c}, m.jobs i = some c → (c.status = .queued → c.target = none) ∧
    ∃ v x, c.vmId = some v ∧ m.vms v = some x
  counts : ¬ m.Early → ∀ i, m.held.count i = m.queuedCount i
  carried : ∀ {p}, p ∈ m.payloads → p.Matches m ∧ (¬ m.Open → p.type.needsPassword = false)
  abandoned : ∀ {j}, j ∈ m.boot.abandoned → m.jobs j.1 = some j.2.core ∧ j.2.status = .queued ∧
    j.2.type.needsPassword = true
  running : ∀ {i c}, m.jobs i = some c → c.status = .running →
    m.Unrecovered ∨ ∃ w, m.worker = .exec w ∧ w.j = i
  single : ∀ {i i' c c'}, m.jobs i = some c → m.jobs i' = some c' → c.status = .running →
    c'.status = .running → i = i'
  worker : m.worker.Holds m
  requests : ∀ {φ}, φ ∈ m.requests → φ.Holds m
  fresh : ∀ {i c v}, m.jobs i = some c → c.type = .createVm → c.status = .queued →
    c.vmId = some v → (∀ i' c', m.jobs i' = some c' → c'.vmId = some v → i' = i) ∧
      ∃ x, m.vms v = some x ∧ x.vmid = none ∧ x.deletedAt = none ∧ (m.Open → x.status = .creating)
  transient : ∀ {v x}, m.vms v = some x → x.deletedAt = none → x.status.transient = true →
    m.Unrecovered ∨ (m.Open ∧ m.Fresh v) ∨
      ∃ w, m.worker = .exec w ∧ w.v = v ∧ w.type ≠ .sshReadinessCheck

end Clusteration
