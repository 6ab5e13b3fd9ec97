import Clusteration.Panel.Worker

open Async

namespace Clusteration

/-- The types whose root password is not stored, so that a restart cannot resume them. -/
def JobType.needsPassword : JobType → Bool
  | createVm | reinstallVm => true
  | _ => false

def requeuePayload (j : JobId) (job : Job) : Payload :=
  { type := job.type, jobId := j, vmId := job.vmId }

/-- The row of a queued job that `requeue_queued_jobs` gives up. -/
def abandonJob (job : Job) : Job :=
  { job with
    status := .failed
    error := some (s!"job {job.type.value} pendente não pode ser retomado porque a senha root"
      ++ " não é persistida") }

/-- `await enqueue(p)` for each of the payloads. -/
def putAll : List Payload → Prog Eff Ans Unit → Prog Eff Ans Unit
  | [], next => next
  | p :: ps, next => .await (.put p) fun _ => putAll ps next

def requeueQueuedJobs : Prog Eff Ans Unit :=
  .await .selectQueued fun jobs =>
    let abandoned := jobs.filter fun j => j.2.type.needsPassword
    let resumed := jobs.filter fun j => !j.2.type.needsPassword
    putAll (resumed.map fun j => requeuePayload j.1 j.2)
      (.await (.commit ⟨abandoned.map fun j => ⟨j.1, j.2, abandonJob j.2⟩, []⟩) fun _ => .ret ())

/-- `lifespan` up to its `yield`. -/
def lifespan (settings : Settings) : Prog Eff Ans Unit :=
  .await (.seedTemplates (seedTemplates settings)) fun _ =>
    .await .recover fun _ =>
      .await .startWorker fun _ => requeueQueuedJobs

end Clusteration
