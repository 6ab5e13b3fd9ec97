import Clusteration.Panel.Lifecycle

open Async

namespace Clusteration

/-- `payload["root_password"]`. -/
def rootPassword (payload : Payload) : Work String :=
  match payload.rootPassword with
  | some password => pure password
  | none => throw (.keyError "root_password")

/-- `payload.get("template") or (job.meta or {}).get("template")`. -/
def reinstallTemplate (payload : Payload) (metadata : JobMeta) : Option String :=
  match payload.template with
  | some os => if os = "" then metadata.template else some os
  | none => metadata.template

def succeed (c : Caller) : Work Unit := do
  setJob fun job => { job with status := .success }
  commit c

/-- The readiness check that follows a job which booted the guest. -/
def followUp (c : Caller) : Work Unit := do
  let sshJob ← enqueueSshCheck c.vm
  Task.await (Eff.put { type := .sshReadinessCheck, jobId := sshJob, vmId := some c.vm })

/-- The `try` body of `dispatch`, for a job that has its VM. -/
def execute (settings : Settings) (payload : Payload) (c : Caller) (job : Job) : Work Unit :=
  match job.type with
  | .createVm => do
    let password ← rootPassword payload
    createVmJob settings c password
    succeed c
    followUp c
  | .reinstallVm => do
    let password ← rootPassword payload
    reinstallVmJob settings c password (reinstallTemplate payload job.metadata)
    succeed c
    followUp c
  | .startVm | .stopVm | .rebootVm => do
    powerJob c job.type
    succeed c
    if job.type.bootsVm then followUp c else pure ()
  | .deleteVm => do
    deleteVmJob c
    succeed c
  | .sshReadinessCheck => do
    let _ ← checkSshReady c
    succeed c

/-- `sanitize_job_error`. -/
def sanitizeJobError (exc : Exc) : String :=
  let message := if exc.str = "" then exc.className else exc.str
  String.ofList (message.toList.take 500)

/-- The `except Exception` of `dispatch`. -/
def jobFailed (c : Caller) (exc : Exc) : Work Unit := do
  setVm fun vm => { vm with status := .error }
  setJob fun job => { job with status := .failed, error := some (sanitizeJobError exc) }
  commit c

/-- `dispatch`, once both rows are loaded. -/
def runJob (settings : Settings) (payload : Payload) (c : Caller) (job : Job) : Work Unit := do
  setJob fun job => { job with status := .running }
  commit c
  tryCatch (execute settings payload c job) (jobFailed c)

/-- `dispatch`, for a job whose VM row is not there: it is marked as running and fails at once. -/
def dispatchWithoutVm (j : JobId) (job : Job) : Prog Eff Ans Unit :=
  let running : Job := { job with status := .running }
  let failed : Job :=
    { running with status := .failed, error := some (sanitizeJobError (.runtimeError "VM não encontrada")) }
  .await (.commit ⟨[⟨j, job, running⟩], []⟩) fun _ =>
    .await (.commit ⟨[⟨j, running, failed⟩], []⟩) fun _ => .ret ()

def dispatch (settings : Settings) (payload : Payload) : Prog Eff Ans Unit :=
  .await (.getJob payload.jobId) fun
    | none => .ret ()
    | some job =>
      match payload.vmId with
      | none => dispatchWithoutVm payload.jobId job
      | some v => .await (.getVM v) fun
        | none => dispatchWithoutVm payload.jobId job
        | some vm =>
          (runJob settings payload ⟨payload.jobId, v⟩ job ⟨job, job, vm, vm⟩).bind fun _ => .ret ()

end Clusteration
