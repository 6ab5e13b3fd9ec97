import Clusteration.Protocol.Waiting

open Async Task

namespace Clusteration

variable {α : Type} {w : World} {settings : Settings} {c : Caller}

theorem prompt_exceptTimeout {t : Work α} {h : Exc → Work α} (ht : Prompt w t)
    (hh : ∀ x, Prompt w (h x)) : Prompt w (exceptTimeout t h) := by
  apply waits_catch ht
  intro x
  cases x with
  | proxmoxTimeoutError text => exact hh _
  | _ => exact waits_raise _

theorem prompt_theVm : Prompt w theVm := by
  apply waits_bind waits_session
  intro s
  exact waits_pure _

theorem prompt_setVm (f : VM → VM) : Prompt w (setVm f) := waits_assign _

theorem prompt_setJob (f : Job → Job) : Prompt w (setJob f) := waits_assign _

theorem prompt_commit : Prompt w (commit c) := by
  apply waits_bind waits_session
  intro s
  apply waits_bind (prompt_await rfl)
  intro _
  exact waits_assign _

theorem prompt_setJobMeta (patch : JobMeta) : Prompt w (setJobMeta c patch) := by
  apply waits_bind (prompt_setJob _)
  intro _
  exact prompt_commit

/-- Columns of the VM's row are set and written. -/
theorem prompt_write {f : VM → VM} {t : Work α} (ht : Prompt w t) :
    Prompt w (do setVm f; commit c; t) := by
  apply waits_bind (prompt_setVm f)
  intro _
  apply waits_bind prompt_commit
  intro _
  exact ht

theorem prompt_note {patch : JobMeta} {t : Work α} (ht : Prompt w t) :
    Prompt w (do setJobMeta c patch; t) := by
  apply waits_bind (prompt_setJobMeta patch)
  intro _
  exact ht

/-- A request that Proxmox takes as a task, a note of it and the wait for its end. -/
theorem prompt_task {req : Req} {node : String} {patch : JobMeta} {t : Work α} (ht : Prompt w t) :
    Prompt w (do
      let upid ← ProxmoxClient.request (some c) req
      setJobMeta c patch
      let _ ← ProxmoxClient.waitForTask (some c) node upid
      t) := by
  apply waits_bind (ProxmoxClient.prompt_request req)
  intro upid
  apply prompt_note
  apply waits_bind (ProxmoxClient.prompt_waitForTask node upid)
  intro _
  exact ht

theorem prompt_withVm {f : VM → Work α} (hf : ∀ vm, Prompt w (f vm)) :
    Prompt w (do let vm ← theVm; f vm) :=
  waits_bind prompt_theVm hf

theorem prompt_ensureDiskSize (vmid : Int) (phase : String) :
    Prompt w (ensureDiskSize c vmid phase) := by
  apply prompt_note
  apply prompt_withVm
  intro vm
  apply waits_bind (ProxmoxClient.prompt_vmDiskSizeGb vm.node vmid)
  intro currentGb
  cases currentGb with
  | some currentGb =>
    dsimp only
    split
    · split
      · apply waits_bind (prompt_setVm _)
        intro _
        exact prompt_setJobMeta _
      · exact waits_pure _
    · apply waits_bind (ProxmoxClient.prompt_request _)
      intro _
      exact prompt_setJobMeta _
  | none =>
    apply waits_bind
    · apply prompt_exceptProxmox
      · apply waits_bind (ProxmoxClient.prompt_request _)
        intro _
        exact waits_pure _
      · intro exc
        exact waits_pure _
    intro refused
    cases refused with
    | some exc => exact prompt_setJobMeta _
    | none => exact prompt_setJobMeta _

theorem prompt_cloneTemplate (template : Template) (phase : String) :
    Prompt w (cloneTemplate settings c template phase) := by
  apply prompt_write
  apply prompt_note
  apply waits_bind (ProxmoxClient.prompt_resolveTemplateNode _ _)
  intro node
  apply prompt_write
  apply prompt_note
  apply waits_bind ProxmoxClient.prompt_nextId
  intro newVmid
  apply prompt_withVm
  intro vm
  apply prompt_task
  apply prompt_write
  exact waits_pure newVmid

theorem prompt_bootClone (rootPassword phase : String) (newVmid : Int) :
    Prompt w (bootClone settings c rootPassword phase newVmid) := by
  apply prompt_note
  apply prompt_withVm
  intro vm
  apply waits_bind (ProxmoxClient.prompt_request _)
  intro _
  apply waits_bind (prompt_ensureDiskSize newVmid phase)
  intro _
  apply prompt_withVm
  intro vm
  apply prompt_task
  apply waits_bind (prompt_setVm _)
  intro _
  exact prompt_commit

theorem prompt_firstIp (phase : String) (newVmid : Int) : Prompt w (firstIp c phase newVmid) := by
  apply prompt_exceptTimeout
  · apply prompt_withVm
    intro vm
    apply prompt_note
    apply waits_bind (ProxmoxClient.prompt_waitForIp vm.node newVmid 600)
    intro ip
    apply prompt_write
    exact waits_pure true
  · intro exc
    apply waits_bind (prompt_setVm _)
    intro _
    apply prompt_note
    apply waits_bind prompt_commit
    intro _
    exact waits_pure false

theorem prompt_resetIdentity (phase : String) (newVmid : Int) :
    Prompt w (resetIdentity c phase newVmid) := by
  apply waits_bind
  · apply prompt_exceptProxmox
    · apply prompt_withVm
      intro vm
      apply prompt_note
      apply waits_bind (ProxmoxClient.prompt_resetMachineId vm.node newVmid)
      intro _
      apply prompt_task
      apply prompt_note
      apply waits_bind (ProxmoxClient.prompt_waitForIp vm.node newVmid 300)
      intro ip
      apply waits_bind (prompt_setVm _)
      intro _
      exact prompt_commit
    · intro exc
      exact waits_pure _
  intro _
  apply prompt_withVm
  intro vm
  exact prompt_setJobMeta _

theorem prompt_provisionVmFromTemplate (template : Template) (rootPassword phase : String) :
    Prompt w (provisionVmFromTemplate settings c template rootPassword phase) := by
  apply waits_bind (prompt_cloneTemplate template phase)
  intro newVmid
  apply waits_bind (prompt_bootClone rootPassword phase newVmid)
  intro _
  apply waits_bind (prompt_firstIp phase newVmid)
  intro hasIp
  cases hasIp with
  | true => exact prompt_resetIdentity phase newVmid
  | false => exact waits_pure _

theorem prompt_createVmJob (rootPassword : String) :
    Prompt w (createVmJob settings c rootPassword) := by
  apply prompt_withVm
  intro vm
  apply waits_bind (prompt_await rfl)
  intro template
  cases template with
  | none => exact waits_raise _
  | some template => exact prompt_provisionVmFromTemplate template rootPassword "create"

theorem prompt_awaitAddress (operation : JobType) (op : PowerOp) (node : String) (vmid : Int) :
    Prompt w (awaitAddress c operation op node vmid) := by
  unfold awaitAddress
  split
  · apply prompt_exceptTimeout
    · apply waits_bind (ProxmoxClient.prompt_waitForIp node vmid 300)
      intro ip
      exact prompt_setVm _
    · intro exc
      apply waits_bind (prompt_setVm _)
      intro _
      exact prompt_setJobMeta _
  · exact waits_pure _

theorem prompt_powerGuest (operation : JobType) (op : PowerOp) (vmid : Int) :
    Prompt w (powerGuest c operation op vmid) := by
  apply prompt_write
  apply prompt_withVm
  intro vm
  apply waits_bind (ProxmoxClient.prompt_resolveVmNode vm.node vmid)
  intro node
  apply waits_bind (prompt_setVm _)
  intro _
  apply prompt_task
  apply waits_bind (prompt_setVm _)
  intro _
  apply waits_bind (prompt_awaitAddress operation op node vmid)
  intro _
  exact prompt_commit

theorem prompt_powerJob (operation : JobType) : Prompt w (powerJob c operation) := by
  apply prompt_withVm
  intro vm
  cases vm.proxmoxVmid with
  | none => exact waits_raise _
  | some vmid =>
    cases powerOp operation with
    | none => exact waits_raise _
    | some op => exact prompt_powerGuest operation op vmid

theorem prompt_stopIfRunning (vmid : Int) (operation : String) :
    Prompt w (stopIfRunning c vmid operation) := by
  apply prompt_exceptProxmox
  · apply prompt_withVm
    intro vm
    apply waits_bind (ProxmoxClient.prompt_request _)
    intro current
    split
    · apply prompt_task
      exact waits_pure _
    · exact waits_pure _
  · intro exc
    exact waits_pure _

theorem prompt_destroyGuest (vmid : Int) (operation : String) :
    Prompt w (destroyGuest c vmid operation) := by
  apply waits_bind
  · apply prompt_exceptProxmox
    · apply prompt_withVm
      intro vm
      apply waits_bind (ProxmoxClient.prompt_resolveVmNode vm.node vmid)
      intro node
      apply prompt_write
      exact waits_pure true
    · intro exc
      split
      · exact waits_pure _
      · exact waits_raise _
  intro found
  cases found with
  | true =>
    apply waits_bind (prompt_stopIfRunning vmid operation)
    intro _
    apply prompt_withVm
    intro vm
    apply prompt_task
    exact waits_pure _
  | false => exact waits_pure _

theorem prompt_destroyExistingVm (operation : String) : Prompt w (destroyExistingVm c operation) := by
  apply prompt_withVm
  intro vm
  cases vm.proxmoxVmid with
  | none => exact waits_pure _
  | some vmid => exact prompt_destroyGuest vmid operation

theorem prompt_deleteVmJob : Prompt w (deleteVmJob c) := by
  apply prompt_write
  apply waits_bind (prompt_destroyExistingVm "delete")
  intro _
  apply waits_bind (prompt_await rfl)
  intro now
  apply waits_bind (prompt_setVm _)
  intro _
  exact prompt_commit

theorem prompt_reinstallVmJob (rootPassword : String) (templateOs : Option String) :
    Prompt w (reinstallVmJob settings c rootPassword templateOs) := by
  apply prompt_withVm
  intro vm
  apply waits_bind (prompt_await rfl)
  intro template
  cases template with
  | none => exact waits_raise _
  | some template =>
    dsimp only
    split
    · exact waits_raise _
    · apply prompt_write
      apply waits_bind (prompt_destroyExistingVm "reinstall-destroy")
      intro _
      apply prompt_write
      exact prompt_provisionVmFromTemplate template rootPassword "reinstall"

theorem prompt_succeed : Prompt w (succeed c) := by
  apply waits_bind (prompt_setJob _)
  intro _
  exact prompt_commit

theorem prompt_followUp : Prompt w (followUp c) := by
  apply waits_bind (prompt_await rfl)
  intro sshJob
  exact prompt_await rfl

theorem prompt_jobFailed (exc : Exc) : Prompt w (jobFailed c exc) := by
  apply waits_bind (prompt_setVm _)
  intro _
  apply waits_bind (prompt_setJob _)
  intro _
  exact prompt_commit

theorem prompt_rootPassword (payload : Payload) : Prompt w (rootPassword payload) := by
  unfold rootPassword
  split
  · exact waits_pure _
  · exact waits_raise _

theorem prompt_execute (payload : Payload) {job : Job} (h : job.type ≠ .sshReadinessCheck) :
    Prompt w (execute settings payload c job) := by
  unfold execute
  cases hjob : job.type with
  | createVm =>
    apply waits_bind (prompt_rootPassword payload)
    intro password
    apply waits_bind (prompt_createVmJob password)
    intro _
    apply waits_bind prompt_succeed
    intro _
    exact prompt_followUp
  | reinstallVm =>
    apply waits_bind (prompt_rootPassword payload)
    intro password
    apply waits_bind (prompt_reinstallVmJob password _)
    intro _
    apply waits_bind prompt_succeed
    intro _
    exact prompt_followUp
  | deleteVm =>
    apply waits_bind prompt_deleteVmJob
    intro _
    exact prompt_succeed
  | sshReadinessCheck => exact absurd hjob h
  | _ =>
    apply waits_bind (prompt_powerJob _)
    intro _
    apply waits_bind prompt_succeed
    intro _
    split
    · exact prompt_followUp
    · exact waits_pure _

abbrev Talks (w : World) (t : Work α) : Prop :=
  Waits w.answer elapsed (fun _ e => e.bounded = true ∨ e.onSsh = true) t

theorem talks_of_prompt {t : Work α} (ht : Prompt w t) : Talks w t :=
  waits_mono ht fun _ _ he => Or.inl he

theorem talks_onSsh {e : Eff} (h : e.onSsh = true) :
    Talks w (Task.await e : Work (Ans e)) :=
  waits_await (fun _ => Or.inr h) fun _ _ hr => World.elapsed_le hr

theorem talks_trySsh (ip : String) : Talks w (trySsh c ip) := by
  apply waits_bind
  · apply waits_bind (talks_of_prompt (prompt_await rfl))
    intro conn
    cases conn with
    | none => exact waits_pure _
    | some conn =>
      apply waits_bind (talks_onSsh rfl)
      intro created
      exact waits_pure _
  intro term
  cases term with
  | none => exact waits_pure _
  | some conn =>
    apply waits_bind (talks_onSsh rfl)
    intro _
    exact talks_of_prompt (prompt_write (waits_pure _))

theorem talks_checkSshReady : Talks w (checkSshReady c) := by
  have hfailed : Prompt w (sshFailed c) := prompt_write (waits_pure false)
  apply waits_bind (talks_of_prompt prompt_theVm)
  intro vm
  cases vm.ipAddress with
  | none => exact talks_of_prompt hfailed
  | some ip =>
    dsimp only
    split
    · exact talks_of_prompt hfailed
    · exact ProxmoxClient.waits_pollUntil (by decide) (fun _ _ he => Or.inl he) (talks_trySsh ip)
        (talks_of_prompt hfailed)

theorem talks_execute (payload : Payload) (job : Job) : Talks w (execute settings payload c job) := by
  by_cases h : job.type = .sshReadinessCheck
  · rw [execute, h]
    apply waits_bind talks_checkSshReady
    intro ready
    exact talks_of_prompt prompt_succeed
  · exact talks_of_prompt (prompt_execute payload h)

theorem waits_runJob {P : Log Eff Ans → Eff → Prop} (hP : ∀ log e, e.bounded = true → P log e)
    {payload : Payload} {job : Job} (h : Waits w.answer elapsed P (execute settings payload c job)) :
    Waits w.answer elapsed P (runJob settings payload c job) := by
  apply waits_bind (waits_mono (prompt_setJob _) hP)
  intro _
  apply waits_bind (waits_mono prompt_commit hP)
  intro _
  apply waits_catch h
  intro exc
  exact waits_mono (prompt_jobFailed exc) hP

theorem along_dispatch {P : Log Eff Ans → Eff → Prop} (hP : ∀ log e, e.bounded = true → P log e)
    (payload : Payload)
    (h : ∀ c job, w.answer [] (.getJob payload.jobId) = some (some job) →
      Waits w.answer elapsed P (execute settings payload c job)) :
    (dispatch settings payload).Along w.answer P (fun _ _ => True) [] := by
  obtain ⟨type, jobId, vmId, rootPassword, template⟩ := payload
  constructor
  · exact hP _ (.getJob jobId) rfl
  intro found hfound
  cases found with
  | none => trivial
  | some job =>
    have hwithout : ∀ log,
        (dispatchWithoutVm jobId job).Along w.answer P (fun _ _ => True) log := by
      intro log
      exact ⟨hP _ (.commit _) rfl, fun _ _ => ⟨hP _ (.commit _) rfl, fun _ _ => trivial⟩⟩
    cases vmId with
    | none => exact hwithout _
    | some v =>
      constructor
      · exact hP _ (.getVM v) rfl
      intro row hrow
      cases row with
      | none => exact hwithout _
      | some vm =>
        have hrun := waits_runJob hP (h ⟨jobId, v⟩ job hfound)
        apply Prog.along_bind (hrun.along _ _)
        intro _ _ _
        trivial

/-- The guest's SSH server answers each `create_process` and `wait_closed` of the job. -/
def SshAnswers (w : World) (settings : Settings) (payload : Payload) : Prop :=
  (dispatch settings payload).Along w.answer
    (fun log e => e.onSsh = true → (w.answer log e).isSome = true) (fun _ _ => True) []

theorem dispatch_finishes_iff (w : World) (settings : Settings) (payload : Payload) :
    ((dispatch settings payload).play w.answer []).isSome = true ↔ SshAnswers w settings payload := by
  rw [Prog.isSome_play_iff]
  constructor
  · intro h
    exact Prog.along_mono h (fun _ _ hanswer _ => hanswer) fun _ _ _ => trivial
  · intro h
    have hawaits : (dispatch settings payload).Along w.answer
        (fun _ e => e.bounded = true ∨ e.onSsh = true) (fun _ _ => True) [] :=
      along_dispatch (fun _ _ he => Or.inl he) payload fun c job _ => talks_execute payload job
    apply Prog.along_mono (Prog.along_and h hawaits) _ fun _ _ _ => trivial
    intro log e hboth
    cases hboth.2 with
    | inl hbounded => exact w.ends log e hbounded
    | inr hssh => exact hboth.1 hssh

/-- Every job but a readiness check finishes, whatever Proxmox does. -/
theorem dispatch_finishes_of_ne (w : World) (payload : Payload)
    (h : ∀ job, w.answer [] (.getJob payload.jobId) = some (some job) →
      job.type ≠ .sshReadinessCheck) :
    ((dispatch settings payload).play w.answer []).isSome = true := by
  rw [Prog.isSome_play_iff]
  have hawaits : (dispatch settings payload).Along w.answer (fun _ e => e.bounded = true)
      (fun _ _ => True) [] :=
    along_dispatch (fun _ _ he => he) payload fun c job hjob => prompt_execute payload (h job hjob)
  exact Prog.along_mono hawaits w.ends fun _ _ _ => trivial

namespace Silent

def job : Job := { type := .sshReadinessCheck, status := .queued, vmId := some 0 }

def vm : VM := { hostname := "web", template := "debian", ipAddress := some "10.0.0.5" }

def payload : Payload := { type := .sshReadinessCheck, jobId := 0, vmId := some 0 }

def answer : Behaviour Eff Ans
  | _, .getJob _ => some (some job)
  | _, .getVM _ => some (some vm)
  | _, .selectTemplate _ => some none
  | _, .selectLiveHostname _ => some none
  | _, .commit _ => some ()
  | _, .insertJob _ => some 1
  | _, .insertVM _ _ => some (1, 1)
  | _, .put _ => some ()
  | _, .http _ _ => some (.transport "ReadError")
  | log, .time => some (elapsed log)
  | _, .sleep _ => some ()
  | _, .forever => none
  | _, .utcnow => some 0
  | _, .connect _ _ => some (some 0)
  | _, .ssh _ _ => none
  | _, .closeConnection _ => some ()
  | _, .lock => none
  | _, .unlock => some ()
  | _, .seedTemplates _ => some ()
  | _, .recover => some ()
  | _, .startWorker => some ()
  | _, .selectQueued => some []

theorem answer_ends (log : Log Eff Ans) (e : Eff) (h : e.bounded = true) :
    (answer log e).isSome = true := by
  cases e with
  | forever | lock | ssh v ip | closeConnection conn => cases h
  | _ => rfl

theorem answer_clock (log : Log Eff Ans) (now : Nat) (h : answer log .time = some now) :
    elapsed log ≤ now := by
  injection h with h
  exact Nat.le_of_eq h

def world : World := ⟨answer, answer_ends, answer_clock⟩

theorem play_none : (dispatch {} payload).play answer [] = none := rfl

end Silent

theorem dispatch_not_finishes : ¬∀ (w : World) (settings : Settings) (payload : Payload),
    ((dispatch settings payload).play w.answer []).isSome = true := by
  intro h
  have hfinished := h Silent.world {} Silent.payload
  rw [show Silent.world.answer = Silent.answer from rfl, Silent.play_none] at hfinished
  cases hfinished

end Clusteration
