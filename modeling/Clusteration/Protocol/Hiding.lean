import Clusteration.Framework.Masking
import Clusteration.Panel.System
import Clusteration.Protocol.Walks

open Async Task

namespace Clusteration

/-- What stands in the place of a root password. -/
def hiddenPassword : String := "********"

theorem isRootPassword_hidden : isRootPassword hiddenPassword = true := by decide

def Payload.hide (p : Payload) : Payload :=
  { p with rootPassword := p.rootPassword.map fun _ => hiddenPassword }

def Req.hide : Req → Req
  | .setConfig node vmid data => .setConfig node vmid { data with cipassword := hiddenPassword }
  | req => req

def Eff.hide : Eff → Eff
  | .put p => .put p.hide
  | .http caller req => .http caller req.hide
  | e => e

theorem ans_hide (e : Eff) : Ans e.hide = Ans e := by cases e <;> rfl

/-- The mask on the awaits of a coroutine. -/
def hideAwaits : Mask Eff Ans := ⟨Eff.hide, fun e r => cast (ans_hide e) r⟩

/-- The awaits that carry no root password. -/
def Eff.plain : Eff → Bool
  | .put p => p.rootPassword.isNone
  | .http _ (.setConfig _ _ _) => false
  | _ => true

theorem hideAwaits_fixes {e : Eff} (h : e.plain = true) : hideAwaits.Fixes e := by
  intro α k
  cases e with
  | put p =>
    obtain ⟨type, jobId, vmId, rootPassword, template⟩ := p
    cases rootPassword with
    | none => rfl
    | some password => cases h
  | http caller req =>
    cases req with
    | setConfig node vmid data => cases h
    | _ => rfl
  | _ => rfl

theorem plain_of_isRead {caller : Option Caller} {e : Eff} (h : IsRead caller e) :
    e.plain = true := by
  cases h with
  | @get req hget =>
    cases req with
    | setConfig node vmid data => cases hget
    | _ => rfl
  | clock hc => cases hc <;> rfl
  | _ => rfl

variable {S α β : Type} {caller : Option Caller}

/-- A part of the program that carries no root password. -/
abbrev Plain (t : Task Eff Ans S Exc α) : Prop := Makes (fun e => e.plain = true) t

def hide (t : Task Eff Ans S Exc α) : Task Eff Ans S Exc α := t.mask hideAwaits

theorem Plain.hide_eq {t : Task Eff Ans S Exc α} (ht : Plain t) : hide t = t :=
  Makes.mask_eq (makes_mono ht fun _ he => hideAwaits_fixes he)

theorem hide_bind (t : Task Eff Ans S Exc α) (k : α → Task Eff Ans S Exc β) :
    hide (t >>= k) = hide t >>= fun a => hide (k a) := mask_bind t k

theorem hide_catch (t : Task Eff Ans S Exc α) (h : Exc → Task Eff Ans S Exc α) :
    hide (tryCatch t h) = tryCatch (hide t) fun x => hide (h x) := mask_catch t h

/-- Where the first part carries no password, only the rest is to be looked at. -/
theorem hide_bind_plain {t : Task Eff Ans S Exc α} {k k' : α → Task Eff Ans S Exc β} (ht : Plain t)
    (hk : ∀ a, hide (k a) = k' a) : hide (t >>= k) = t >>= k' := by
  rw [hide_bind, ht.hide_eq]
  congr 1
  funext a
  exact hk a

/-- Where the rest carries none, only the first part is. -/
theorem hide_bind_rest {t t' : Task Eff Ans S Exc α} {k : α → Task Eff Ans S Exc β}
    (ht : hide t = t') (hk : ∀ a, Plain (k a)) : hide (t >>= k) = t' >>= k := by
  rw [hide_bind, ht]
  congr 1
  funext a
  exact (hk a).hide_eq

theorem plain_await {e : Eff} (h : e.plain = true) :
    Plain (Task.await e : Task Eff Ans S Exc (Ans e)) := makes_await h

theorem plain_reads {t : Task Eff Ans S Exc α} (h : Reads (IsRead caller) t) : Plain t :=
  makes_mono (makes_of_reads h) fun _ => plain_of_isRead

namespace ProxmoxClient

theorem plain_request {req : Req} (h : (Eff.http caller req).plain = true) :
    Plain (request caller req : Client S Json) := makes_of_reads (reads_requestOf h)

/-- The one request that carries a password. -/
theorem hide_setConfig (node : String) (vmid : Int) (data : CloudInit) :
    hide (request caller (.setConfig node vmid data) : Client S Json) =
      request caller (.setConfig node vmid { data with cipassword := hiddenPassword }) := by
  have honce : ∀ _ : Option Failure,
      hide (requestOnce caller (.setConfig node vmid data) : Client S (Json ⊕ Option Failure)) =
        requestOnce caller (.setConfig node vmid { data with cipassword := hiddenPassword }) := by
    intro _
    apply hide_bind_rest rfl
    intro out
    cases out.attempt with
    | data d => exact makes_pure _
    | raised x => exact makes_raise x
    | failed f => exact makes_pure _
  have hfailed : ∀ last : Option Failure,
      hide (requestFailed (.setConfig node vmid data) last : Client S Json) =
        requestFailed (.setConfig node vmid { data with cipassword := hiddenPassword }) last := by
    intro last
    cases last with
    | some f => cases f <;> rfl
    | none => rfl
  rw [request, request, hide, mask_retry]
  congr 1
  · funext last
    exact honce last
  · funext last
    exact hfailed last

end ProxmoxClient

section Jobs
variable {settings : Settings} {c : Caller}

theorem plain_withVm {f : VM → Work α} (hf : ∀ vm, Plain (f vm)) :
    Plain (do let vm ← theVm; f vm) := by
  apply makes_bind _ hf
  apply makes_bind makes_session
  intro s
  exact makes_pure _

theorem plain_setVm (f : VM → VM) : Plain (setVm f) := makes_assign _

theorem plain_setJob (f : Job → Job) : Plain (setJob f) := makes_assign _

theorem plain_commit : Plain (commit c) := by
  apply makes_bind makes_session
  intro s
  apply makes_bind (plain_await rfl)
  intro _
  exact makes_assign _

theorem plain_setJobMeta (patch : JobMeta) : Plain (setJobMeta c patch) := by
  apply makes_bind (plain_setJob _)
  intro _
  exact plain_commit

/-- A job carries no password but in the config of a clone. -/
theorem plain_workRules (c : Caller) (type : JobType) :
    WorkRules c type (Among fun e => e.plain = true) fun _ _ _ => True where
  read := fun _ he _ _ => plain_of_isRead he
  http := by
    intro req hreq _ _
    cases req with
    | setConfig node vmid data => cases hreq
    | _ => rfl
  ssh := fun _ _ _ => rfl
  follow := fun _ _ => rfl
  put := fun _ _ _ => rfl
  vm := fun _ _ => trivial
  note := fun _ _ _ _ _ _ => trivial
  succeed := fun _ _ => trivial
  commit := fun _ => ⟨(), rfl, trivial⟩
  fail := fun _ _ => ⟨(), rfl⟩

theorem plain_walk {t : Work α}
    (h : ∀ s, Spec (Among fun e => e.plain = true) t s () Ended Ended) : Plain t :=
  makes_of_within fun s => within_of_spec (h s) rfl

theorem plain_ensureDiskSize (vmid : Int) {phase : String} (hp : ':' ∉ phase.toList) :
    Plain (ensureDiskSize c vmid phase) :=
  plain_walk fun _ => (plain_workRules c .createVm).ensureDiskSize_walk hp trivial
    (fun _ _ _ => trivial) fun _ _ _ _ => trivial

theorem plain_cloneTemplate (template : Template) {phase : String} (hp : ':' ∉ phase.toList) :
    Plain (cloneTemplate settings c template phase) :=
  plain_walk fun _ => (plain_workRules c .createVm).cloneTemplate_walk hp trivial
    (fun _ _ _ _ => trivial) fun _ _ _ _ => trivial

theorem hide_bootClone (rootPassword : String) {phase : String} (hp : ':' ∉ phase.toList)
    (newVmid : Int) :
    hide (bootClone settings c rootPassword phase newVmid) =
      bootClone settings c hiddenPassword phase newVmid := by
  apply hide_bind_plain (plain_setJobMeta _)
  intro _
  apply hide_bind_plain (plain_withVm fun vm => makes_pure vm)
  intro vm
  apply hide_bind_rest (ProxmoxClient.hide_setConfig _ _ _)
  intro _
  apply makes_bind (plain_ensureDiskSize newVmid hp)
  intro _
  apply plain_withVm
  intro vm
  apply makes_bind (ProxmoxClient.plain_request rfl)
  intro upid
  apply makes_bind (plain_setJobMeta _)
  intro _
  apply makes_bind (plain_reads (ProxmoxClient.reads_waitForTask _ upid))
  intro _
  apply makes_bind (plain_setVm _)
  intro _
  exact plain_commit

theorem plain_firstIp {phase : String} (hp : ':' ∉ phase.toList) (newVmid : Int) :
    Plain (firstIp c phase newVmid) :=
  plain_walk fun _ => (plain_workRules c .createVm).firstIp_walk hp trivial
    (fun _ _ _ _ => trivial) fun _ _ _ _ => trivial

theorem plain_resetIdentity {phase : String} (hp : ':' ∉ phase.toList) (newVmid : Int) :
    Plain (resetIdentity c phase newVmid) :=
  plain_walk fun _ => (plain_workRules c .createVm).resetIdentity_walk hp trivial
    (fun _ _ _ => trivial) fun _ _ _ _ => trivial

theorem hide_provisionVmFromTemplate (template : Template) (rootPassword : String) {phase : String}
    (hp : ':' ∉ phase.toList) :
    hide (provisionVmFromTemplate settings c template rootPassword phase) =
      provisionVmFromTemplate settings c template hiddenPassword phase := by
  apply hide_bind_plain (plain_cloneTemplate template hp)
  intro newVmid
  apply hide_bind_rest (hide_bootClone rootPassword hp newVmid)
  intro _
  apply makes_bind (plain_firstIp hp newVmid)
  intro hasIp
  cases hasIp with
  | true => exact plain_resetIdentity hp newVmid
  | false => exact makes_pure _

theorem hide_createVmJob (rootPassword : String) :
    hide (createVmJob settings c rootPassword) = createVmJob settings c hiddenPassword := by
  apply hide_bind_plain (plain_withVm fun vm => makes_pure vm)
  intro vm
  apply hide_bind_plain (plain_await rfl)
  intro template
  cases template with
  | none => rfl
  | some template =>
    have hphase : ':' ∉ "create".toList := by decide
    exact hide_provisionVmFromTemplate template rootPassword hphase

theorem plain_destroyExistingVm {operation : String} (hp : ':' ∉ operation.toList)
    (hkey : keyIndex (operationKey (some operation)) = 0) : Plain (destroyExistingVm c operation) :=
  plain_walk fun _ => spec_mono ((plain_workRules c .createVm).destroyExistingVm_walk hp hkey trivial
    fun _ _ _ => trivial) (fun _ _ _ h => h) fun _ _ _ _ => trivial

theorem hide_reinstallVmJob (rootPassword : String) (templateOs : Option String) :
    hide (reinstallVmJob settings c rootPassword templateOs) =
      reinstallVmJob settings c hiddenPassword templateOs := by
  apply hide_bind_plain (plain_withVm fun vm => makes_pure vm)
  intro vm
  apply hide_bind_plain (plain_await rfl)
  intro template
  cases template with
  | none => rfl
  | some template =>
    dsimp only
    split
    · rfl
    · apply hide_bind_plain (plain_setVm _)
      intro _
      apply hide_bind_plain plain_commit
      intro _
      have hdestroy : ':' ∉ "reinstall-destroy".toList := by decide
      apply hide_bind_plain (plain_destroyExistingVm hdestroy (by decide))
      intro _
      apply hide_bind_plain (plain_setVm _)
      intro _
      apply hide_bind_plain plain_commit
      intro _
      have hphase : ':' ∉ "reinstall".toList := by decide
      exact hide_provisionVmFromTemplate template rootPassword hphase

theorem plain_finish : Plain (do succeed c; followUp c) :=
  plain_walk fun _ => (plain_workRules c .startVm).finish_walk (k := 0) trivial (by simp [JobType.provisions])

theorem plain_jobFailed (exc : Exc) : Plain (jobFailed c exc) :=
  plain_walk fun _ => (plain_workRules c .startVm).jobFailed_walk ⟨0, trivial⟩

/-- The jobs that clone nothing. -/
theorem plain_execute {payload : Payload} {job : Job} (h : job.type.provisions = false) :
    Plain (execute settings payload c job) :=
  plain_walk fun _ => spec_mono ((plain_workRules c job.type).execute_walk rfl
    (fun hp => by rw [h] at hp; cases hp) trivial) (fun _ _ _ h => h) fun _ _ _ _ => trivial

theorem hide_execute (payload : Payload) (job : Job) :
    hide (execute settings payload c job) = execute settings payload.hide c job := by
  by_cases hp : job.type.provisions = true
  · obtain ⟨type, jobId, vmId, rootPassword, template⟩ := payload
    unfold execute
    cases htype : job.type with
    | createVm =>
      cases rootPassword with
      | none => rfl
      | some password =>
        show hide (createVmJob settings c password >>= fun _ => do succeed c; followUp c) =
          createVmJob settings c hiddenPassword >>= fun _ => do succeed c; followUp c
        exact hide_bind_rest (hide_createVmJob password) fun _ => plain_finish
    | reinstallVm =>
      cases rootPassword with
      | none => rfl
      | some password =>
        let os := reinstallTemplate { type, jobId, vmId, rootPassword := none, template } job.metadata
        show hide (reinstallVmJob settings c password os >>= fun _ => do succeed c; followUp c) =
          reinstallVmJob settings c hiddenPassword os >>= fun _ => do succeed c; followUp c
        exact hide_bind_rest (hide_reinstallVmJob password os) fun _ => plain_finish
    | _ =>
      rw [htype] at hp
      cases hp
  · rw [(plain_execute (by simpa using hp)).hide_eq]
    unfold execute
    cases htype : job.type with
    | createVm | reinstallVm =>
      rw [htype] at hp
      exact absurd rfl hp
    | _ => rfl

theorem hide_runJob (payload : Payload) (job : Job) :
    hide (runJob settings payload c job) = runJob settings payload.hide c job := by
  apply hide_bind_plain (plain_setJob _)
  intro _
  apply hide_bind_plain plain_commit
  intro _
  have hfailed : (fun exc => hide (jobFailed c exc)) = jobFailed c := by
    funext exc
    exact (plain_jobFailed exc).hide_eq
  rw [hide_catch, hide_execute, hfailed]

end Jobs

theorem mask_plain {e : Eff} (h : e.plain = true) (k : Ans e → Prog Eff Ans α) :
    (Prog.await e k).mask hideAwaits = .await e fun r => (k r).mask hideAwaits :=
  hideAwaits_fixes h α fun r => (k r).mask hideAwaits

theorem hide_dispatch (settings : Settings) (payload : Payload) :
    (dispatch settings payload).mask hideAwaits = dispatch settings payload.hide := by
  have hwithout (job : Job) : (dispatchWithoutVm payload.jobId job).mask hideAwaits =
      dispatchWithoutVm payload.jobId job := rfl
  unfold dispatch
  rw [mask_plain rfl]
  congr 1
  funext job
  cases job with
  | none => rfl
  | some job =>
    dsimp only [Payload.hide]
    cases payload.vmId with
    | none => exact hwithout job
    | some v =>
      dsimp only
      rw [mask_plain rfl]
      congr 1
      funext vm
      cases vm with
      | none => exact hwithout job
      | some vm =>
        dsimp only
        rw [Prog.mask_bind]
        exact congrArg (Prog.bind · fun _ => .ret ()) (congrFun (hide_runJob payload job) _)

theorem hide_putAll (ps : List Payload) {next : Prog Eff Ans Unit}
    (hps : ∀ p ∈ ps, p.rootPassword = none) (hnext : next.mask hideAwaits = next) :
    (putAll ps next).mask hideAwaits = putAll ps next := by
  induction ps with
  | nil => exact hnext
  | cons p ps ih =>
    have hp : (Eff.put p).plain = true := by
      show p.rootPassword.isNone = true
      rw [hps p (by simp)]
      rfl
    rw [putAll, mask_plain hp]
    congr 1
    funext _
    exact ih fun q hq => hps q (by simp [hq])

theorem hide_lifespan (settings : Settings) :
    (lifespan settings).mask hideAwaits = lifespan settings := by
  have hrequeue : requeueQueuedJobs.mask hideAwaits = requeueQueuedJobs := by
    rw [requeueQueuedJobs, mask_plain rfl]
    congr 1
    funext jobs
    apply hide_putAll
    · intro p hp
      obtain ⟨j, _, rfl⟩ := List.mem_map.mp hp
      rfl
    · rfl
  show Prog.await _ (fun _ => Prog.await _ fun _ => Prog.await _ fun _ =>
    requeueQueuedJobs.mask hideAwaits) = _
  rw [hrequeue]
  rfl

def VMCreate.hide (payload : VMCreate) : VMCreate :=
  { payload with rootPassword := hiddenPassword, rootPassword_valid := isRootPassword_hidden }

def ReinstallVM.hide (payload : ReinstallVM) : ReinstallVM :=
  { payload with rootPassword := hiddenPassword, rootPassword_valid := isRootPassword_hidden }

def Request.hide : Request → Request
  | .createVm payload => .createVm payload.hide
  | .reinstallVm v payload => .reinstallVm v payload.hide
  | r => r

section Routes
variable {settings : Settings}

theorem plain_routeRules : RouteRules fun e => e.plain = true where
  read := fun _ => plain_of_isRead
  getVM := fun _ => rfl
  mark := fun _ _ => rfl
  insertJob := fun _ _ _ _ => rfl
  insertVM := fun _ _ _ => rfl
  put := by
    intro p hp
    show p.rootPassword.isNone = true
    rw [hp]
    rfl
  lock := rfl
  unlock := rfl

theorem plain_refuseIf (condition : Bool) (exc : Exc) : Plain (refuseIf condition exc) :=
  plain_reads (reads_refuseIf condition exc)

theorem hide_enqueueJob (v : VmId) (type : JobType) (metadata : JobMeta)
    (rootPassword template : Option String) :
    hide (enqueueJob v type metadata rootPassword template) =
      enqueueJob v type metadata (rootPassword.map fun _ => hiddenPassword) template := by
  apply hide_bind_plain (plain_await rfl)
  intro j
  rfl

theorem hide_createVm (payload : VMCreate) :
    hide (createVm settings payload) = createVm settings payload.hide := by
  apply hide_bind_plain (plain_refuseIf _ _)
  intro _
  have hsize : payload.hide.size = payload.size := rfl
  rw [hsize]
  cases vmSizes payload.size with
  | none => rfl
  | some size =>
    apply hide_bind_plain (plain_refuseIf _ _)
    intro _
    apply hide_bind_plain (plain_reads (reads_enabledTemplate _))
    intro template
    apply hide_bind_plain (plain_reads (reads_hostnameFree _))
    intro _
    apply hide_bind_plain (plain_reads (reads_validateCreatePreflight settings template))
    intro preflight
    apply hide_bind_plain (makes_of_reads (plain_routeRules.reads_withCreateVmLock
      (plain_routeRules.reads_insertVm payload template size preflight.1)))
    intro vj
    rfl

theorem hide_reinstallVm (v : VmId) (payload : ReinstallVM) :
    hide (reinstallVm settings v payload) = reinstallVm settings v payload.hide := by
  apply hide_bind_plain (plain_refuseIf _ _)
  intro _
  apply hide_bind_plain (makes_of_reads (plain_routeRules.reads_getLiveVm v))
  intro vm
  apply hide_bind_plain (plain_refuseIf _ _)
  intro _
  apply hide_bind_plain (plain_refuseIf _ _)
  intro _
  apply hide_bind_plain (plain_reads (reads_enabledTemplate _))
  intro template
  apply hide_bind_plain (plain_reads (reads_validateCreatePreflight settings template))
  intro preflight
  exact hide_enqueueJob v .reinstallVm _ _ _

theorem hide_handle (r : Request) : hide (handle settings r) = handle settings r.hide := by
  cases r with
  | createVm payload => exact hide_createVm payload
  | reinstallVm v payload => exact hide_reinstallVm v payload
  | _ => exact Plain.hide_eq (makes_of_reads (plain_routeRules.reads_handle _ fun h => by cases h))

theorem hide_serve (r : Request) : (serve settings r).mask hideAwaits = serve settings r.hide := by
  unfold serve
  rw [Prog.mask_bind]
  exact congrArg (Prog.bind · fun out => .ret out.1) (congrFun (hide_handle r) ())

end Routes

end Clusteration
