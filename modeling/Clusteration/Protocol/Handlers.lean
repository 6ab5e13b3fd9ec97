import Clusteration.Protocol.Reading

open Async Task

namespace Clusteration

variable {α : Type} {φ : RequestPhase}

/-- A request may end here. -/
def Ends (_ : α) (_ : Unit) (φ : RequestPhase) : Prop := φ.Idle

section Rules
variable {Q : α → Unit → RequestPhase → Prop} {F : Exc → Unit → RequestPhase → Prop}

theorem routeRead_spec {m : Route α} (hm : Reads (IsRead none) m) (hQ : ∀ a, Q a () φ)
    (hF : ∀ x, F x () φ) : Spec RequestT m () φ Q F :=
  hm.spec (fun _ he _ => .quiet he) hQ hF

theorem refuseIf_spec {condition : Bool} {exc : Exc} {Q : Unit → Unit → RequestPhase → Prop}
    (hF : F exc () φ) (hQ : condition = false → Q () () φ) :
    Spec RequestT (refuseIf condition exc) () φ Q F := by
  unfold refuseIf
  cases condition with
  | true => exact spec_raise hF
  | false => exact spec_pure (hQ rfl)

end Rules

theorem reads_refuseIf (condition : Bool) (exc : Exc) :
    Reads (IsRead none) (refuseIf condition exc) := by
  unfold refuseIf
  cases condition with
  | true => exact reads_raise _
  | false => exact reads_pure _

theorem reads_validateCreatePreflight (settings : Settings) (template : Template) :
    Reads (IsRead none) (validateCreatePreflight settings template) := by
  refine reads_catch ?_ fun exc => ?_
  · refine reads_bind ProxmoxClient.reads_nextId fun _ => ?_
    refine reads_bind (ProxmoxClient.reads_resolveTemplateNode _ _) fun node => ?_
    refine reads_bind (ProxmoxClient.reads_vmDiskSizeGb _ _) fun diskGb => ?_
    exact reads_bind (ProxmoxClient.reads_request rfl rfl) fun _ => reads_pure _
  · cases exc <;> exact reads_raise _

theorem reads_enabledTemplate (os : String) : Reads (IsRead none) (enabledTemplate os) := by
  refine reads_bind (reads_await (.selectTemplate os)) fun template => ?_
  cases template with
  | none => exact reads_raise _
  | some template => exact reads_bind (reads_refuseIf _ _) fun _ => reads_pure _

theorem reads_hostnameFree (hostname : String) : Reads (IsRead none) (hostnameFree hostname) :=
  reads_bind (reads_await (.selectLiveHostname hostname)) fun _ => reads_refuseIf _ _

/-- `get_live_vm`, and already what the endpoint will make of the record. -/
theorem getLiveVm_spec {v : VmId} (type : JobType) {Q : VM → Unit → RequestPhase → Prop}
    {F : Exc → Unit → RequestPhase → Prop}
    (hQ : ∀ vm, vm.core.accepts type = true → Q vm () (.accepted type v))
    (hQ' : ∀ vm, vm.deletedAt = none → vm.core.accepts type = false → Q vm () .over)
    (hF : ∀ x, F x () .over) : Spec RequestT (getLiveVm v) () .init Q F := by
  refine spec_bind (spec_await fun vm => ?_)
  cases vm with
  | none => exact ⟨_, .refused v none, spec_raise (hF _)⟩
  | some vm =>
    by_cases hd : vm.deletedAt = none
    · by_cases ha : vm.core.accepts type = true
      · refine ⟨_, .accept ha, ?_⟩
        simpa [hd] using spec_pure (hQ vm ha)
      · refine ⟨_, .refused v _, ?_⟩
        simpa [hd] using spec_pure (hQ' vm hd (by simpa using ha))
    · refine ⟨_, .refused v _, ?_⟩
      simpa [hd] using spec_raise (hF _)

theorem enqueueJob_spec {v : VmId} {type : JobType} {metadata : JobMeta}
    {rootPassword template : Option String} {F : Exc → Unit → RequestPhase → Prop}
    (hm : metadata.targetVmid = none) :
    Spec RequestT (enqueueJob v type metadata rootPassword template) () (.accepted type v) Ends F := by
  refine spec_bind (spec_await fun j => ?_)
  let p : Payload := { type, jobId := j, vmId := some v, rootPassword, template }
  have hjob : ({ type, vmId := some v, metadata } : Job).core = ⟨type, .queued, some v, none⟩ := by
    simp [Job.core, hm]
  refine ⟨.inserted p, .insert hjob rfl rfl rfl, ?_⟩
  exact spec_bind (spec_await fun _ => ⟨_, .put, spec_pure trivial⟩)

theorem startVm_spec (v : VmId) : Spec RequestT (startVm v) () .init Ends Ends := by
  refine spec_bind (getLiveVm_spec .startVm (fun vm _ => ?_) (fun vm hd ha => ?_) fun x => trivial)
  · refine spec_bind (refuseIf_spec trivial fun _ => ?_)
    exact spec_bind (refuseIf_spec trivial fun _ => enqueueJob_spec rfl)
  · refine spec_bind (refuseIf_spec trivial fun h₁ => ?_)
    refine spec_bind (refuseIf_spec trivial fun h₂ => ?_)
    cases hst : vm.status <;> simp_all [Core.accepts]

theorem stopVm_spec (v : VmId) : Spec RequestT (stopVm v) () .init Ends Ends := by
  refine spec_bind (getLiveVm_spec .stopVm (fun vm _ => ?_) (fun vm hd ha => ?_) fun x => trivial)
  · exact spec_bind (refuseIf_spec trivial fun _ => enqueueJob_spec rfl)
  · refine spec_bind (refuseIf_spec trivial fun h₁ => ?_)
    simp_all [Core.accepts]

theorem rebootVm_spec (v : VmId) : Spec RequestT (rebootVm v) () .init Ends Ends := by
  refine spec_bind (getLiveVm_spec .rebootVm (fun vm _ => ?_) (fun vm hd ha => ?_) fun x => trivial)
  · exact spec_bind (refuseIf_spec trivial fun _ => enqueueJob_spec rfl)
  · refine spec_bind (refuseIf_spec trivial fun h₁ => ?_)
    simp_all [Core.accepts]

theorem deleteVm_spec (v : VmId) (confirmHostname : String) :
    Spec RequestT (deleteVm v confirmHostname) () .init Ends Ends := by
  refine spec_bind (getLiveVm_spec .deleteVm (fun vm _ => ?_) (fun vm hd ha => ?_) fun x => trivial)
  · refine spec_bind (refuseIf_spec trivial fun _ => ?_)
    exact spec_bind (refuseIf_spec trivial fun _ => enqueueJob_spec rfl)
  · refine spec_bind (refuseIf_spec trivial fun _ => ?_)
    refine spec_bind (refuseIf_spec trivial fun h₁ => ?_)
    simp_all [Core.accepts]

theorem reinstallVm_spec (settings : Settings) (v : VmId) (payload : ReinstallVM) :
    Spec RequestT (reinstallVm settings v payload) () .init Ends Ends := by
  refine spec_bind (refuseIf_spec trivial fun _ => spec_bind ?_)
  refine getLiveVm_spec .reinstallVm (fun vm _ => ?_) (fun vm hd ha => ?_) fun x => trivial
  · refine spec_bind (refuseIf_spec trivial fun _ => spec_bind (refuseIf_spec trivial fun _ => ?_))
    refine spec_bind (routeRead_spec (reads_enabledTemplate _) (fun template => ?_) fun x => trivial)
    refine spec_bind (routeRead_spec (reads_validateCreatePreflight _ _) (fun preflight => ?_)
      fun x => trivial)
    exact enqueueJob_spec rfl
  · refine spec_bind (refuseIf_spec trivial fun _ => ?_)
    refine spec_bind (refuseIf_spec trivial fun h₁ => ?_)
    simp_all [Core.accepts]

theorem recheckSsh_spec (v : VmId) : Spec RequestT (recheckSsh v) () .init Ends Ends := by
  refine spec_bind (spec_bind (spec_await fun vm => ?_))
  cases vm with
  | none => exact ⟨_, .refused v none, spec_raise trivial⟩
  | some vm =>
    by_cases hd : vm.deletedAt = none
    · by_cases hr : vm.status = .running
      · refine ⟨_, .recheck hd hr, ?_⟩
        dsimp only
        rw [if_pos hd]
        refine spec_pure (spec_bind (refuseIf_spec trivial fun _ => ?_))
        refine spec_bind (spec_await fun _ => ⟨_, .mark, ?_⟩)
        refine spec_bind (spec_await fun j => ⟨_, .insertCheck rfl, ?_⟩)
        exact spec_bind (spec_await fun _ => ⟨_, .put, spec_pure trivial⟩)
      · refine ⟨_, .refused v _, ?_⟩
        dsimp only
        rw [if_pos hd]
        refine spec_pure (spec_bind (refuseIf_spec trivial fun h₁ => ?_))
        simp [hr] at h₁
    · refine ⟨_, .refused v _, ?_⟩
      dsimp only
      rw [if_neg hd]
      exact spec_raise trivial

/-- The lock is released however the body ends. -/
theorem withCreateVmLock_spec {body : Route α} {Q : α → Unit → RequestPhase → Prop}
    (hb : Spec RequestT body () .locked
      (fun a _ φ => ∃ p, φ = .created p ∧ Q a () (.inserted p))
      fun _ _ φ => φ = .locked ∨ ∃ hostname, φ = .vacant hostname) :
    Spec RequestT (withCreateVmLock body) () .init Q Ends := by
  refine spec_bind (spec_await fun _ => ⟨_, .lock, ?_⟩)
  refine spec_bind (spec_catch (spec_mono hb ?_ ?_))
  · rintro a s' φ' ⟨p, rfl, hq⟩
    exact spec_bind (spec_await fun _ => ⟨_, .unlock, spec_pure hq⟩)
  · intro x s' φ' hφ
    rcases hφ with rfl | ⟨hostname, rfl⟩
    · exact spec_bind (spec_await fun _ => ⟨_, .giveUp, spec_raise trivial⟩)
    · exact spec_bind (spec_await fun _ => ⟨_, .giveUpVacant, spec_raise trivial⟩)

def createPayload (rootPassword : String) (v : VmId) (j : JobId) : Payload :=
  { type := .createVm, jobId := j, vmId := some v, rootPassword := some rootPassword }

theorem insertVm_spec {payload : VMCreate} {template : Template} {size : Int × Int} {node : String}
    {Q : VmId × JobId → Unit → RequestPhase → Prop} (rootPassword : String)
    (hQ : ∀ v j, Q (v, j) () (.created (createPayload rootPassword v j))) :
    Spec RequestT (insertVm payload template size node) () .locked Q
      fun _ _ φ => φ = .locked ∨ ∃ hostname, φ = .vacant hostname := by
  have hlower : payload.hostname.toLower = payload.hostname :=
    toLower_of_isLowercase payload.hostname_lower
  apply spec_bind
  apply spec_bind
  apply spec_await
  intro existing
  cases existing with
  | some vm =>
    exact ⟨.locked, .quiet (.selectLiveHostname _), refuseIf_spec (.inl rfl) fun h => by cases h⟩
  | none =>
    refine ⟨.vacant payload.hostname, .vacant hlower, refuseIf_spec (.inr ⟨_, rfl⟩) fun _ => ?_⟩
    apply spec_bind
    apply spec_ofExcept
    · intro minDiskGb _
      apply spec_await
      intro vj
      exact ⟨.created (createPayload rootPassword vj.1 vj.2), .create rfl rfl rfl rfl rfl, hQ vj.1 vj.2⟩
    · intro x _
      exact .inr ⟨_, rfl⟩

theorem createVm_spec (settings : Settings) (payload : VMCreate) :
    Spec RequestT (createVm settings payload) () .init Ends Ends := by
  refine spec_bind (refuseIf_spec trivial fun _ => ?_)
  cases vmSizes payload.size with
  | none => exact spec_raise trivial
  | some size =>
    refine spec_bind (refuseIf_spec trivial fun _ => spec_bind ?_)
    refine routeRead_spec (reads_enabledTemplate _) (fun template => ?_) fun x => trivial
    refine spec_bind (routeRead_spec (reads_hostnameFree _) (fun _ => ?_) fun x => trivial)
    refine spec_bind (routeRead_spec (reads_validateCreatePreflight _ _) (fun preflight => ?_)
      fun x => trivial)
    refine spec_bind (withCreateVmLock_spec (insertVm_spec payload.rootPassword fun v j =>
      ⟨_, rfl, ?_⟩))
    exact spec_bind (spec_await fun _ => ⟨_, .put, spec_pure trivial⟩)

/-- Every request keeps to the protocol of requests. -/
theorem serve_follows (settings : Settings) (r : Request) :
    (serve settings r).Follows RequestT .init fun _ φ => φ.Idle := by
  have h : Spec RequestT (handle settings r) () .init Ends Ends := by
    cases r with
    | createVm payload => exact createVm_spec settings payload
    | startVm v => exact startVm_spec v
    | stopVm v => exact stopVm_spec v
    | rebootVm v => exact rebootVm_spec v
    | reinstallVm v payload => exact reinstallVm_spec settings v payload
    | deleteVm v confirmHostname => exact deleteVm_spec v confirmHostname
    | recheckSsh v => exact recheckSsh_spec v
  refine Prog.follows_bind h.follows ?_
  rintro ⟨r, s'⟩ φ' hr
  cases r with
  | ok a => exact hr
  | error x => exact hr

theorem putAll_follows {ps : List Payload} {abandoned : List (JobId × Job)}
    {next : Prog Eff Ans Unit} {post : Unit → BootPhase → Prop}
    (h : next.Follows BootT (.putting [] abandoned) post) :
    (putAll ps next).Follows BootT (.putting ps abandoned) post := by
  induction ps with
  | nil => exact h
  | cons p ps ih => exact fun _ => ⟨_, .put, ih⟩

/-- The startup keeps to its protocol. -/
theorem lifespan_follows (settings : Settings) :
    (lifespan settings).Follows BootT .init fun _ φ => φ = .over :=
  fun _ => ⟨_, .seed _, fun _ => ⟨_, .recover, fun _ => ⟨_, .startWorker, fun jobs =>
    ⟨_, .select jobs, putAll_follows fun _ => ⟨_, .abandon, rfl⟩⟩⟩⟩⟩

end Clusteration
