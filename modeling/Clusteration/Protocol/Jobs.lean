import Clusteration.Protocol.Destroy

open Async Task

namespace Clusteration

variable {c : Caller} {w : Exec} {s : Session} {Q : Unit → Session → WorkerPhase → Prop}

/-- Where a job's body leaves the worker: nothing is left that could raise. -/
def Settles (c : Caller) (type : JobType) (s : Session) (φ : WorkerPhase) : Prop :=
  ∃ w, φ = .exec w ∧ w.type = type ∧ w.stage = .settled ∧ Fits c w w.x s

theorem Fits.settles {type : JobType} (h : Fits c w w.x s) (ht : w.type = type)
    (hs : w.stage = .settled) : Settles c type s (.exec w) := ⟨w, rfl, ht, hs, h⟩

/-- The session is one commit away from the end of the job's body. -/
def Settling (c : Caller) (type : JobType) (s : Session) (φ : WorkerPhase) : Prop :=
  ∃ w y, φ = .exec w ∧ w.type = type ∧ Fits c w y s ∧ Edit w .settled y w.target

theorem awaitAddress_spec {n : Int} {op : PowerOp} {node : String}
    (h : Fits c w { w.x with status := op.final } s) (hs : w.stage = .powered)
    (hop : powerOp w.type = some op) (hn : w.x.vmid = some n) :
    Spec WorkerT (awaitAddress c w.type op node n) s (.exec w) (fun _ => Settling c w.type)
      (Fails c w.type) := by
  unfold awaitAddress
  split
  · next hb =>
    refine spec_exceptTimeout (spec_bind (waitForIp_spec (fun out ip => .heard node hs hb hn) h.caller
      (fun ip => ?_) fun x => ?_))
    · refine spec_assign ⟨_, _, rfl, rfl, (h.stage (.heard ip)).setVm ?_, .addressed rfl hop⟩
      change { s.vm.core with ip := some ip } = _
      rw [h.core]
    · refine ⟨?_, ⟨w, _, rfl, rfl, by rw [hs]; rfl, h, rfl⟩⟩
      refine setVm_spec (setJobMeta_spec (h.setVm ?_) rfl (.unheard hs hop) fun s₁ h₁ => ?_)
      · change { s.vm.core with ssh := .failed } = _
        rw [h.core]
      · exact ⟨_, _, rfl, rfl, h₁, .metadata⟩
  · have hstop : w.type = .stopVm := by
      cases ht : w.type <;> simp_all [powerOp, JobType.bootsVm]
    exact spec_pure ⟨w, _, rfl, rfl, h, .stopped hs hop hstop⟩

theorem powerGuest_spec {n : Int} {op : PowerOp} (h : Fits c w w.x s) (hs : w.stage = .entry)
    (hop : powerOp w.type = some op) (hn : w.x.vmid = some n) :
    Spec WorkerT (powerGuest c w.type op n) s (.exec w) (fun _ => Settles c w.type)
      (Fails c w.type) := by
  refine setVm_spec (spec_bind (commit_spec (h.setVm ?_) (.power hs hop (by simp [hn]))
    fun s₁ h₁ => ?_))
  · rw [← h.core]
    rfl
  refine theVm_spec (spec_bind (read_spec (ProxmoxClient.reads_resolveVmNode _ _) h₁.caller
    (fun node => ?_) fun x => h₁.fails rfl rfl))
  have h₂ : Fits c _ _ { s₁ with vm := { s₁.vm with node } } := h₁.setVm h₁.core
  refine setVm_spec (task_spec h₂ (.power node rfl hop hn) rfl (fun out u => .powering node rfl hop hn)
    (fun out u => .powered node rfl) (fun s₃ h₃ => ?_) (fun x s₃ h₃ => h₃.fails rfl rfl)
    fun x s₃ u h₃ => h₃.fails rfl rfl)
  refine setVm_spec (spec_bind (spec_mono (awaitAddress_spec (h₃.setVm ?_) rfl hop hn) ?_
    fun _ _ _ hF => hF))
  · rw [← h₃.core]
    rfl
  · rintro _ s₄ _ ⟨w', y, rfl, ht, h₄, he⟩
    exact commit_spec h₄ he fun s₅ h₅ => h₅.settles ht rfl

theorem powerJob_spec {type : JobType} (h : Fits c w w.x s) (hs : w.stage = .entry)
    (ht : w.type = type) :
    Spec WorkerT (powerJob c type) s (.exec w) (fun _ => Settles c type) (Fails c type) := by
  subst ht
  refine theVm_spec ?_
  have hv : s.vm.proxmoxVmid = w.x.vmid := by rw [← h.core]; rfl
  rw [hv]
  cases hn : w.x.vmid with
  | none => exact spec_raise (h.fails rfl (by rw [hs]; rfl))
  | some n =>
    cases hop : powerOp w.type with
    | none => exact spec_raise (h.fails rfl (by rw [hs]; rfl))
    | some op => exact powerGuest_spec h hs hop hn

theorem destroyExistingVm_spec {operation : String} {F : Exc → Session → WorkerPhase → Prop}
    (h : Fits c w w.x s) (hs : w.stage = .deleting)
    (hQ : ∀ s' stage, { w with stage := stage }.Gone → Fits c { w with stage } w.x s' →
      Q () s' (.exec { w with stage }))
    (hF : ∀ x s' w', w'.type = w.type → w'.stage.raises = true → Fits c w' w'.x s' →
      F x s' (.exec w')) :
    Spec WorkerT (destroyExistingVm c operation) s (.exec w) Q F := by
  refine theVm_spec ?_
  have hv : s.vm.proxmoxVmid = w.x.vmid := by rw [← h.core]; rfl
  rw [hv]
  cases hn : w.x.vmid with
  | none => exact spec_pure (hQ s w.stage (Or.inr ⟨hs, hn⟩) h)
  | some n =>
    exact destroyGuest_spec h hs hn (fun s' h' => hQ s' .gone (Or.inl rfl) h') hF

theorem deleteVmJob_spec (h : Fits c w w.x s) (hs : w.stage = .entry) (ht : w.type = .deleteVm) :
    Spec WorkerT (deleteVmJob c) s (.exec w) (fun _ => Settles c .deleteVm) (Fails c .deleteVm) := by
  refine setVm_spec (spec_bind (commit_spec (h.setVm ?_) (.delete hs ht) fun s₁ h₁ => spec_bind ?_))
  · rw [← h.core]
    rfl
  refine destroyExistingVm_spec h₁ rfl (fun s₂ stage hg h₂ => spec_bind ?_)
    fun x s' w' hw' hs' h' => h'.fails (hw'.trans ht) hs'
  refine read_spec (reads_await .utcnow) h₂.caller (fun now => ?_) fun x => ?_
  · refine setVm_spec (commit_spec (h₂.setVm ?_) (.deleted now hg ht) fun s₃ h₃ => h₃.settles ht rfl)
    rw [← h₂.core]
    rfl
  · exact h₂.fails ht hg.raises

theorem reinstallVmJob_spec {settings : Settings} {rootPassword : String}
    {templateOs : Option String} (h : Fits c w w.x s) (hs : w.stage = .entry)
    (ht : w.type = .reinstallVm) :
    Spec WorkerT (reinstallVmJob settings c rootPassword templateOs) s (.exec w)
      (fun _ => Settles c .reinstallVm) (Fails c .reinstallVm) := by
  refine theVm_spec (spec_bind (read_spec (reads_await (.selectTemplate _)) h.caller
    (fun template => ?_) fun x => h.fails ht (by rw [hs]; rfl)))
  cases template with
  | none => exact spec_raise (h.fails ht (by rw [hs]; rfl))
  | some template =>
    dsimp only
    split
    · exact spec_raise (h.fails ht (by rw [hs]; rfl))
    refine setVm_spec (spec_bind (commit_spec (h.setVm ?_) (.wipe hs ht) fun s₁ h₁ => spec_bind ?_))
    · rw [← h.core]
      rfl
    refine destroyExistingVm_spec h₁ rfl (fun s₂ stage hg h₂ => ?_)
      fun x s' w' hw' hs' h' => h'.fails (hw'.trans ht) hs'
    refine setVm_spec (spec_bind (commit_spec (h₂.setVm ?_) (.cleared hg ht) fun s₃ h₃ => ?_))
    · rw [← h₂.core]
      rfl
    exact provisionVmFromTemplate_spec h₃ (Or.inr ⟨rfl, ht⟩)
      (fun s' w' hw' hs' h' => h'.settles (hw'.trans ht) hs')
      fun x s' w' hw' hs' h' => h'.fails (hw'.trans ht) hs'

theorem createVmJob_spec {settings : Settings} {rootPassword : String} (h : Fits c w w.x s)
    (hs : w.stage = .entry) (ht : w.type = .createVm) :
    Spec WorkerT (createVmJob settings c rootPassword) s (.exec w)
      (fun _ => Settles c .createVm) (Fails c .createVm) := by
  refine theVm_spec (spec_bind (read_spec (reads_await (.selectTemplate _)) h.caller
    (fun template => ?_) fun x => h.fails ht (by rw [hs]; rfl)))
  cases template with
  | none => exact spec_raise (h.fails ht (by rw [hs]; rfl))
  | some template =>
    exact provisionVmFromTemplate_spec h (Or.inl ⟨hs, ht⟩)
      (fun s' w' hw' hs' h' => h'.settles (hw'.trans ht) hs')
      fun x s' w' hw' hs' h' => h'.fails (hw'.trans ht) hs'

theorem sshFailed_spec (h : Fits c w w.x s) (hs : w.stage = .entry)
    (ht : w.type = .sshReadinessCheck) :
    Spec WorkerT (sshFailed c) s (.exec w) (fun _ => Settles c .sshReadinessCheck)
      fun _ _ _ => False := by
  refine setVm_spec (spec_bind (commit_spec (h.setVm ?_) (.sshFailed hs ht) fun s₁ h₁ => ?_))
  · rw [← h.core]
    rfl
  · exact spec_pure (h₁.settles ht rfl)

theorem checkSshReady_spec (h : Fits c w w.x s) (hs : w.stage = .entry)
    (ht : w.type = .sshReadinessCheck) :
    Spec WorkerT (checkSshReady c) s (.exec w) (fun _ => Settles c .sshReadinessCheck)
      fun _ _ _ => False := by
  refine theVm_spec ?_
  have hv : s.vm.ipAddress = w.x.ip := by rw [← h.core]; rfl
  rw [hv]
  cases hip : w.x.ip with
  | none => exact sshFailed_spec h hs ht
  | some ip =>
    dsimp only
    split
    · exact sshFailed_spec h hs ht
    refine ProxmoxClient.pollUntil_spec (fun e he r => .quiet (.clock he)) ?_ (sshFailed_spec h hs ht)
    have hv : c.vm = w.v := by rw [← h.caller]; rfl
    refine spec_bind (spec_bind (spec_await fun conn => ⟨_, .quiet (.connect _ _), ?_⟩))
    cases conn with
    | none => exact spec_pure (spec_pure ⟨rfl, rfl⟩)
    | some conn =>
      refine spec_bind (spec_await fun created => ?_)
      cases created with
      | true =>
        refine ⟨.exec { w with stage := .reached }, ?_, spec_pure ?_⟩
        · rw [hv]
          exact .learn (.reached hs ht hip)
        refine spec_bind (spec_await fun _ => ⟨_, .quiet (.closeConnection conn), ?_⟩)
        refine setVm_spec (spec_bind (commit_spec ((h.stage .reached).setVm ?_) (.sshReady rfl)
          fun s₁ h₁ => ?_))
        · rw [← h.core]
          rfl
        · exact spec_pure (h₁.settles ht rfl)
      | false =>
        refine ⟨.exec w, ?_, spec_pure (spec_pure ?_)⟩
        · rw [hv]
          exact .refused ip
        · exact ⟨rfl, rfl⟩

end Clusteration
