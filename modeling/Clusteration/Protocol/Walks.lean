import Clusteration.Framework.Keeping
import Clusteration.Panel.Progress
import Clusteration.Protocol.Handlers

open Async Task

namespace Clusteration

/-- What a job that fails with `exc` commits. -/
def Session.failing (c : Caller) (s : Session) (exc : Exc) : Flush where
  jobs := [⟨c.job, s.job0, { s.job with status := .failed, error := some (sanitizeJobError exc) }⟩]
  vms := [⟨c.vm, s.vm0, { s.vm with status := .error }⟩]

/-- The request sets the guest's config, and with it the root password. -/
def Req.setsConfig : Req → Bool
  | .setConfig _ _ _ => true
  | _ => false

/-- A job at work follows `T`. `I k s φ`: it has come to step `k` of `PROGRESS_STEPS`, its session is `s`
and its phase `φ`. -/
structure WorkRules {Φ : Type} (c : Caller) (type : JobType) (T : Φ → (e : Eff) → Ans e → Φ → Prop)
    (I : Nat → Session → Φ → Prop) : Prop where
  read : ∀ e, IsRead (some c) e → Stays T e
  http : ∀ req, req.setsConfig = false → Stays T (.http (some c) req)
  ssh : ∀ ip, Stays T (.ssh c.vm ip)
  follow : Stays T (.insertJob { type := .sshReadinessCheck, vmId := some c.vm })
  put : ∀ j, Stays T (.put (sshPayload j c.vm))
  vm : ∀ {k s φ} (vm : VM), I k s φ → I k { s with vm } φ
  note : ∀ {k k' s φ} (patch : JobMeta) (op : String), patch.operation = some op →
    keyIndex (operationKey (some op)) = k' → k ≤ k' → I k s φ →
    I k' { s with job := { s.job with metadata := s.job.metadata.merge patch } } φ
  succeed : ∀ {k s φ}, (type.provisions = true → 6 ≤ k) → I k s φ →
    I k { s with job := { s.job with status := .success } } φ
  commit : ∀ {k s φ}, I k s φ →
    ∃ φ', T φ (.commit ⟨[⟨c.job, s.job0, s.job⟩], [⟨c.vm, s.vm0, s.vm⟩]⟩) () φ' ∧
      I k { s with job0 := s.job, vm0 := s.vm } φ'
  fail : ∀ {k s φ} (exc : Exc), I k s φ → ∃ φ', T φ (.commit (s.failing c exc)) () φ'

/-- Every other await can be answered. -/
theorem forever_of_isEmpty {e : Eff} (h : IsEmpty (Ans e)) : e = .forever := by
  cases e with
  | forever => rfl
  | http caller req => exact (h.false .connectError).elim
  | insertVM vm job => exact (h.false ((0 : VmId), (0 : JobId))).elim
  | insertJob job | time | utcnow => exact (h.false (0 : Nat)).elim
  | getJob _ | getVM _ | selectTemplate _ | selectLiveHostname _ | connect _ _ =>
    exact (h.false none).elim
  | ssh _ _ => exact (h.false true).elim
  | selectQueued => exact (h.false []).elim
  | _ => exact (h.false ()).elim

/-- What a task may await is found by the protocol of these awaits. -/
theorem within_of_spec {α S : Type} {P : Eff → Prop} {t : Task Eff Ans S Exc α} {s : S}
    {Q : α → S → Unit → Prop} {F : Exc → S → Unit → Prop} (h : Spec (Among P) t s () Q F)
    (hforever : P .forever) : (t s).Within P fun _ => True := by
  apply h.follows.within
  intro e he
  rw [forever_of_isEmpty he]
  exact hforever

theorem index_phase {phase : String} (hp : ':' ∉ phase.toList) (key : String) :
    keyIndex (operationKey (some (phase ++ (":" ++ key)))) = keyIndex key := by
  rw [operationKey_phase hp]

/-- The job has come to some step. -/
def Reached {α Φ : Type} (I : Nat → Session → Φ → Prop) (_ : α) (s : Session) (φ : Φ) : Prop :=
  ∃ k, I k s φ

/-- The job is over. -/
def Ended {α Φ : Type} (_ : α) (_ : Session) (_ : Φ) : Prop := True

section Work
variable {α Φ : Type} {T : Φ → (e : Eff) → Ans e → Φ → Prop} {s : Session} {φ : Φ}
  {Q : α → Session → Φ → Prop} {F : Exc → Session → Φ → Prop}

theorem spec_withVm {f : VM → Work α} (h : Spec T (f s.vm) s φ Q F) :
    Spec T (theVm >>= f) s φ Q F :=
  spec_bind (spec_bind (spec_session (spec_pure h)))

theorem spec_setVm {g : VM → VM} {f : Unit → Work α}
    (h : Spec T (f ()) { s with vm := g s.vm } φ Q F) : Spec T (setVm g >>= f) s φ Q F :=
  spec_bind (spec_assign h)

end Work

namespace WorkRules
variable {α Φ : Type} {settings : Settings} {c : Caller} {type : JobType}
  {T : Φ → (e : Eff) → Ans e → Φ → Prop} {I : Nat → Session → Φ → Prop} {k : Nat} {s : Session} {φ : Φ}
  (rules : WorkRules c type T I)
include rules

section Rules
variable {Q : α → Session → Φ → Prop} {F : Exc → Session → Φ → Prop}

theorem reads_walk {m : Work α} (hm : Reads (IsRead (some c)) m) (hQ : ∀ a, Q a s φ)
    (hF : ∀ x, F x s φ) : Spec T m s φ Q F :=
  (reads_mono hm rules.read).stays hQ hF

theorem looks_walk {m : Work α} (hm : Reads (IsLook (some c)) m) (hQ : ∀ a, Q a s φ)
    (hF : ∀ x, F x s φ) : Spec T m s φ Q F := by
  apply Reads.stays (reads_mono hm _) hQ hF
  intro e he
  cases he with
  | read hread => exact rules.read e hread
  | address node n => exact rules.http _ rfl

variable {Q : Json → Session → Φ → Prop}

theorem request_walk {req : Req} (hreq : req.setsConfig = false) (hQ : ∀ a, Q a s φ)
    (hF : ∀ x, F x s φ) : Spec T (ProxmoxClient.request (some c) req) s φ Q F :=
  (reads_requestOf (rules.http req hreq)).stays hQ hF

variable {Q : Unit → Session → Φ → Prop}

theorem resetMachineId_walk {node : String} {vmid : Int} (hQ : ∀ a, Q a s φ) (hF : ∀ x, F x s φ) :
    Spec T (ProxmoxClient.resetMachineId (some c) node vmid) s φ Q F :=
  (ProxmoxClient.reads_resetMachineIdOf rules.read (fun _ _ _ => rules.http _ rfl) node vmid).stays
    hQ hF

theorem flush_walk (h : I k s φ) (hQ : ∀ s' φ', I k s' φ' → Q () s' φ') :
    Spec T (Clusteration.commit c) s φ Q F := by
  obtain ⟨φ', ht, h'⟩ := rules.commit h
  apply spec_bind
  apply spec_session
  apply spec_bind
  apply spec_await
  intro _
  exact ⟨φ', ht, spec_assign (hQ _ φ' h')⟩

/-- A note in `job.meta` of an operation that is not behind. -/
theorem note_walk {patch : JobMeta} {op : String} {k' : Nat} (h : I k s φ)
    (hop : patch.operation = some op) (hindex : keyIndex (operationKey (some op)) = k') (hk : k ≤ k')
    (hQ : ∀ s' φ', I k' s' φ' → Q () s' φ') : Spec T (setJobMeta c patch) s φ Q F := by
  apply spec_bind
  apply spec_assign
  exact rules.flush_walk (rules.note patch op hop hindex hk h) hQ

end Rules

section Provision
variable {phase : String} {Q : Unit → Session → Φ → Prop}
  {F : Exc → Session → Φ → Prop}

theorem ensureDiskSize_walk {vmid : Int} (hp : ':' ∉ phase.toList)
    (h : I (keyIndex "config-cloudinit") s φ)
    (hQ : ∀ s' φ', I (keyIndex "resize") s' φ' → Q () s' φ')
    (hF : ∀ x s' φ', Reached I x s' φ' → F x s' φ') :
    Spec T (ensureDiskSize c vmid phase) s φ Q F := by
  apply spec_bind
  apply rules.note_walk h rfl (index_phase hp "resize-check") (by decide)
  intro s₁ φ₁ h₁
  apply spec_withVm
  apply spec_bind
  apply rules.reads_walk (ProxmoxClient.reads_vmDiskSizeGb _ _)
  · intro currentGb
    cases currentGb with
    | some currentGb =>
      dsimp only
      split
      · split
        · apply spec_setVm
          exact rules.note_walk (rules.vm _ h₁) rfl (index_phase hp "resize-skip") (by decide) hQ
        · exact spec_pure (hQ s₁ φ₁ h₁)
      · apply spec_bind
        apply rules.request_walk rfl
        · intro _
          exact rules.note_walk h₁ rfl (index_phase hp "resize") (by decide) hQ
        · intro x
          exact hF x s₁ φ₁ ⟨_, h₁⟩
    | none =>
      apply spec_bind
      apply Reads.stays
      · apply reads_exceptProxmox
        · apply reads_bind (reads_requestOf (rules.http _ rfl))
          intro _
          exact reads_pure _
        · intro exc
          exact reads_pure _
      · intro refused
        cases refused with
        | some exc => exact rules.note_walk h₁ rfl (index_phase hp "resize-skip") (by decide) hQ
        | none => exact rules.note_walk h₁ rfl (index_phase hp "resize") (by decide) hQ
      · intro x
        exact hF x s₁ φ₁ ⟨_, h₁⟩
  · intro x
    exact hF x s₁ φ₁ ⟨_, h₁⟩

variable {settings : Settings}

theorem cloneTemplate_walk {template : Template} {Q : Int → Session → Φ → Prop}
    (hp : ':' ∉ phase.toList) (h : I 0 s φ)
    (hQ : ∀ vmid s' φ', I (keyIndex "clone") s' φ' → Q vmid s' φ')
    (hF : ∀ x s' φ', Reached I x s' φ' → F x s' φ') :
    Spec T (cloneTemplate settings c template phase) s φ Q F := by
  apply spec_setVm
  apply spec_bind
  apply rules.flush_walk (rules.vm _ h)
  intro s₁ φ₁ h₁
  apply spec_bind
  apply rules.note_walk h₁ rfl (index_phase hp "resolve-template") (by decide)
  intro s₂ φ₂ h₂
  apply spec_bind
  apply rules.reads_walk (ProxmoxClient.reads_resolveTemplateNode _ _) _ fun x => hF x s₂ φ₂ ⟨_, h₂⟩
  intro node
  apply spec_setVm
  apply spec_bind
  apply rules.flush_walk (rules.vm _ h₂)
  intro s₃ φ₃ h₃
  apply spec_bind
  apply rules.note_walk h₃ rfl (index_phase hp "allocate-vmid") (by decide)
  intro s₄ φ₄ h₄
  apply spec_bind
  apply rules.reads_walk ProxmoxClient.reads_nextId _ fun x => hF x s₄ φ₄ ⟨_, h₄⟩
  intro newVmid
  apply spec_withVm
  apply spec_bind
  apply rules.request_walk rfl _ fun x => hF x s₄ φ₄ ⟨_, h₄⟩
  intro upid
  apply spec_bind
  apply rules.note_walk h₄ rfl (index_phase hp "clone") (by decide)
  intro s₅ φ₅ h₅
  apply spec_bind
  apply rules.reads_walk (ProxmoxClient.reads_waitForTask _ _) _ fun x => hF x s₅ φ₅ ⟨_, h₅⟩
  intro _
  apply spec_setVm
  apply spec_bind
  apply rules.flush_walk (rules.vm _ h₅)
  intro s₆ φ₆ h₆
  exact spec_pure (hQ newVmid s₆ φ₆ h₆)

theorem bootClone_walk {rootPassword : String} {vmid : Int} (hp : ':' ∉ phase.toList)
    (hconfig : ∀ node vmid data, Stays T (.http (some c) (.setConfig node vmid data)))
    (h : I (keyIndex "clone") s φ)
    (hQ : ∀ s' φ', I (keyIndex "start") s' φ' → Q () s' φ')
    (hF : ∀ x s' φ', Reached I x s' φ' → F x s' φ') :
    Spec T (bootClone settings c rootPassword phase vmid) s φ Q F := by
  apply spec_bind
  apply rules.note_walk h rfl (index_phase hp "config-cloudinit") (by decide)
  intro s₁ φ₁ h₁
  apply spec_withVm
  apply spec_bind
  apply Reads.stays (reads_requestOf (hconfig _ _ _)) _ fun x => hF x s₁ φ₁ ⟨_, h₁⟩
  intro _
  apply spec_bind
  apply rules.ensureDiskSize_walk hp h₁ _ hF
  intro s₂ φ₂ h₂
  apply spec_withVm
  apply spec_bind
  apply rules.request_walk rfl _ fun x => hF x s₂ φ₂ ⟨_, h₂⟩
  intro upid
  apply spec_bind
  apply rules.note_walk h₂ rfl (index_phase hp "start") (by decide)
  intro s₃ φ₃ h₃
  apply spec_bind
  apply rules.reads_walk (ProxmoxClient.reads_waitForTask _ _) _ fun x => hF x s₃ φ₃ ⟨_, h₃⟩
  intro _
  apply spec_setVm
  exact rules.flush_walk (rules.vm _ h₃) hQ

theorem firstIp_walk {vmid : Int} {Q : Bool → Session → Φ → Prop}
    (hp : ':' ∉ phase.toList) (h : I (keyIndex "start") s φ)
    (hQ : ∀ found s' φ', I (keyIndex "wait-ip") s' φ' → Q found s' φ')
    (hF : ∀ x s' φ', Reached I x s' φ' → F x s' φ') :
    Spec T (firstIp c phase vmid) s φ Q F := by
  apply spec_catch
  apply spec_withVm
  apply spec_bind
  apply rules.note_walk h rfl (index_phase hp "wait-ip") (by decide)
  intro s₁ φ₁ h₁
  apply spec_bind
  apply rules.looks_walk (ProxmoxClient.looks_waitForIp _ _ _)
  · intro ip
    apply spec_setVm
    apply spec_bind
    apply rules.flush_walk (rules.vm _ h₁)
    intro s₂ φ₂ h₂
    exact spec_pure (hQ true s₂ φ₂ h₂)
  · intro x
    cases x with
    | proxmoxTimeoutError text =>
      apply spec_setVm
      apply spec_bind
      apply rules.note_walk (rules.vm _ h₁) rfl (index_phase hp "wait-ip") (by decide)
      intro s₂ φ₂ h₂
      apply spec_bind
      apply rules.flush_walk h₂
      intro s₃ φ₃ h₃
      exact spec_pure (hQ false s₃ φ₃ h₃)
    | _ => exact spec_raise (hF _ s₁ φ₁ ⟨_, h₁⟩)

theorem resetIdentity_walk {vmid : Int} (hp : ':' ∉ phase.toList)
    (h : I (keyIndex "wait-ip") s φ)
    (hQ : ∀ s' φ', I (keyIndex "ready") s' φ' → Q () s' φ')
    (hF : ∀ x s' φ', Reached I x s' φ' → F x s' φ') :
    Spec T (resetIdentity c phase vmid) s φ Q F := by
  -- the reset and the reboot are one step on the page, and the last note is ahead of it
  have hready : ∀ s' φ', I (keyIndex "reset-machine-id") s' φ' →
      Spec T (theVm >>= fun vm => setJobMeta c
        { operation := some s!"{phase}:ready", node := some vm.node, targetVmid := some vmid })
        s' φ' Q F := by
    intro s' φ' h'
    apply spec_withVm
    exact rules.note_walk h' rfl (index_phase hp "ready") (by decide) hQ
  have hcatch : ∀ x s' φ', I (keyIndex "reset-machine-id") s' φ' →
      if x.isProxmoxError = true then Spec T (pure () : Work Unit) s' φ'
        (fun _ s'' φ'' => Spec T (theVm >>= fun vm => setJobMeta c
          { operation := some s!"{phase}:ready", node := some vm.node, targetVmid := some vmid })
          s'' φ'' Q F) F
      else F x s' φ' := by
    intro x s' φ' h'
    split
    · exact spec_pure (hready s' φ' h')
    · exact hF x s' φ' ⟨_, h'⟩
  apply spec_bind
  apply spec_exceptProxmox
  apply spec_withVm
  apply spec_bind
  apply rules.note_walk h rfl (index_phase hp "reset-machine-id") (by decide)
  intro s₁ φ₁ h₁
  apply spec_bind
  apply rules.resetMachineId_walk _ fun x => hcatch x s₁ φ₁ h₁
  intro _
  apply spec_bind
  apply rules.request_walk rfl _ fun x => hcatch x s₁ φ₁ h₁
  intro rebootUpid
  apply spec_bind
  apply rules.note_walk h₁ rfl (index_phase hp "reboot-uniq") (by decide)
  intro s₂ φ₂ h₂
  apply spec_bind
  apply rules.reads_walk (ProxmoxClient.reads_waitForTask _ _) _ fun x => hcatch x s₂ φ₂ h₂
  intro _
  apply spec_bind
  apply rules.note_walk h₂ rfl (index_phase hp "wait-ip-after-reboot") (by decide)
  intro s₃ φ₃ h₃
  apply spec_bind
  apply rules.looks_walk (ProxmoxClient.looks_waitForIp _ _ _) _ fun x => hcatch x s₃ φ₃ h₃
  intro ip
  apply spec_setVm
  apply rules.flush_walk (rules.vm _ h₃)
  exact hready

/-- A provisioning ends at the address or at the last step. -/
theorem provisionVmFromTemplate_walk {template : Template} {rootPassword : String}
    (hp : ':' ∉ phase.toList)
    (hconfig : ∀ node vmid data, Stays T (.http (some c) (.setConfig node vmid data)))
    (h : I 0 s φ)
    (hQ : ∀ k s' φ', 6 ≤ k → I k s' φ' → Q () s' φ')
    (hF : ∀ x s' φ', Reached I x s' φ' → F x s' φ') :
    Spec T (provisionVmFromTemplate settings c template rootPassword phase) s φ Q F := by
  apply spec_bind
  apply rules.cloneTemplate_walk hp h _ hF
  intro vmid s₁ φ₁ h₁
  apply spec_bind
  apply rules.bootClone_walk hp hconfig h₁ _ hF
  intro s₂ φ₂ h₂
  apply spec_bind
  apply rules.firstIp_walk hp h₂ _ hF
  intro found s₃ φ₃ h₃
  cases found with
  | true =>
    apply rules.resetIdentity_walk hp h₃ _ hF
    intro s₄ φ₄ h₄
    exact hQ _ s₄ φ₄ (by decide) h₄
  | false => exact spec_pure (hQ _ s₃ φ₃ (by decide) h₃)

end Provision

section Jobs
variable {settings : Settings}

theorem createVmJob_walk {rootPassword : String} {Q : Unit → Session → Φ → Prop}
    (hconfig : ∀ node vmid data, Stays T (.http (some c) (.setConfig node vmid data)))
    (h : I 0 s φ) (hQ : ∀ k s' φ', 6 ≤ k → I k s' φ' → Q () s' φ') :
    Spec T (createVmJob settings c rootPassword) s φ Q (Reached I) := by
  apply spec_withVm
  apply spec_bind
  apply rules.reads_walk (reads_await (.selectTemplate _)) _ fun x => ⟨_, h⟩
  intro template
  cases template with
  | none => exact spec_raise ⟨_, h⟩
  | some template =>
    have hphase : ':' ∉ "create".toList := by decide
    exact rules.provisionVmFromTemplate_walk hphase hconfig h hQ fun _ _ _ hx => hx

theorem awaitAddress_walk {op : PowerOp} {node : String} {vmid : Int}
    (h : I k s φ) (hp : ':' ∉ op.action.value.toList) (hk : k ≤ keyIndex "wait-ip") :
    Spec T (awaitAddress c type op node vmid) s φ (Reached I) (Reached I) := by
  unfold awaitAddress
  split
  · apply spec_catch
    apply spec_bind
    apply rules.looks_walk (ProxmoxClient.looks_waitForIp _ _ _)
    · intro ip
      exact spec_assign ⟨_, rules.vm _ h⟩
    · intro x
      cases x with
      | proxmoxTimeoutError text =>
        apply spec_setVm
        apply rules.note_walk (rules.vm _ h) rfl (index_phase hp "wait-ip") hk
        intro s' φ' h'
        exact ⟨_, h'⟩
      | _ => exact spec_raise ⟨_, h⟩
  · exact spec_pure ⟨_, h⟩

theorem powerJob_walk (h : I 0 s φ) :
    Spec T (powerJob c type) s φ (Reached I) (Reached I) := by
  apply spec_withVm
  cases hvmid : s.vm.proxmoxVmid with
  | none => exact spec_raise ⟨_, h⟩
  | some vmid =>
    cases hop : powerOp type with
    | none => exact spec_raise ⟨_, h⟩
    | some op =>
      have hp : ':' ∉ op.action.value.toList := by
        cases op.action <;> decide
      have hle : keyIndex (operationKey (some op.action.value)) ≤ keyIndex "wait-ip" := by
        cases op.action <;> decide
      dsimp only
      apply spec_setVm
      apply spec_bind
      apply rules.flush_walk (rules.vm _ h)
      intro s₁ φ₁ h₁
      apply spec_withVm
      apply spec_bind
      apply rules.reads_walk (ProxmoxClient.reads_resolveVmNode _ _) _ fun x => ⟨_, h₁⟩
      intro node
      apply spec_setVm
      apply spec_bind
      apply rules.request_walk rfl _ fun x => ⟨_, (rules.vm _ h₁)⟩
      intro upid
      apply spec_bind
      apply rules.note_walk (rules.vm _ h₁) rfl rfl (Nat.zero_le _)
      intro s₂ φ₂ h₂
      apply spec_bind
      apply rules.reads_walk (ProxmoxClient.reads_waitForTask _ _) _ fun x => ⟨_, h₂⟩
      intro _
      apply spec_setVm
      apply spec_bind
      apply spec_mono (rules.awaitAddress_walk (rules.vm _ h₂) hp hle) _ fun _ _ _ hx => hx
      intro _ s₃ φ₃ h₃
      obtain ⟨k₃, h₃⟩ := h₃
      exact rules.flush_walk h₃ fun s₄ φ₄ h₄ => ⟨_, h₄⟩

theorem stopIfRunning_walk {vmid : Int} {operation : String} {Q : Unit → Session → Φ → Prop}
    (hp : ':' ∉ operation.toList) (h : I 0 s φ)
    (hQ : ∀ s' φ', I 0 s' φ' → Q () s' φ')
    {F : Exc → Session → Φ → Prop} (hF : ∀ x s' φ', Reached I x s' φ' → F x s' φ') :
    Spec T (stopIfRunning c vmid operation) s φ Q F := by
  have hcatch : ∀ x s' φ', I 0 s' φ' →
      if x.isProxmoxError = true then Spec T (pure () : Work Unit) s' φ' Q F
      else F x s' φ' := by
    intro x s' φ' h'
    split
    · exact spec_pure (hQ s' φ' h')
    · exact hF x s' φ' ⟨_, h'⟩
  apply spec_exceptProxmox
  apply spec_withVm
  apply spec_bind
  apply rules.reads_walk (ProxmoxClient.reads_request rfl rfl) _ fun x => hcatch x s φ h
  intro current
  split
  · apply spec_bind
    apply rules.request_walk rfl _ fun x => hcatch x s φ h
    intro stopUpid
    apply spec_bind
    apply rules.note_walk h rfl (index_phase hp "stop") (Nat.zero_le _)
    intro s₁ φ₁ h₁
    apply spec_bind
    apply rules.reads_walk (ProxmoxClient.reads_waitForTask _ _) _ fun x => hcatch x s₁ φ₁ h₁
    intro _
    exact spec_pure (hQ s₁ φ₁ h₁)
  · exact spec_pure (hQ s φ h)

theorem destroyExistingVm_walk {operation : String} {Q : Unit → Session → Φ → Prop}
    (hp : ':' ∉ operation.toList) (hkey : keyIndex (operationKey (some operation)) = 0)
    (h : I 0 s φ) (hQ : ∀ s' φ', I 0 s' φ' → Q () s' φ') :
    Spec T (destroyExistingVm c operation) s φ Q (Reached I) := by
  apply spec_withVm
  cases hvmid : s.vm.proxmoxVmid with
  | none => exact spec_pure (hQ s φ h)
  | some vmid =>
    dsimp only
    have hfound : ∀ found s' φ', I 0 s' φ' →
        Spec T (if found = true then do
            stopIfRunning c vmid operation
            let vm ← theVm
            let upid ← ProxmoxClient.request (some c) (.destroy vm.node vmid)
            setJobMeta c { node := some vm.node, operation := some operation }
            let _ ← ProxmoxClient.waitForTask (some c) vm.node upid
            pure ()
          else pure ()) s' φ' Q (Reached I) := by
      intro found s' φ' h'
      split
      · apply spec_bind
        apply rules.stopIfRunning_walk hp h' _ fun _ _ _ hx => hx
        intro s₁ φ₁ h₁
        apply spec_withVm
        apply spec_bind
        apply rules.request_walk rfl _ fun x => ⟨_, h₁⟩
        intro upid
        apply spec_bind
        apply rules.note_walk h₁ rfl hkey (Nat.zero_le _)
        intro s₂ φ₂ h₂
        apply spec_bind
        apply rules.reads_walk (ProxmoxClient.reads_waitForTask _ _) _ fun x => ⟨_, h₂⟩
        intro _
        exact spec_pure (hQ s₂ φ₂ h₂)
      · exact spec_pure (hQ s' φ' h')
    apply spec_bind
    apply spec_exceptProxmox
    apply spec_withVm
    apply spec_bind
    apply rules.reads_walk (ProxmoxClient.reads_resolveVmNode _ _)
    · intro node
      apply spec_setVm
      apply spec_bind
      apply rules.flush_walk (rules.vm _ h)
      intro s₁ φ₁ h₁
      exact spec_pure (hfound true s₁ φ₁ h₁)
    · intro x
      split
      · split
        · exact spec_pure (hfound false s φ h)
        · exact spec_raise ⟨_, h⟩
      · exact ⟨_, h⟩

theorem deleteVmJob_walk (h : I 0 s φ) :
    Spec T (deleteVmJob c) s φ (Reached I) (Reached I) := by
  have hphase : ':' ∉ "delete".toList := by decide
  apply spec_setVm
  apply spec_bind
  apply rules.flush_walk (rules.vm _ h)
  intro s₁ φ₁ h₁
  apply spec_bind
  apply rules.destroyExistingVm_walk hphase (by decide) h₁
  intro s₂ φ₂ h₂
  apply spec_bind
  apply rules.reads_walk (reads_await .utcnow) _ fun x => ⟨_, h₂⟩
  intro now
  apply spec_setVm
  exact rules.flush_walk (rules.vm _ h₂) fun s₃ φ₃ h₃ => ⟨_, h₃⟩

theorem reinstallVmJob_walk {rootPassword : String} {templateOs : Option String}
    {Q : Unit → Session → Φ → Prop}
    (hconfig : ∀ node vmid data, Stays T (.http (some c) (.setConfig node vmid data)))
    (h : I 0 s φ) (hQ : ∀ k s' φ', 6 ≤ k → I k s' φ' → Q () s' φ') :
    Spec T (reinstallVmJob settings c rootPassword templateOs) s φ Q (Reached I) := by
  apply spec_withVm
  apply spec_bind
  apply rules.reads_walk (reads_await (.selectTemplate _)) _ fun x => ⟨_, h⟩
  intro template
  cases template with
  | none => exact spec_raise ⟨_, h⟩
  | some template =>
    dsimp only
    split
    · exact spec_raise ⟨_, h⟩
    have hdestroy : ':' ∉ "reinstall-destroy".toList := by decide
    have hphase : ':' ∉ "reinstall".toList := by decide
    apply spec_setVm
    apply spec_bind
    apply rules.flush_walk (rules.vm _ h)
    intro s₁ φ₁ h₁
    apply spec_bind
    apply rules.destroyExistingVm_walk hdestroy (by decide) h₁
    intro s₂ φ₂ h₂
    apply spec_setVm
    apply spec_bind
    apply rules.flush_walk (rules.vm _ h₂)
    intro s₃ φ₃ h₃
    exact rules.provisionVmFromTemplate_walk hphase hconfig h₃ hQ fun _ _ _ hx => hx

theorem trySsh_walk {ip : String} {Q : Bool ⊕ Unit → Session → Φ → Prop}
    {F : Exc → Session → Φ → Prop} (h : I k s φ) (hfail : Q (.inr ()) s φ)
    (hQ : ∀ s' φ', I k s' φ' → Q (.inl true) s' φ') (hF : ∀ x, F x s φ) :
    Spec T (trySsh c ip) s φ Q F := by
  have hopen : Reads (Stays T) (openTerminal (Task.await (Eff.connect c.vm ip))
      (Task.await (Eff.ssh c.vm ip)) : Work (Option ConnId)) := by
    apply reads_bind (reads_await (rules.read _ (.connect c.vm ip)))
    intro conn
    cases conn with
    | none => exact reads_pure _
    | some conn =>
      apply reads_bind (reads_await (rules.ssh ip))
      intro created
      exact reads_pure _
  apply spec_bind
  apply hopen.stays _ hF
  intro term
  cases term with
  | none => exact spec_pure hfail
  | some conn =>
    apply spec_bind
    apply rules.reads_walk (reads_await (.closeConnection conn)) _ hF
    intro _
    apply spec_setVm
    apply spec_bind
    apply rules.flush_walk (rules.vm _ h)
    intro s₁ φ₁ h₁
    exact spec_pure (hQ s₁ φ₁ h₁)

theorem checkSshReady_walk (h : I k s φ) :
    Spec T (checkSshReady c) s φ (Reached I) (Reached I) := by
  have hfailed : ∀ s' φ', I k s' φ' → Spec T (sshFailed c) s' φ' (Reached I) (Reached I) := by
    intro s' φ' h'
    apply spec_setVm
    apply spec_bind
    apply rules.flush_walk (rules.vm _ h')
    intro s₁ φ₁ h₁
    exact spec_pure ⟨_, h₁⟩
  apply spec_withVm
  cases hip : s.vm.ipAddress with
  | none => exact hfailed s φ h
  | some ip =>
    dsimp only
    split
    · exact hfailed s φ h
    apply ProxmoxClient.pollUntil_spec
    · intro e he r
      exact rules.read e (.clock he) φ r
    · apply rules.trySsh_walk h ⟨rfl, rfl⟩
      · intro s₁ φ₁ h₁
        exact ⟨_, h₁⟩
      · intro x
        exact ⟨_, h⟩
    · exact hfailed s φ h

theorem succeed_walk {Q : Unit → Session → Φ → Prop} {F : Exc → Session → Φ → Prop} (h : I k s φ)
    (hk : type.provisions = true → 6 ≤ k) (hQ : ∀ s' φ', Q () s' φ') :
    Spec T (Clusteration.succeed c) s φ Q F := by
  apply spec_bind
  apply spec_assign
  exact rules.flush_walk (rules.succeed hk h) fun s' φ' _ => hQ s' φ'

theorem followUp_walk {F : Exc → Session → Φ → Prop} : Spec T (followUp c) s φ Ended F := by
  apply spec_bind
  apply spec_await
  intro j
  refine ⟨φ, rules.follow φ j, ?_⟩
  apply spec_await
  intro _
  exact ⟨φ, rules.put j φ _, trivial⟩

theorem finish_walk {F : Exc → Session → Φ → Prop} (h : I k s φ)
    (hk : type.provisions = true → 6 ≤ k) :
    Spec T (do Clusteration.succeed c; followUp c) s φ Ended F := by
  apply spec_bind
  apply rules.succeed_walk h hk
  intro _ _
  exact rules.followUp_walk

omit rules in
theorem spec_rootPassword {payload : Payload} {Q : String → Session → Φ → Prop}
    {F : Exc → Session → Φ → Prop} (hQ : ∀ password, Q password s φ) (hF : ∀ x, F x s φ) :
    Spec T (rootPassword payload) s φ Q F := by
  unfold rootPassword
  cases payload.rootPassword with
  | some password => exact spec_pure (hQ password)
  | none => exact spec_raise (hF _)

theorem execute_walk {payload : Payload} {job : Job} (htype : job.type = type)
    (hconfig : type.provisions = true →
      ∀ node vmid data, Stays T (.http (some c) (.setConfig node vmid data)))
    (h : I 0 s φ) : Spec T (execute settings payload c job) s φ Ended (Reached I) := by
  have hpower : type.provisions = false → Spec T (do
        powerJob c type
        Clusteration.succeed c
        if type.bootsVm then followUp c else pure ()) s φ Ended (Reached I) := by
    intro hnot
    apply spec_bind
    apply spec_mono (rules.powerJob_walk h) _ fun _ _ _ hx => hx
    intro _ s₁ φ₁ h₁
    obtain ⟨k₁, h₁⟩ := h₁
    apply spec_bind
    apply rules.succeed_walk h₁ (by simp [hnot])
    intro s₂ φ₂
    split
    · exact rules.followUp_walk
    · exact spec_pure trivial
  unfold execute
  rw [htype]
  cases type with
  | createVm =>
    apply spec_bind
    apply spec_rootPassword _ fun x => ⟨_, h⟩
    intro password
    apply spec_bind
    apply rules.createVmJob_walk (hconfig rfl) h
    intro k₁ s₁ φ₁ hk h₁
    exact rules.finish_walk h₁ fun _ => hk
  | reinstallVm =>
    apply spec_bind
    apply spec_rootPassword _ fun x => ⟨_, h⟩
    intro password
    apply spec_bind
    apply rules.reinstallVmJob_walk (hconfig rfl) h
    intro k₁ s₁ φ₁ hk h₁
    exact rules.finish_walk h₁ fun _ => hk
  | startVm | stopVm | rebootVm => exact hpower rfl
  | deleteVm =>
    apply spec_bind
    apply spec_mono (rules.deleteVmJob_walk h) _ fun _ _ _ hx => hx
    intro _ s₁ φ₁ h₁
    obtain ⟨k₁, h₁⟩ := h₁
    exact rules.succeed_walk h₁ (by simp [JobType.provisions]) fun _ _ => trivial
  | sshReadinessCheck =>
    apply spec_bind
    apply spec_mono (rules.checkSshReady_walk h) _ fun _ _ _ hx => hx
    intro _ s₁ φ₁ h₁
    obtain ⟨k₁, h₁⟩ := h₁
    exact rules.succeed_walk h₁ (by simp [JobType.provisions]) fun _ _ => trivial

theorem jobFailed_walk {exc : Exc} {F : Exc → Session → Φ → Prop} (h : Reached I exc s φ) :
    Spec T (jobFailed c exc) s φ Ended F := by
  obtain ⟨k, h⟩ := h
  obtain ⟨φ', ht⟩ := rules.fail exc h
  apply spec_setVm
  apply spec_bind
  apply spec_assign
  apply spec_bind
  apply spec_session
  apply spec_bind
  apply spec_await
  intro _
  exact ⟨φ', ht, spec_assign trivial⟩

/-- A job, from the commit that begins it. -/
theorem runJob_walk {payload : Payload} {job : Job} {vm : VM} {F : Exc → Session → Φ → Prop}
    (htype : job.type = type)
    (hconfig : type.provisions = true →
      ∀ node vmid data, Stays T (.http (some c) (.setConfig node vmid data)))
    (hbegin : ∃ φ', T φ (.commit ⟨[⟨c.job, job, job.running⟩], [⟨c.vm, vm, vm⟩]⟩) () φ' ∧
      I 0 ⟨job.running, job.running, vm, vm⟩ φ') :
    Spec T (runJob settings payload c job) ⟨job, job, vm, vm⟩ φ Ended F := by
  obtain ⟨φ', ht, h⟩ := hbegin
  apply spec_bind
  apply spec_assign
  apply spec_bind
  apply spec_bind
  apply spec_session
  apply spec_bind
  apply spec_await
  intro _
  refine ⟨φ', ht, spec_assign ?_⟩
  apply spec_catch
  apply spec_mono (rules.execute_walk htype hconfig h) fun _ _ _ hx => hx
  intro exc s₁ φ₁ h₁
  exact rules.jobFailed_walk h₁

end Jobs

end WorkRules

/-- The requests that bring a root password. -/
def Request.bringsPassword : Request → Bool
  | .createVm _ | .reinstallVm _ _ => true
  | _ => false

/-- What the requests await. -/
structure RouteRules (P : Eff → Prop) : Prop where
  read : ∀ e, IsRead none e → P e
  getVM : ∀ v, P (.getVM v)
  mark : ∀ v vm, P (.commit ⟨[], [⟨v, vm, { vm with sshStatus := .pending }⟩]⟩)
  insertJob : ∀ type v metadata, metadata.operation = none ∨ metadata.operation = some "queued" →
    P (.insertJob { type, vmId := some v, metadata })
  insertVM : ∀ vm node template,
    P (.insertVM vm { type := .createVm, metadata := { operation := some "queued", node, template } })
  put : ∀ p : Payload, p.rootPassword = none → P (.put p)
  lock : P .lock
  unlock : P .unlock

namespace RouteRules
variable {settings : Settings} {P : Eff → Prop} (h : RouteRules P)
include h

theorem reads_quiet {α : Type} {t : Route α} (ht : Reads (IsRead none) t) : Reads P t :=
  reads_mono ht h.read

theorem reads_refuse (condition : Bool) (exc : Exc) : Reads P (refuseIf condition exc) :=
  h.reads_quiet (reads_refuseIf condition exc)

theorem reads_getLiveVm (v : VmId) : Reads P (getLiveVm v) := by
  apply reads_bind (reads_await (h.getVM v))
  intro vm
  cases vm with
  | none => exact reads_raise _
  | some vm =>
    dsimp only
    split
    · exact reads_pure _
    · exact reads_raise _

theorem reads_enqueueJob {v : VmId} {type : JobType} {metadata : JobMeta}
    {rootPassword template : Option String}
    (hm : metadata.operation = none ∨ metadata.operation = some "queued")
    (hput : ∀ p : Payload, p.rootPassword = rootPassword → P (.put p)) :
    Reads P (enqueueJob v type metadata rootPassword template) := by
  apply reads_bind (reads_await (h.insertJob type v metadata hm))
  intro j
  apply reads_bind (reads_await (hput _ rfl))
  intro _
  exact reads_pure _

theorem reads_withCreateVmLock {α : Type} {body : Route α} (hb : Reads P body) :
    Reads P (withCreateVmLock body) := by
  apply reads_bind (reads_await h.lock)
  intro _
  apply reads_bind
  · apply reads_catch hb
    intro exc
    apply reads_bind (reads_await h.unlock)
    intro _
    exact reads_raise _
  · intro a
    apply reads_bind (reads_await h.unlock)
    intro _
    exact reads_pure _

theorem reads_insertVm (payload : VMCreate) (template : Template) (size : Int × Int) (node : String) :
    Reads P (insertVm payload template size node) := by
  apply reads_bind (h.reads_quiet (reads_hostnameFree payload.hostname))
  intro _
  apply reads_bind (reads_ofExcept _)
  intro minDiskGb
  exact reads_await (h.insertVM _ _ _)

theorem reads_createVm (payload : VMCreate) (hput : ∀ p, P (.put p)) :
    Reads P (createVm settings payload) := by
  apply reads_bind (h.reads_refuse _ _)
  intro _
  cases vmSizes payload.size with
  | none => exact reads_raise _
  | some size =>
    apply reads_bind (h.reads_refuse _ _)
    intro _
    apply reads_bind (h.reads_quiet (reads_enabledTemplate _))
    intro template
    apply reads_bind (h.reads_quiet (reads_hostnameFree _))
    intro _
    apply reads_bind (h.reads_quiet (reads_validateCreatePreflight settings template))
    intro preflight
    apply reads_bind (h.reads_withCreateVmLock (h.reads_insertVm payload template size preflight.1))
    intro vj
    apply reads_bind (reads_await (hput _))
    intro _
    exact reads_pure _

theorem reads_handle (r : Request) (hput : r.bringsPassword = true → ∀ p, P (.put p)) :
    Reads P (handle settings r) := by
  cases r with
  | createVm payload => exact h.reads_createVm payload (hput rfl)
  | startVm v =>
    apply reads_bind (h.reads_getLiveVm v)
    intro vm
    apply reads_bind (h.reads_refuse _ _)
    intro _
    apply reads_bind (h.reads_refuse _ _)
    intro _
    exact h.reads_enqueueJob (.inl rfl) h.put
  | stopVm v | rebootVm v =>
    apply reads_bind (h.reads_getLiveVm v)
    intro vm
    apply reads_bind (h.reads_refuse _ _)
    intro _
    exact h.reads_enqueueJob (.inl rfl) h.put
  | reinstallVm v payload =>
    apply reads_bind (h.reads_refuse _ _)
    intro _
    apply reads_bind (h.reads_getLiveVm v)
    intro vm
    apply reads_bind (h.reads_refuse _ _)
    intro _
    apply reads_bind (h.reads_refuse _ _)
    intro _
    apply reads_bind (h.reads_quiet (reads_enabledTemplate _))
    intro template
    apply reads_bind (h.reads_quiet (reads_validateCreatePreflight settings template))
    intro preflight
    exact h.reads_enqueueJob (.inr rfl) fun p _ => hput rfl p
  | deleteVm v confirmHostname =>
    apply reads_bind (h.reads_getLiveVm v)
    intro vm
    apply reads_bind (h.reads_refuse _ _)
    intro _
    apply reads_bind (h.reads_refuse _ _)
    intro _
    exact h.reads_enqueueJob (.inl rfl) h.put
  | recheckSsh v =>
    apply reads_bind (h.reads_getLiveVm v)
    intro vm
    apply reads_bind (h.reads_refuse _ _)
    intro _
    apply reads_bind (reads_await (h.mark v vm))
    intro _
    apply reads_bind (reads_await (h.insertJob _ v {} (.inl rfl)))
    intro j
    apply reads_bind (reads_await (h.put _ rfl))
    intro _
    exact reads_pure _

theorem serve_within (settings : Settings) (r : Request) (hput : r.bringsPassword = true → ∀ p, P (.put p)) :
    (serve settings r).Within P fun _ => True := by
  apply Prog.within_bind ((h.reads_handle r hput).within ())
  intro out _
  trivial

end RouteRules

end Clusteration
