import Clusteration.Protocol.Tasks

open Async Task

namespace Clusteration

variable {c : Caller} {w : Exec} {s : Session} {Q : Unit → Session → WorkerPhase → Prop}
  {F : Exc → Session → WorkerPhase → Prop}

theorem some_orElse (n : Int) (o : Option Int) : (some n <|> o) = some n := rfl

theorem resize_spec {n : Int} {size : String} {Q : Json → Session → WorkerPhase → Prop}
    (hs : w.stage = .created n) (hc : w.caller = c) (hQ : ∀ d, Q d s (.exec w))
    (hF : ∀ x, F x s (.exec w)) (node : String) :
    Spec WorkerT (ProxmoxClient.request (some c) (.resize node n "scsi0" size)) s (.exec w) Q F :=
  call_spec (.resize node "scsi0" size hs) hc hQ hF

theorem ensureDiskSize_spec {n : Int} (phase : String) (h : Fits c w w.x s)
    (hs : w.stage = .created n) (ht : w.target = some n)
    (hQ : ∀ s', Fits c w w.x s' → Q () s' (.exec w))
    (hF : ∀ x s', Fits c w w.x s' → F x s' (.exec w)) :
    Spec WorkerT (ensureDiskSize c n phase) s (.exec w) Q F := by
  refine spec_bind (note_spec h ht.symm fun s₁ h₁ => theVm_spec (spec_bind ?_))
  refine read_spec (ProxmoxClient.reads_vmDiskSizeGb _ _) h₁.caller (fun currentGb => ?_)
    fun x => hF x s₁ h₁
  cases currentGb with
  | some gb =>
    dsimp only
    split
    · split
      · refine setVm_spec (note_spec (h₁.setVm ?_) rfl hQ)
        exact h₁.core
      · exact spec_pure (hQ s₁ h₁)
    · refine spec_bind (resize_spec hs h₁.caller (fun d => ?_) (fun x => hF x s₁ h₁) _)
      exact note_spec h₁ rfl hQ
  | none =>
    refine spec_bind (spec_exceptProxmox ?_)
    refine spec_bind (resize_spec hs h₁.caller (fun d => ?_) (fun x => ?_) _)
    · exact spec_pure (note_spec h₁ rfl hQ)
    · split
      · exact spec_pure (note_spec h₁ rfl hQ)
      · exact hF x s₁ h₁

theorem agentExec_spec {n : Int} {node script : String} {Q : String → Session → WorkerPhase → Prop}
    (hs : w.stage = .up n) (hc : w.caller = c) (hQ : ∀ out, Q out s (.exec w))
    (hF : ∀ x, F x s (.exec w)) :
    Spec WorkerT (ProxmoxClient.agentExec (some c) node n script) s (.exec w) Q F := by
  refine spec_bind (call_spec (.exec node script hs) hc (fun started => ?_) hF)
  split
  · exact spec_pure (hQ _)
  · exact read_spec (ProxmoxClient.reads_pollUntil (ProxmoxClient.reads_pollExec _ _ _)
      (reads_pure _)) hc hQ hF

theorem resetMachineId_spec {n : Int} {node : String} (hs : w.stage = .up n) (hc : w.caller = c)
    (hQ : Q () s (.exec w)) (hF : ∀ x, F x s (.exec w)) :
    Spec WorkerT (ProxmoxClient.resetMachineId (some c) node n) s (.exec w) Q F := by
  refine spec_retry (fun _ s' φ' => s' = s ∧ φ' = .exec w) ?_ _ ⟨rfl, rfl⟩
  rintro more last s' _ ⟨rfl, rfl⟩
  -- a try that does not confirm leaves everything to the next one, or to the error at the end
  have hnext : ∀ last', (if (more && true) = true then s' = s' ∧ WorkerPhase.exec w = .exec w
      else Spec WorkerT (ProxmoxClient.resetFailed last') s' (.exec w) Q F) := by
    intro last'
    split
    · exact ⟨rfl, rfl⟩
    · cases last' with
      | some exc => exact spec_raise (hF exc)
      | none => exact spec_raise (hF _)
  refine spec_exceptProxmox (spec_bind (agentExec_spec hs hc (fun out => ?_) fun x => ?_))
  · split
    · exact spec_pure hQ
    · exact spec_pure (hnext last)
  · split
    · exact spec_pure (hnext (some x))
    · exact hF x

/-- The job after its clone is in the record. -/
def Exec.provisioned (w : Exec) (n : Int) : Exec :=
  { w with
    stage := .created n
    target := some n
    x := { w.x with ssh := .pending, status := .provisioning, vmid := some n } }

theorem nextId_spec {Q : Int → Session → WorkerPhase → Prop} (hs : w.stage = .prepared)
    (hc : w.caller = c) (hQ : ∀ n, Q n s (.exec { w with stage := .allocated n }))
    (hF : ∀ x, F x s (.exec w)) :
    Spec WorkerT (ProxmoxClient.nextId (some c)) s (.exec w) Q F := by
  subst hc
  have hquiet : ∀ out, WorkerT (.exec w) (.http (some w.caller) .nextId) out (.exec w) :=
    fun out => .quiet (.get rfl rfl)
  refine spec_bind (ProxmoxClient.request_spec (fun out d hd => ?_)
    (fun out x _ => ⟨_, hquiet out, hF x⟩) (fun out _ _ => hquiet out)
    fun out _ _ => ⟨_, hquiet out, hF _⟩)
  cases hn : d.toInt with
  | ok n =>
    refine ⟨.exec { w with stage := .allocated n }, .learn (.nextId hs ?_), spec_pure (hQ n)⟩
    simp only [nextIdOf, hd, hn]
  | error x => exact ⟨_, hquiet out, spec_raise (hF x)⟩

/-- The clone is accepted under a UPID, or the job is going to raise. -/
theorem clone_spec {n : Int} {node name : String} {templateVmid : Int}
    {Q : Json → Session → WorkerPhase → Prop} (hs : w.stage = .allocated n) (hc : w.caller = c)
    (hQ : ∀ u, Q (.str u) s (.exec w))
    (hQ' : ∀ d, (∀ u, d ≠ .str u) → Q d s (.exec { w with stage := .lost n }))
    (hF : ∀ x, F x s (.exec { w with stage := .lost n })) :
    Spec WorkerT (ProxmoxClient.request (some c) (.clone node templateVmid n name)) s (.exec w) Q F := by
  subst hc
  have hstill : ∀ out, WorkerT (.exec w) (.http (some w.caller) (.clone node templateVmid n name)) out
      (.exec w) := fun out => .call (.clone node templateVmid name hs)
  have hlost : ∀ out, upidOf out = none → WorkerT (.exec w)
      (.http (some w.caller) (.clone node templateVmid n name)) out (.exec { w with stage := .lost n }) :=
    fun out h => .learn (.unaccepted node templateVmid name hs h)
  refine ProxmoxClient.request_spec (fun out d hd => ?_) (fun out x hx => ⟨_, hlost out ?_, hF x⟩)
    (fun out _ _ => hstill out) fun out f hf => ⟨_, hlost out ?_, hF _⟩
  · by_cases hu : ∃ u, d = .str u
    · obtain ⟨u, rfl⟩ := hu
      exact ⟨_, hstill out, hQ u⟩
    · refine ⟨_, hlost out ?_, hQ' d fun u h => hu ⟨u, h⟩⟩
      unfold upidOf
      rw [hd]
      cases d with
      | str u => exact absurd ⟨u, rfl⟩ hu
      | _ => rfl
  · simp only [upidOf, hx]
  · simp only [upidOf, hf]

/-- The wait for the clone's task ends well, or the job is going to raise. -/
theorem copied_spec {n : Int} {node u : String} {Q : String → Session → WorkerPhase → Prop}
    (hs : w.stage = .cloned n) (hc : w.caller = c)
    (hQ : ∀ e start, Q e s (.exec { w with stage := .copying n start }))
    (hF : ∀ x, F x s (.exec { w with stage := .lost n })) :
    Spec WorkerT (ProxmoxClient.waitForTask (some c) node (.str u)) s (.exec w) Q F := by
  subst hc
  refine ProxmoxClient.pollUntil_timed (fun start => .learn (.copying start hs))
    (fun start now => .quiet (.clock .time)) (fun start now h => .learn (.late rfl h))
    (fun start => .quiet (.clock (.sleep _))) (fun start => ?_) (spec_raise (hF _))
  have hquiet : ∀ out, WorkerT (.exec { w with stage := .copying n start })
      (.http (some w.caller) (.taskStatus node u)) out (.exec { w with stage := .copying n start }) :=
    fun out => .quiet (.get rfl rfl)
  have hlost : ∀ out, taskRuns out = false → WorkerT (.exec { w with stage := .copying n start })
      (.http (some w.caller) (.taskStatus node u)) out (.exec { w with stage := .lost n }) :=
    fun out h => .learn (.broken node u rfl h)
  refine spec_bind (ProxmoxClient.request_spec (fun out d hd => ?_)
    (fun out x hx => ⟨_, hlost out ?_, hF x⟩) (fun out _ _ => hquiet out)
    fun out f hf => ⟨_, hlost out ?_, hF _⟩)
  · cases he : ProxmoxClient.taskEnd d with
    | error x =>
      refine ⟨_, hlost out ?_, spec_bind ?_⟩
      · simp only [taskRuns, hd, he]
      · exact spec_raise (hF x)
    | ok r =>
      refine ⟨_, hquiet out, spec_bind ?_⟩
      cases r with
      | some e => exact spec_pure (spec_pure (hQ e start))
      | none => exact spec_pure (spec_pure ⟨rfl, rfl⟩)
  · simp only [taskRuns, hx]
  · simp only [taskRuns, hf]

theorem cloneTemplate_spec {settings : Settings} {template : Template} {phase : String}
    {Q : Int → Session → WorkerPhase → Prop} (h : Fits c w w.x s)
    (hs : (w.stage = .entry ∧ w.type = .createVm) ∨ (w.stage = .blank ∧ w.type = .reinstallVm))
    (hQ : ∀ n s', Fits c (w.provisioned n) (w.provisioned n).x s' →
      Q n s' (.exec (w.provisioned n)))
    (hF : ∀ x s' w', w'.type = w.type → w'.stage.raises = true → Fits c w' w'.x s' →
      F x s' (.exec w')) :
    Spec WorkerT (cloneTemplate settings c template phase) s (.exec w) Q F := by
  refine setVm_spec (spec_bind (commit_spec (h.setVm ?_) (.prepare hs) fun s₁ h₁ => ?_))
  · rw [← h.core]
    rfl
  -- the template's node
  refine spec_bind (note_spec h₁ rfl fun s₂ h₂ => spec_bind ?_)
  refine read_spec (ProxmoxClient.reads_resolveTemplateNode _ _) h₂.caller (fun node => ?_)
    fun x => hF x s₂ _ rfl rfl h₂
  refine setVm_spec (spec_bind (commit_still (h₂.setVm h₂.core) fun s₃ h₃ => ?_))
  refine spec_bind (note_spec h₃ rfl fun s₄ h₄ => spec_bind ?_)
  -- the VMID and the clone
  refine nextId_spec rfl h₄.caller (fun n => ?_) fun x => hF x s₄ _ rfl rfl h₄
  have h₅ := h₄.stage (.allocated n)
  have hlost := h₄.stage (.lost n)
  refine theVm_spec (spec_bind ?_)
  refine clone_spec rfl h₅.caller (fun u => ?_) (fun upid hupid => ?_) fun x => hF x s₄ _ rfl rfl hlost
  · refine spec_bind (setJobMeta_spec h₅ (some_orElse n _) (.target rfl) fun s₆ h₆ => ?_)
    refine spec_bind (copied_spec rfl h₆.caller (fun _ start => ?_)
      fun x => hF x s₆ _ rfl rfl (h₆.stage (.lost n)))
    have h₇ := h₆.stage (.copying n start)
    refine setVm_spec (spec_bind (commit_spec (h₇.setVm ?_) (.adopt rfl) fun s₈ h₈ => ?_))
    · rw [← h₇.core]
      rfl
    · exact spec_pure (hQ n s₈ h₈)
  · refine spec_bind (setJobMeta_spec hlost (some_orElse n _) (.targetLost rfl) fun s₆ h₆ => ?_)
    exact spec_bind (waitForTask_not_str hupid fun x => hF x s₆ _ rfl rfl h₆)

theorem bootClone_spec {n : Int} {settings : Settings} {rootPassword phase : String}
    (h : Fits c w w.x s) (hs : w.stage = .created n) (ht : w.target = some n)
    (hQ : ∀ s' w', w'.type = w.type → w'.stage = .up n → w'.target = some n → Fits c w' w'.x s' →
      Q () s' (.exec w'))
    (hF : ∀ x s' w', w'.type = w.type → w'.stage.raises = true → Fits c w' w'.x s' →
      F x s' (.exec w')) :
    Spec WorkerT (bootClone settings c rootPassword phase n) s (.exec w) Q F := by
  have hF' : ∀ x s', Fits c w w.x s' → F x s' (.exec w) :=
    fun x s' h' => hF x s' w rfl (by rw [hs]; rfl) h'
  refine spec_bind (note_spec h ht.symm fun s₁ h₁ => theVm_spec (spec_bind ?_))
  refine call_spec (.config _ _ hs) h₁.caller (fun _ => ?_) fun x => hF' x s₁ h₁
  refine spec_bind (ensureDiskSize_spec phase h₁ hs ht (fun s₂ h₂ => ?_) hF')
  refine theVm_spec (task_spec h₂ (.start _ hs) rfl (fun out u => .starting _ hs) (fun out u => .started _ rfl)
    (fun s₃ h₃ => ?_) hF' fun x s₃ u h₃ => hF x s₃ _ rfl rfl h₃)
  refine setVm_spec (commit_spec (h₃.setVm ?_) (.booted rfl) fun s₄ h₄ => hQ s₄ _ rfl rfl ht h₄)
  rw [← h₃.core]
  rfl

theorem firstIp_spec {n : Int} {phase : String} {Q : Bool → Session → WorkerPhase → Prop}
    (h : Fits c w w.x s) (hs : w.stage = .up n) (ht : w.target = some n)
    (hup : ∀ s' w', w'.type = w.type → w'.stage = .up n → w'.target = some n → Fits c w' w'.x s' →
      Q true s' (.exec w'))
    (hlate : ∀ s' w', w'.type = w.type → w'.stage = .settled → Fits c w' w'.x s' →
      Q false s' (.exec w'))
    (hF : ∀ x s', Fits c w w.x s' → F x s' (.exec w)) :
    Spec WorkerT (firstIp c phase n) s (.exec w) Q F := by
  refine spec_exceptTimeout (theVm_spec (spec_bind (note_spec h ht.symm fun s₁ h₁ => spec_bind ?_)))
  refine waitForIp_spec (fun out ip => .named _ hs) h₁.caller (fun ip => ?_) fun x => ?_
  · have hnamed := h₁.stage (.named n ip)
    refine setVm_spec (spec_bind (commit_spec (hnamed.setVm ?_) (.address rfl) fun s₂ h₂ => ?_))
    · rw [← hnamed.core]
      rfl
    · exact spec_pure (hup s₂ _ rfl rfl ht h₂)
  · refine ⟨?_, hF x s₁ h₁⟩
    refine setVm_spec (spec_bind (setJobMeta_spec (h₁.setVm ?_) rfl (.noAddress hs) fun s₂ h₂ => ?_))
    · rw [← h₁.core]
      rfl
    · exact spec_bind (commit_still h₂ fun s₃ h₃ => spec_pure (hlate s₃ _ rfl rfl h₃))

theorem resetIdentity_spec {n : Int} {phase : String} (h : Fits c w w.x s) (hs : w.stage = .up n)
    (ht : w.target = some n)
    (hQ : ∀ s' w', w'.type = w.type → w'.stage = .settled → Fits c w' w'.x s' → Q () s' (.exec w'))
    (hF : ∀ x s', Fits c w w.x s' → F x s' (.exec w)) :
    Spec WorkerT (resetIdentity c phase n) s (.exec w) Q F := by
  -- however the reset ends, the job goes on to its last note
  have hready : ∀ s' w', w'.type = w.type → w'.stage = .up n → w'.target = some n →
      Fits c w' w'.x s' → Spec WorkerT (theVm >>= fun vm => setJobMeta c
        { operation := some s!"{phase}:ready", node := some vm.node, targetVmid := some n })
        s' (.exec w') Q F := by
    intro s' w' hw' hs' ht' h'
    exact theVm_spec (setJobMeta_spec h' ht'.symm (.ready hs') fun s'' h'' => hQ s'' _ hw' rfl h'')
  have hcatch : ∀ x s', Fits c w w.x s' →
      (if x.isProxmoxError = true then Spec WorkerT (pure () : Work Unit) s' (.exec w)
        (fun _ s'' φ'' => Spec WorkerT (theVm >>= fun vm => setJobMeta c
          { operation := some s!"{phase}:ready", node := some vm.node, targetVmid := some n })
          s'' φ'' Q F) F
      else F x s' (.exec w)) := by
    intro x s' h'
    split
    · exact spec_pure (hready s' w rfl hs ht h')
    · exact hF x s' h'
  refine spec_bind (spec_exceptProxmox ?_)
  refine theVm_spec (spec_bind (note_spec h ht.symm fun s₁ h₁ => spec_bind ?_))
  refine resetMachineId_spec hs h₁.caller (spec_bind ?_) fun x => hcatch x s₁ h₁
  refine call_spec (.reboot _ hs) h₁.caller (fun upid => ?_) fun x => hcatch x s₁ h₁
  refine spec_bind (note_spec h₁ rfl fun s₂ h₂ => spec_bind ?_)
  refine read_spec (ProxmoxClient.reads_waitForTask _ _) h₂.caller (fun _ => ?_)
    fun x => hcatch x s₂ h₂
  refine spec_bind (note_spec h₂ ht.symm fun s₃ h₃ => spec_bind ?_)
  refine waitForIp_spec (fun out ip => .named _ hs) h₃.caller (fun ip => ?_)
    fun x => hcatch x s₃ h₃
  have hnamed := h₃.stage (.named n ip)
  refine setVm_spec (commit_spec (hnamed.setVm ?_) (.address rfl) fun s₄ h₄ => ?_)
  · rw [← hnamed.core]
    rfl
  · exact hready s₄ _ rfl rfl ht h₄

theorem provisionVmFromTemplate_spec {settings : Settings} {template : Template}
    {rootPassword phase : String} (h : Fits c w w.x s)
    (hs : (w.stage = .entry ∧ w.type = .createVm) ∨ (w.stage = .blank ∧ w.type = .reinstallVm))
    (hQ : ∀ s' w', w'.type = w.type → w'.stage = .settled → Fits c w' w'.x s' → Q () s' (.exec w'))
    (hF : ∀ x s' w', w'.type = w.type → w'.stage.raises = true → Fits c w' w'.x s' →
      F x s' (.exec w')) :
    Spec WorkerT (provisionVmFromTemplate settings c template rootPassword phase) s (.exec w) Q F := by
  refine spec_bind (cloneTemplate_spec h hs (fun n s₁ h₁ => spec_bind ?_) hF)
  refine bootClone_spec h₁ rfl rfl (fun s₂ w₂ hw₂ hs₂ ht₂ h₂ => spec_bind ?_) hF
  have hF₂ : ∀ x s', Fits c w₂ w₂.x s' → F x s' (.exec w₂) :=
    fun x s' h' => hF x s' w₂ hw₂ (by rw [hs₂]; rfl) h'
  refine firstIp_spec h₂ hs₂ ht₂ (fun s₃ w₃ hw₃ hs₃ ht₃ h₃ => ?_) (fun s₃ w₃ hw₃ hs₃ h₃ => ?_) hF₂
  · refine resetIdentity_spec h₃ hs₃ ht₃ (fun s₄ w₄ hw₄ hs₄ h₄ => ?_) fun x s' h' => ?_
    · exact hQ s₄ w₄ (hw₄.trans (hw₃.trans hw₂)) hs₄ h₄
    · exact hF x s' w₃ (hw₃.trans hw₂) (by rw [hs₃]; rfl) h'
  · exact spec_pure (hQ s₃ w₃ (hw₃.trans hw₂) hs₃ h₃)

end Clusteration
