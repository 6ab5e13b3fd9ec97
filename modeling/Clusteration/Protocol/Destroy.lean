import Clusteration.Protocol.Provision

open Async Task

namespace Clusteration

variable {c : Caller} {w : Exec} {s : Session} {Q : Unit → Session → WorkerPhase → Prop}
  {F : Exc → Session → WorkerPhase → Prop}

theorem HttpOutcome.raised_not_proxmox {out : HttpOutcome} {x : Exc}
    (h : out.attempt = .raised x) : x.isProxmoxError = false := by
  unfold HttpOutcome.attempt at h
  split at h
  · cases h
  · cases h
  · cases h
    rfl
  · split at h
    · cases h
    · split at h
      · cases h
      · split at h
        · cases h
          rfl
        · cases h
        · cases h
          rfl

theorem Failure.exc_isProxmoxError (req : Req) (f : Failure) : (f.exc req).isProxmoxError = true := by
  cases f with
  | status code body =>
    simp only [Failure.exc]
    split <;> rfl
  | _ => rfl

theorem findResource_not_proxmox {n : Int} {items : List Json} {x : Exc}
    (h : findResource n items = .error x) : x.isProxmoxError = false := by
  induction items with
  | nil => cases h
  | cons item rest ih =>
    cases item with
    | obj d =>
      rw [findResource] at h
      split at h
      · split at h
        · cases h
        · exact ih h
      · cases h
        rfl
      · exact ih h
    | _ =>
      cases h
      rfl

/-- The stage a job is in after the listing was found wanting. -/
def Exec.gone (w : Exec) : Exec := { w with stage := .gone }

/-- The errors `destroy_existing_vm` takes as a sign that the guest is gone. -/
def saysNotFound (x : Exc) : Bool := x.isProxmoxError && contains x.str "não encontrado"

theorem saysNotFound_notFoundText (n : Int) :
    saysNotFound (.proxmoxError (ProxmoxClient.notFoundText n)) = true :=
  ProxmoxClient.notFoundText_contains n

theorem saysNotFound_withoutNodeText (n : Int) :
    saysNotFound (.proxmoxError (ProxmoxClient.withoutNodeText n)) = false :=
  ProxmoxClient.withoutNodeText_contains n

theorem lookupVmNode_spec {n : Int} {Q : String → Session → WorkerPhase → Prop}
    (hs : w.stage = .deleting) (hn : w.x.vmid = some n) (hc : w.caller = c)
    (hQ : ∀ node, Q node s (.exec w))
    (hF : ∀ x, F x s (.exec (if saysNotFound x then w.gone else w))) :
    Spec WorkerT (ProxmoxClient.lookupVmNode (some c) n) s (.exec w) Q F := by
  subst hc
  have hquiet : ∀ out, WorkerT (.exec w) (.http (some w.caller) .clusterResources) out (.exec w) :=
    fun out => .quiet (.get rfl rfl)
  have hother : ∀ x, saysNotFound x = false → F x s (.exec w) := by
    intro x hx
    have := hF x
    rwa [if_neg (by simp [hx])] at this
  have hgone : ∀ x, saysNotFound x = true → F x s (.exec w.gone) := by
    intro x hx
    have := hF x
    rwa [if_pos hx] at this
  refine spec_bind (spec_bind (spec_bind (ProxmoxClient.request_spec (fun out d hd => ?_)
    (fun out x hx => ⟨_, hquiet out, hother x ?_⟩) (fun out _ _ => hquiet out) fun out f hf => ?_)))
  · cases hr : findResource n (ProxmoxClient.asList d) with
    | error x =>
      refine ⟨_, hquiet out, spec_pure ?_⟩
      rw [hr]
      exact spec_raise (hother x (by simp [saysNotFound, findResource_not_proxmox hr]))
    | ok r =>
      cases r with
      | none =>
        refine ⟨.exec w.gone, .learn (.missing hs hn ?_), spec_pure ?_⟩
        · simp only [missing, hd, hr]
        · rw [hr]
          exact spec_pure (spec_raise (hgone _ (saysNotFound_notFoundText n)))
      | some resource =>
        refine ⟨_, hquiet out, spec_pure ?_⟩
        rw [hr]
        refine spec_pure ?_
        dsimp only
        split
        · exact spec_raise (hother _ (saysNotFound_withoutNodeText n))
        · exact spec_pure (hQ _)
  · simp [saysNotFound, HttpOutcome.raised_not_proxmox hx]
  · by_cases hm : saysNotFound (f.exc .clusterResources) = true
    · refine ⟨.exec w.gone, .learn (.missing hs hn ?_), hgone _ hm⟩
      simp only [saysNotFound, Bool.and_eq_true] at hm
      simp only [missing, hf, hm.2]
    · exact ⟨_, hquiet out, hother _ (by simpa using hm)⟩

theorem isOnNode_spec {n : Int} {preferredNode : String} {Q : Bool → Session → WorkerPhase → Prop}
    (hc : w.caller = c) (hQ : ∀ here, Q here s (.exec w))
    (hF : ∀ x, x.isProxmoxError = false → F x s (.exec w)) :
    Spec WorkerT (ProxmoxClient.isOnNode (some c) preferredNode n) s (.exec w) Q F := by
  subst hc
  unfold ProxmoxClient.isOnNode
  split
  · have hquiet : ∀ out, WorkerT (.exec w)
        (.http (some w.caller) (.statusCurrent preferredNode n)) out (.exec w) :=
      fun out => .quiet (.get rfl rfl)
    refine spec_exceptProxmox (spec_bind (ProxmoxClient.request_spec
      (fun out d _ => ⟨_, hquiet out, spec_pure (hQ true)⟩) (fun out x hx => ⟨_, hquiet out, ?_⟩)
      (fun out _ _ => hquiet out) fun out f _ => ⟨_, hquiet out, ?_⟩))
    · have hp := HttpOutcome.raised_not_proxmox hx
      rw [if_neg (by simp [hp])]
      exact hF x hp
    · split
      · exact spec_pure (hQ false)
      · next hp => exact hF _ (by simpa using hp)
  · exact spec_pure (hQ false)

theorem resolveVmNode_spec {n : Int} {preferredNode : String}
    {Q : String → Session → WorkerPhase → Prop} (hs : w.stage = .deleting)
    (hn : w.x.vmid = some n) (hc : w.caller = c) (hQ : ∀ node, Q node s (.exec w))
    (hF : ∀ x, saysNotFound x = false → F x s (.exec w))
    (hgone : ∀ x, saysNotFound x = true → F x s (.exec w.gone)) :
    Spec WorkerT (ProxmoxClient.resolveVmNode (some c) preferredNode n) s (.exec w) Q F := by
  refine spec_bind (isOnNode_spec hc (fun here => ?_) fun x hx => hF x (by simp [saysNotFound, hx]))
  cases here with
  | true => exact spec_pure (hQ _)
  | false =>
    refine lookupVmNode_spec hs hn hc hQ fun x => ?_
    split
    · next hx => exact hgone x hx
    · next hx => exact hF x (by simpa using hx)

theorem stopIfRunning_spec {n : Int} {operation : String} (h : Fits c w w.x s)
    (hs : w.stage = .deleting) (hn : w.x.vmid = some n)
    (hQ : ∀ s', Fits c w w.x s' → Q () s' (.exec w))
    (hF : ∀ x s', Fits c w w.x s' → F x s' (.exec w)) :
    Spec WorkerT (stopIfRunning c n operation) s (.exec w) Q F := by
  have hcatch : ∀ x s', Fits c w w.x s' →
      (if x.isProxmoxError = true then Spec WorkerT (pure () : Work Unit) s' (.exec w) Q F
        else F x s' (.exec w)) := by
    intro x s' h'
    split
    · exact spec_pure (hQ s' h')
    · exact hF x s' h'
  refine spec_exceptProxmox (theVm_spec (spec_bind ?_))
  refine read_spec (ProxmoxClient.reads_request rfl rfl) h.caller (fun current => ?_)
    fun x => hcatch x s h
  split
  · refine spec_bind (call_spec (.stop _ hs hn) h.caller (fun stopUpid => ?_) fun x => hcatch x s h)
    refine spec_bind (note_spec h rfl fun s₁ h₁ => spec_bind ?_)
    exact read_spec (ProxmoxClient.reads_waitForTask _ _) h₁.caller
      (fun _ => spec_pure (hQ s₁ h₁)) fun x => hcatch x s₁ h₁
  · exact spec_pure (hQ s h)

theorem destroyGuest_spec {n : Int} {operation : String} (h : Fits c w w.x s)
    (hs : w.stage = .deleting) (hn : w.x.vmid = some n)
    (hQ : ∀ s', Fits c w.gone w.x s' → Q () s' (.exec w.gone))
    (hF : ∀ x s' w', w'.type = w.type → w'.stage.raises = true → Fits c w' w'.x s' →
      F x s' (.exec w')) :
    Spec WorkerT (destroyGuest c n operation) s (.exec w) Q F := by
  have hF' : ∀ x s', Fits c w w.x s' → F x s' (.exec w) :=
    fun x s' h' => hF x s' w rfl (by rw [hs]; rfl) h'
  refine spec_bind (spec_exceptProxmox (theVm_spec (spec_bind ?_)))
  refine resolveVmNode_spec hs hn h.caller (fun node => ?_) (fun x hx => ?_) fun x hx => ?_
  · refine setVm_spec (spec_bind (commit_still (h.setVm h.core) fun s₁ h₁ => spec_pure ?_))
    refine spec_bind (stopIfRunning_spec h₁ hs hn (fun s₂ h₂ => theVm_spec ?_) hF')
    exact task_spec h₂ (.destroy _ hs hn) rfl (fun out u => .accepted _ hs hn)
      (fun out u => .destroyed _ rfl) (fun s₃ h₃ => spec_pure (hQ s₃ h₃)) hF'
      fun x s₃ u h₃ => hF x s₃ _ rfl rfl h₃
  · split
    · next hp =>
      have ht : contains x.str "não encontrado" ≠ true := by simpa [saysNotFound, hp] using hx
      rw [if_neg ht]
      exact spec_raise (hF' x s h)
    · exact hF' x s h
  · have hx' := hx
    simp only [saysNotFound, Bool.and_eq_true] at hx'
    rw [if_pos hx'.1, if_pos hx'.2]
    exact spec_pure (spec_pure (hQ s (h.stage .gone)))

end Clusteration
