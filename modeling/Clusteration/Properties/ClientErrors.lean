import Clusteration.Framework.Runs
import Clusteration.Protocol.Destroy
import Clusteration.Protocol.Readable

open Async Task

namespace Clusteration

/-- A call of one of the methods that parse what Proxmox answers. -/
inductive ClientCall where
  | nextId
  | findVmResource (vmid : Int)
  | resolveTemplateNode (preferredNode : String) (templateVmid : Int)
  | resolveVmNode (preferredNode : String) (vmid : Int)
  | vmDiskSizeGb (node : String) (vmid : Int)
  | waitForTask (node upid : String)
  | waitForIp (node : String) (vmid : Int) (timeout : Nat)
  | agentExec (node : String) (vmid : Int) (script : String)

/-- The call, whatever value it returns. -/
def ClientCall.run {S : Type} (caller : Option Caller) : ClientCall → Client S Unit
  | nextId => do let _ ← ProxmoxClient.nextId caller
  | findVmResource vmid => do let _ ← ProxmoxClient.findVmResource caller vmid
  | resolveTemplateNode preferredNode templateVmid => do
    let _ ← ProxmoxClient.resolveTemplateNode caller preferredNode templateVmid
  | resolveVmNode preferredNode vmid => do let _ ← ProxmoxClient.resolveVmNode caller preferredNode vmid
  | vmDiskSizeGb node vmid => do let _ ← ProxmoxClient.vmDiskSizeGb caller node vmid
  | waitForTask node upid => do let _ ← ProxmoxClient.waitForTask caller node (.str upid)
  | waitForIp node vmid timeout => do let _ ← ProxmoxClient.waitForIp caller node vmid timeout
  | agentExec node vmid script => do let _ ← ProxmoxClient.agentExec caller node vmid script

/-- The call can make sense of this data. -/
def ClientCall.readable : ClientCall → Req → Json → Bool
  | nextId, .nextId, d => d.whole
  | findVmResource vmid, .clusterResources, d | resolveTemplateNode _ vmid, .clusterResources, d
  | resolveVmNode _ vmid, .clusterResources, d => listingReadable vmid (ProxmoxClient.asList d)
  | vmDiskSizeGb _ vmid, .clusterResources, d =>
    listingReadable vmid (ProxmoxClient.asList d) &&
      match (ProxmoxClient.asList d).find? (lists vmid) with
      | some (.obj resource) => maxdiskReadable resource
      | _ => true
  | vmDiskSizeGb _ _, .vmConfig _ _, d =>
    optionReadable (Dict.get (ProxmoxClient.asDict d) "scsi0").strOr
  | waitForTask _ _, .taskStatus _ _, d => match d with
    | .obj _ => true
    | _ => false
  | waitForIp _ _ _, .networkInterfaces _ _, d => interfacesReadable d
  | _, _, _ => true

/-- The attempt fails in a way `_request` catches, or its answer is a JSON object whose data the
call can make sense of. -/
def ClientCall.sound (call : ClientCall) (req : Req) (out : HttpOutcome) : Bool :=
  match out.attempt with
  | .data d => call.readable req d
  | .raised _ => false
  | .failed _ => true

/-- The protocol of a call that goes on only as long as the answers are sound. -/
inductive Judges (call : ClientCall) : Bool → (e : Eff) → Ans e → Bool → Prop
  | http (caller : Option Caller) (req : Req) (out : HttpOutcome) :
      Judges call true (.http caller req) out (call.sound req out)
  | clock {e : Eff} (r : Ans e) : IsClock e → Judges call true e r true

/-- A value or a `ProxmoxError`. -/
def handled {α : Type} : Except Exc α → Bool
  | .ok _ => true
  | .error x => x.isProxmoxError

theorem handled_eq_isOk {α : Type} {r : Except Exc α} (h : ∀ x, r = .error x → x.isProxmoxError = false) :
    handled r = r.isOk := by
  cases r with
  | ok a => rfl
  | error x => exact h x rfl

/-- The part `t` of the call ends with a value or a `ProxmoxError` exactly when all the answers it
gets are sound. -/
def Judged {S α : Type} (call : ClientCall) (t : Client S α) : Prop :=
  ∀ s, Spec (Judges call) t s true (fun _ _ ok => ok = true) fun x _ ok => ok = x.isProxmoxError

section Judged
variable {S α β : Type} {call : ClientCall} {caller : Option Caller} {s : S} {t : Client S α}

theorem judges_request {req : Req} {Q : Json → S → Bool → Prop} {F : Exc → S → Bool → Prop}
    (hQ : ∀ d, Q d s (call.readable req d)) (hF : ∀ x, F x s x.isProxmoxError) :
    Spec (Judges call) (ProxmoxClient.request caller req) s true Q F := by
  apply ProxmoxClient.request_spec
  · intro out d hd
    refine ⟨_, .http caller req out, ?_⟩
    rw [ClientCall.sound, hd]
    exact hQ d
  · intro out x hx
    refine ⟨_, .http caller req out, ?_⟩
    have hraised := HttpOutcome.raised_not_proxmox hx
    rw [ClientCall.sound, hx]
    exact hraised ▸ hF x
  · intro out f hf
    have ht : Judges call true (.http caller req) out (call.sound req out) := .http caller req out
    rwa [ClientCall.sound, hf] at ht
  · intro out f hf
    refine ⟨_, .http caller req out, ?_⟩
    have hproxmox := Failure.exc_isProxmoxError req f
    rw [ClientCall.sound, hf]
    exact hproxmox ▸ hF (f.exc req)

theorem judges_ofExcept (r : Except Exc α) : Spec (Judges call) (ofExcept r : Client S α) s (handled r)
    (fun _ _ ok => ok = true) fun x _ ok => ok = x.isProxmoxError := by
  cases r with
  | ok a => exact spec_pure rfl
  | error x => exact spec_raise rfl

theorem judged_pure (a : α) : Judged call (pure a : Client S α) := fun _ => spec_pure rfl

theorem judged_raise {x : Exc} (h : x.isProxmoxError = true) : Judged call (throw x : Client S α) :=
  fun _ => spec_raise h.symm

theorem judged_bind {f : α → Client S β} (ht : Judged call t) (hf : ∀ a, Judged call (f a)) :
    Judged call (t >>= f) := by
  intro s
  refine spec_bind (spec_mono (ht s) ?_ fun _ _ _ hx => hx)
  intro a s' ok hok
  subst hok
  exact hf a s'

theorem judged_exceptProxmox {h : Exc → Client S α} (ht : Judged call t)
    (hh : ∀ x, Judged call (h x)) : Judged call (exceptProxmox t h) := by
  intro s
  refine spec_exceptProxmox (spec_mono (ht s) (fun _ _ _ ha => ha) ?_)
  intro x s' ok hok
  by_cases hx : x.isProxmoxError = true
  · rw [if_pos hx, hok, hx]
    exact hh x s'
  · rw [if_neg hx]
    exact hok

/-- A request whose data the call can always make sense of. -/
theorem judged_request {req : Req} (h : ∀ d, call.readable req d = true) :
    Judged call (ProxmoxClient.request caller req : Client S Json) :=
  fun _ => judges_request h fun _ => rfl

/-- A request with a parser of its data. -/
theorem judged_read {req : Req} {read : Json → Except Exc α}
    (h : ∀ d, call.readable req d = handled (read d)) :
    Judged call (ProxmoxClient.request caller req >>= fun d => ofExcept (read d) : Client S α) := by
  intro s
  refine spec_bind (judges_request ?_ fun _ => rfl)
  intro d
  rw [h d]
  exact judges_ofExcept (read d)

theorem judged_clock {e : Eff} (h : IsClock e) : Judged call (Task.await e : Client S (Ans e)) :=
  fun _ => spec_await fun r => ⟨true, .clock r h, rfl⟩

theorem judged_retry {τ : Type} {body : τ → Client S (α ⊕ τ)} {again : τ → Bool}
    {giveUp : τ → Client S α} (hb : ∀ t, Judged call (body t)) (hg : ∀ t, Judged call (giveUp t))
    (left : Nat) (t : τ) : Judged call (Task.retry body again giveUp left t) := by
  intro s
  apply spec_retry (fun _ _ ok => ok = true)
  · intro more t s ok hok
    subst hok
    refine spec_mono (hb t s) ?_ fun _ _ _ hx => hx
    intro out s' ok hok
    subst hok
    cases out with
    | inl a => rfl
    | inr t' =>
      dsimp only
      split
      · rfl
      · exact hg t' s'
  · rfl

theorem judged_pollUntil {timeout interval : Nat} {poll : Client S (α ⊕ Unit)} {late : Client S α}
    (hpoll : Judged call poll) (hlate : Judged call late) :
    Judged call (ProxmoxClient.pollUntil timeout interval poll late) := by
  refine judged_bind (judged_clock .time) fun start => judged_retry (fun _ => ?_) (fun past => ?_) _ _
  · refine judged_bind hpoll fun out => ?_
    cases out with
    | inl a => exact judged_pure _
    | inr u =>
      refine judged_bind (judged_clock .time) fun now => ?_
      split
      · exact judged_pure _
      · exact judged_bind (judged_clock (.sleep _)) fun _ => judged_pure _
  · cases past with
    | true => exact hlate
    | false => exact judged_bind (judged_clock .forever) fun never => nomatch never

/-- The listing, for a call that goes on with the entry as long as `rest` holds of it. -/
theorem judges_findVmResource {vmid : Int} (rest : Option Dict → Bool)
    {Q : Option Dict → S → Bool → Prop} {F : Exc → S → Bool → Prop}
    (hread : ∀ d, call.readable .clusterResources d =
      match findResource vmid (ProxmoxClient.asList d) with
      | .ok resource => rest resource
      | .error _ => false)
    (hQ : ∀ resource, Q resource s (rest resource)) (hF : ∀ x, F x s x.isProxmoxError) :
    Spec (Judges call) (ProxmoxClient.findVmResource caller vmid) s true Q F := by
  refine spec_bind (spec_bind (judges_request ?_ hF))
  intro d
  rw [hread]
  apply spec_pure
  cases hr : findResource vmid (ProxmoxClient.asList d) with
  | ok resource => exact spec_pure (hQ resource)
  | error x =>
    have hx := hF x
    rw [findResource_not_proxmox hr] at hx
    exact spec_raise hx

theorem judged_findVmResource {vmid : Int} (h : ∀ d, call.readable .clusterResources d =
    listingReadable vmid (ProxmoxClient.asList d)) :
    Judged call (ProxmoxClient.findVmResource caller vmid : Client S (Option Dict)) := by
  intro s
  refine judges_findVmResource (fun _ => true) ?_ (fun _ => rfl) fun _ => rfl
  intro d
  rw [h, ← findResource_isOk]
  cases findResource vmid (ProxmoxClient.asList d) with
  | ok resource => rfl
  | error x => rfl

end Judged

section Methods
variable {S : Type} {caller : Option Caller}

theorem judged_nextId : Judged .nextId (ProxmoxClient.nextId caller : Client S Int) := by
  apply judged_read
  intro d
  rw [handled_eq_isOk fun x hx => toInt_not_proxmox hx, toInt_isOk]
  rfl

theorem judged_resolveTemplateNode (preferredNode : String) (vmid : Int) :
    Judged (.resolveTemplateNode preferredNode vmid)
      (ProxmoxClient.resolveTemplateNode caller preferredNode vmid : Client S String) := by
  refine judged_bind (judged_exceptProxmox ?_ fun x => judged_pure _) ?_
  · exact judged_bind (judged_findVmResource fun d => rfl) fun _ => judged_pure _
  rintro ⟨resource, clusterError⟩
  cases resource with
  | some resource =>
    dsimp only
    split
    · split
      · exact judged_raise rfl
      · exact judged_pure _
    · exact judged_raise rfl
  | none =>
    dsimp only
    split
    · refine judged_exceptProxmox ?_ fun x => judged_raise rfl
      have hconfig : Judged (.resolveTemplateNode preferredNode vmid)
          (ProxmoxClient.vmConfig caller preferredNode vmid : Client S Dict) :=
        judged_bind (judged_request fun d => rfl) fun d => judged_pure _
      refine judged_bind hconfig fun config => ?_
      split
      · exact judged_pure _
      · exact judged_raise rfl
    · exact judged_raise rfl

theorem judged_resolveVmNode (preferredNode : String) (vmid : Int) :
    Judged (.resolveVmNode preferredNode vmid)
      (ProxmoxClient.resolveVmNode caller preferredNode vmid : Client S String) := by
  refine judged_bind ?_ fun here => ?_
  · rw [ProxmoxClient.isOnNode]
    split
    · refine judged_exceptProxmox ?_ fun x => judged_pure _
      exact judged_bind (judged_request fun d => rfl) fun _ => judged_pure _
    · exact judged_pure _
  split
  · exact judged_pure _
  · refine judged_bind (judged_findVmResource fun d => rfl) fun resource => ?_
    cases resource with
    | none => exact judged_raise rfl
    | some resource =>
      dsimp only
      split
      · exact judged_raise rfl
      · exact judged_pure _

theorem judged_vmDiskSizeGb (node : String) (vmid : Int) :
    Judged (.vmDiskSizeGb node vmid)
      (ProxmoxClient.vmDiskSizeGb caller node vmid : Client S (Option Int)) := by
  refine judged_bind (judged_exceptProxmox ?_ fun x => judged_pure _) fun listed => ?_
  · intro s
    refine spec_bind (judges_findVmResource (fun r => (diskSizeGbFromResource r).isOk) ?_ ?_
      fun _ => rfl)
    · intro d
      have hisOk := findResource_isOk vmid (ProxmoxClient.asList d)
      rw [ClientCall.readable, ← hisOk]
      cases hr : findResource vmid (ProxmoxClient.asList d) with
      | error x => rfl
      | ok resource =>
        rw [findResource_find hr]
        cases resource with
        | none => rfl
        | some resource => exact (diskSizeGbFromResource_isOk resource).symm
    · intro resource
      rw [← handled_eq_isOk fun x hx => diskSizeGbFromResource_not_proxmox hx]
      exact judges_ofExcept _
  cases listed with
  | some gb => exact judged_pure _
  | none =>
    intro s
    refine spec_bind (spec_exceptProxmox ?_)
    change Spec _ (ProxmoxClient.vmConfig caller node vmid >>= fun config => pure (some config)) _ _ _ _
    refine spec_bind (spec_bind (judges_request ?_ ?_))
    · intro d
      have hread : (ClientCall.vmDiskSizeGb node vmid).readable (.vmConfig node vmid) d =
          optionReadable (Dict.get (ProxmoxClient.asDict d) "scsi0").strOr := rfl
      rw [hread, ← parseDiskSizeGb_isOk, ← handled_eq_isOk fun x hx => parseDiskSizeGb_not_proxmox hx]
      exact spec_pure (spec_pure (judges_ofExcept _))
    · intro x
      split
      · next hx =>
        rw [hx]
        exact spec_pure (spec_pure rfl)
      · rfl

theorem judged_waitForTask (node upid : String) : Judged (.waitForTask node upid)
    (ProxmoxClient.waitForTask caller node (.str upid) : Client S String) := by
  refine judged_pollUntil ?_ (judged_raise rfl)
  intro s
  refine spec_bind (judges_request ?_ fun _ => rfl)
  intro d
  have hread : (ClientCall.waitForTask node upid).readable (.taskStatus node upid) d =
      handled (ProxmoxClient.taskEnd d) := by
    cases d with
    | obj status =>
      rw [ProxmoxClient.taskEnd]
      split
      · dsimp only
        split
        · rfl
        · rfl
      · rfl
    | _ => rfl
  rw [hread]
  refine spec_bind (spec_mono (judges_ofExcept _) ?_ fun _ _ _ hx => hx)
  intro ended s' ok hok
  subst hok
  cases ended with
  | some exitStatus => exact spec_pure rfl
  | none => exact spec_pure rfl

theorem judged_waitForIp (node : String) (vmid : Int) (timeout : Nat) :
    Judged (.waitForIp node vmid timeout)
      (ProxmoxClient.waitForIp caller node vmid timeout : Client S String) := by
  refine judged_pollUntil ?_ (judged_raise rfl)
  refine judged_bind (judged_exceptProxmox (judged_read fun d => ?_) fun x => judged_pure _) fun ip => ?_
  · rw [handled_eq_isOk fun x hx => parseFirstIpv4_not_proxmox hx, parseFirstIpv4_isOk]
    rfl
  · cases ip with
    | some ip => exact judged_pure _
    | none => exact judged_pure _

theorem judged_agentExec (node : String) (vmid : Int) (script : String) :
    Judged (.agentExec node vmid script)
      (ProxmoxClient.agentExec caller node vmid script : Client S String) := by
  refine judged_bind (judged_request fun d => rfl) fun started => ?_
  split
  · exact judged_pure _
  · refine judged_pollUntil ?_ (judged_pure _)
    refine judged_bind (judged_request fun d => rfl) fun status => ?_
    split
    · exact judged_pure _
    · exact judged_pure _

theorem judged_run (call : ClientCall) : Judged call (call.run caller : Client S Unit) := by
  cases call with
  | nextId => exact judged_bind judged_nextId fun _ => judged_pure _
  | findVmResource vmid => exact judged_bind (judged_findVmResource fun _ => rfl) fun _ => judged_pure _
  | resolveTemplateNode node vmid =>
    exact judged_bind (judged_resolveTemplateNode node vmid) fun _ => judged_pure _
  | resolveVmNode node vmid => exact judged_bind (judged_resolveVmNode node vmid) fun _ => judged_pure _
  | vmDiskSizeGb node vmid => exact judged_bind (judged_vmDiskSizeGb node vmid) fun _ => judged_pure _
  | waitForTask node upid => exact judged_bind (judged_waitForTask node upid) fun _ => judged_pure _
  | waitForIp node vmid timeout =>
    exact judged_bind (judged_waitForIp node vmid timeout) fun _ => judged_pure _
  | agentExec node vmid script =>
    exact judged_bind (judged_agentExec node vmid script) fun _ => judged_pure _

end Methods

/-- The answers a run has had, in order: any outcome answers a request, and the clock is free. -/
inductive Answers : List (Req × HttpOutcome) → (e : Eff) → Ans e → List (Req × HttpOutcome) → Prop
  | http (log : List (Req × HttpOutcome)) (caller : Option Caller) (req : Req) (out : HttpOutcome) :
      Answers log (.http caller req) out (log ++ [(req, out)])
  | clock (log : List (Req × HttpOutcome)) {e : Eff} (r : Ans e) : IsClock e → Answers log e r log

/-- The phase of the protocol is true as long as all the answers so far are sound. -/
theorem judges_answers {call : ClientCall} {ok ok' : Bool} {e : Eff} {r : Ans e}
    {log log' : List (Req × HttpOutcome)} (hj : Judges call ok e r ok') (ha : Answers log e r log')
    (h : ok = log.all fun ans => call.sound ans.1 ans.2) :
    ok' = log'.all fun ans => call.sound ans.1 ans.2 := by
  cases ha with
  | http caller req out =>
    rw [List.all_append, ← h]
    cases hj with
    | http => simp
    | clock _ hc => cases hc
  | clock _ hc =>
    cases hj with
    | http => cases hc
    | clock => exact h

theorem handled_iff_sound {S : Type} (call : ClientCall) (caller : Option Caller) (s s' : S)
    (r : Except Exc Unit) (log : List (Req × HttpOutcome))
    (h : (call.run caller s).Ends Answers [] (r, s') log) :
    handled r = true ↔ ∀ ans ∈ log, call.sound ans.1 ans.2 = true := by
  have hstep : ∀ ok e (r : Ans e) ok' log log', Judges call ok e r ok' → Answers log e r log' →
      ok = (log.all fun ans => call.sound ans.1 ans.2) →
      ok' = log'.all fun ans => call.sound ans.1 ans.2 := by
    intro ok e r ok' log log' hj ha hrel
    exact judges_answers hj ha hrel
  have hjudged : Judged call (call.run caller : Client S Unit) := judged_run call
  obtain ⟨ok, hok, hlog⟩ := h.follows hstep (hjudged s).follows rfl
  rw [← List.all_eq_true, ← hlog]
  cases r with
  | ok a =>
    have hsound : ok = true := hok
    simp [handled, hsound]
  | error x =>
    have hsound : ok = x.isProxmoxError := hok
    simp [handled, hsound]

/-- A free VMID is read. -/
theorem handled_iff_sound_nextId :
    handled (.ok () : Except Exc Unit) = true ↔
      ∀ ans ∈ [(Req.nextId, HttpOutcome.response 200 { json := some (.obj [("data", .int 100)]) })],
        ClientCall.nextId.sound ans.1 ans.2 = true :=
  handled_iff_sound (S := Unit) .nextId none () () (.ok ()) _
    (.await (r := HttpOutcome.response 200 { json := some (.obj [("data", .int 100)]) })
      (.http [] none .nextId _) (.ret _ _))

/-- A connection that breaks while the answer is read gets past the handlers for `ProxmoxError`. -/
theorem nextId_not_handled :
    ¬∀ (call : ClientCall) (r : Except Exc Unit) (log : List (Req × HttpOutcome)),
      (call.run none () : Prog Eff Ans (Except Exc Unit × Unit)).Ends Answers [] (r, ()) log →
        handled r = true := by
  intro h
  have hread := h .nextId (.error (.transport "ReadError")) [(.nextId, .transport "ReadError")]
    (.await (r := HttpOutcome.transport "ReadError") (.http [] none .nextId _) (.ret _ _))
  cases hread

end Clusteration
