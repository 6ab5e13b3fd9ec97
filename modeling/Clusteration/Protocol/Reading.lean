import Clusteration.Framework.Protocol
import Clusteration.Protocol.Phases

open Async Task

namespace Clusteration

variable {S α Φ : Type} {caller : Option Caller}

theorem reads_ofExcept {P : Eff → Prop} (r : Except Exc α) :
    Reads P (ofExcept r : Client S α) := by
  cases r with
  | ok a => exact reads_pure a
  | error x => exact reads_raise x

theorem reads_exceptProxmox {P : Eff → Prop} {m : Client S α} {h : Exc → Client S α}
    (hm : Reads P m) (hh : ∀ x, Reads P (h x)) : Reads P (exceptProxmox m h) := by
  refine reads_catch hm fun x => ?_
  by_cases hx : x.isProxmoxError = true
  · simpa [hx] using hh x
  · simpa [hx] using reads_raise x

theorem reads_requestOf {P : Eff → Prop} {req : Req} (h : P (.http caller req)) :
    Reads P (ProxmoxClient.request caller req : Client S Json) := by
  refine reads_retry (fun _ => ?_) (fun last => ?_) _ _
  · refine reads_bind (reads_await h) fun out => ?_
    cases out.attempt with
    | data d => exact reads_pure _
    | raised x => exact reads_raise x
    | failed f => exact reads_pure _
  · cases last with
    | some f => exact reads_raise _
    | none => exact reads_raise _

namespace ProxmoxClient

theorem reads_request {req : Req} (hreq : req.isGet = true) (hask : req.asksAddress = false) :
    Reads (IsRead caller) (request caller req : Client S Json) :=
  reads_requestOf (.get hreq hask)

theorem reads_nextId : Reads (IsRead caller) (nextId caller : Client S Int) :=
  reads_bind (reads_request rfl rfl) fun _ => reads_ofExcept _

theorem reads_clusterResources :
    Reads (IsRead caller) (clusterResources caller : Client S (List Json)) :=
  reads_bind (reads_request rfl rfl) fun _ => reads_pure _

theorem reads_findVmResource (vmid : Int) :
    Reads (IsRead caller) (findVmResource caller vmid : Client S (Option Dict)) :=
  reads_bind reads_clusterResources fun _ => reads_ofExcept _

theorem reads_vmConfig (node : String) (vmid : Int) :
    Reads (IsRead caller) (vmConfig caller node vmid : Client S Dict) :=
  reads_bind (reads_request rfl rfl) fun _ => reads_pure _

theorem reads_resolveTemplateNode (preferredNode : String) (templateVmid : Int) :
    Reads (IsRead caller)
      (resolveTemplateNode caller preferredNode templateVmid : Client S String) := by
  refine reads_bind (reads_exceptProxmox ?_ fun x => reads_pure _) ?_
  · exact reads_bind (reads_findVmResource _) fun _ => reads_pure _
  rintro ⟨resource, clusterError⟩
  cases resource with
  | some resource =>
    dsimp only
    split
    · split
      · exact reads_raise _
      · exact reads_pure _
    · exact reads_raise _
  | none =>
    dsimp only
    split
    · refine reads_exceptProxmox ?_ fun x => reads_raise _
      refine reads_bind (reads_vmConfig _ _) fun config => ?_
      split
      · exact reads_pure _
      · exact reads_raise _
    · exact reads_raise _

theorem reads_lookupVmNode (vmid : Int) :
    Reads (IsRead caller) (lookupVmNode caller vmid : Client S String) := by
  refine reads_bind (reads_findVmResource _) fun resource => ?_
  cases resource with
  | none => exact reads_raise _
  | some resource =>
    dsimp only
    split
    · exact reads_raise _
    · exact reads_pure _

theorem reads_isOnNode (preferredNode : String) (vmid : Int) :
    Reads (IsRead caller) (isOnNode caller preferredNode vmid : Client S Bool) := by
  unfold isOnNode
  split
  · refine reads_exceptProxmox ?_ fun x => reads_pure _
    exact reads_bind (reads_request rfl rfl) fun _ => reads_pure _
  · exact reads_pure _

theorem reads_resolveVmNode (preferredNode : String) (vmid : Int) :
    Reads (IsRead caller) (resolveVmNode caller preferredNode vmid : Client S String) := by
  refine reads_bind (reads_isOnNode _ _) fun here => ?_
  cases here with
  | true => exact reads_pure _
  | false => exact reads_lookupVmNode vmid

theorem reads_vmDiskSizeGb (node : String) (vmid : Int) :
    Reads (IsRead caller) (vmDiskSizeGb caller node vmid : Client S (Option Int)) := by
  refine reads_bind (reads_exceptProxmox ?_ fun x => reads_pure _) fun listed => ?_
  · exact reads_bind (reads_findVmResource _) fun _ => reads_ofExcept _
  cases listed with
  | some gb => exact reads_pure _
  | none =>
    refine reads_bind (reads_exceptProxmox ?_ fun x => reads_pure _) fun config => ?_
    · exact reads_bind (reads_vmConfig _ _) fun _ => reads_pure _
    cases config with
    | none => exact reads_pure _
    | some config => exact reads_ofExcept _

theorem reads_pollUntilOf {P : Eff → Prop} {timeout interval : Nat} {poll : Client S (α ⊕ Unit)}
    {late : Client S α} (hclock : ∀ e, IsClock e → P e) (hp : Reads P poll) (hl : Reads P late) :
    Reads P (pollUntil timeout interval poll late) := by
  refine reads_bind (reads_await (hclock _ .time)) fun start => reads_retry (fun _ => ?_) (fun past => ?_) _ _
  · refine reads_bind hp fun out => ?_
    cases out with
    | inl a => exact reads_pure _
    | inr u =>
      refine reads_bind (reads_await (hclock _ .time)) fun now => ?_
      split
      · exact reads_pure _
      · exact reads_bind (reads_await (hclock _ (.sleep _))) fun _ => reads_pure _
  · cases past with
    | true => exact hl
    | false => exact reads_bind (reads_await (hclock _ .forever)) fun never => nomatch never

theorem reads_pollUntil {timeout interval : Nat} {poll : Client S (α ⊕ Unit)} {late : Client S α}
    (hp : Reads (IsRead caller) poll) (hl : Reads (IsRead caller) late) :
    Reads (IsRead caller) (pollUntil timeout interval poll late) :=
  reads_pollUntilOf (fun _ he => .clock he) hp hl

theorem reads_waitForTask (node : String) (upid : Json) :
    Reads (IsRead caller) (waitForTask caller node upid : Client S String) := by
  unfold waitForTask
  split
  · refine reads_pollUntil ?_ (reads_raise _)
    refine reads_bind (reads_request rfl rfl) fun status => ?_
    refine reads_bind (reads_ofExcept _) fun ended => ?_
    cases ended with
    | some exitStatus => exact reads_pure _
    | none => exact reads_pure _
  · exact reads_raise _

theorem looks_pollIp (node : String) (vmid : Int) :
    Reads (IsLook caller) (pollIp caller node vmid : Client S (String ⊕ Unit)) := by
  refine reads_bind (reads_exceptProxmox ?_ fun x => reads_pure _) fun ip => ?_
  · exact reads_bind (reads_requestOf (.address node vmid)) fun _ => reads_ofExcept _
  cases ip with
  | some ip => exact reads_pure _
  | none => exact reads_pure _

theorem looks_waitForIp (node : String) (vmid : Int) (timeout : Nat) :
    Reads (IsLook caller) (waitForIp caller node vmid timeout : Client S String) :=
  reads_pollUntilOf (fun _ he => .read (.clock he)) (looks_pollIp _ _) (reads_raise _)

theorem reads_pollExec (node : String) (vmid : Int) (pid : Json) :
    Reads (IsRead caller) (pollExec caller node vmid pid : Client S (String ⊕ Unit)) := by
  refine reads_bind (reads_request rfl rfl) fun status => ?_
  split
  · exact reads_pure _
  · exact reads_pure _

section Requests
variable {P : Eff → Prop} (hread : ∀ e, IsRead caller e → P e)
  (hexec : ∀ node vmid script, P (.http caller (.exec node vmid script)))
include hread hexec

/-- A script in the guest asks for nothing but reads and the request that starts it. -/
theorem reads_agentExecOf (node : String) (vmid : Int) (script : String) :
    Reads P (agentExec caller node vmid script : Client S String) := by
  refine reads_bind (reads_requestOf (hexec node vmid script)) fun started => ?_
  split
  · exact reads_pure _
  · exact reads_mono (reads_pollUntil (reads_pollExec node vmid _) (reads_pure _)) hread

theorem reads_resetMachineIdOf (node : String) (vmid : Int) :
    Reads P (resetMachineId caller node vmid : Client S Unit) := by
  refine reads_retry (fun _ => ?_) (fun last => ?_) _ _
  · refine reads_exceptProxmox ?_ fun exc => reads_pure _
    refine reads_bind (reads_agentExecOf hread hexec node vmid resetScript) fun out => ?_
    split
    · exact reads_pure _
    · exact reads_pure _
  · cases last with
    | some exc => exact reads_raise _
    | none => exact reads_raise _

end Requests

variable {T : Φ → (e : Eff) → Ans e → Φ → Prop} {s : S} {φ : Φ}

/-- A request follows a protocol that takes every failed attempt in its stride and is told how the
answer, or the last failure, moves the phase. -/
theorem request_spec {req : Req} {Q : Json → S → Φ → Prop} {F : Exc → S → Φ → Prop}
    (hdata : ∀ out d, out.attempt = .data d → ∃ φ', T φ (.http caller req) out φ' ∧ Q d s φ')
    (hraised : ∀ out x, out.attempt = .raised x → ∃ φ', T φ (.http caller req) out φ' ∧ F x s φ')
    (hretry : ∀ out f, out.attempt = .failed f → T φ (.http caller req) out φ)
    (hfailed : ∀ out f, out.attempt = .failed f →
      ∃ φ', T φ (.http caller req) out φ' ∧ F (f.exc req) s φ') :
    Spec T (request caller req) s φ Q F := by
  refine spec_retry (fun _ s' φ' => s' = s ∧ φ' = φ) ?_ _ ⟨rfl, rfl⟩
  rintro more _ _ _ ⟨rfl, rfl⟩
  refine spec_bind (spec_await fun out => ?_)
  cases h : out.attempt with
  | data d =>
    obtain ⟨φ', ht, hq⟩ := hdata out d h
    exact ⟨φ', ht, spec_pure hq⟩
  | raised x =>
    obtain ⟨φ', ht, hf⟩ := hraised out x h
    exact ⟨φ', ht, spec_raise hf⟩
  | failed f =>
    by_cases hm : (more && f.retryable) = true
    · refine ⟨_, hretry out f h, spec_pure ?_⟩
      simp only [Option.all_some, hm, if_true, and_self]
    · obtain ⟨φ', ht, hf⟩ := hfailed out f h
      refine ⟨φ', ht, spec_pure ?_⟩
      simp only [Option.all_some, hm]
      exact spec_raise hf

/-- A loop that watches the clock follows a protocol that knows when the wait began, and when it has
gone on for too long, if a poll that comes to nothing leaves the phase. -/
theorem pollUntil_timed {timeout interval : Nat} {poll : Client S (α ⊕ Unit)} {late : Client S α}
    {Q : α → S → Φ → Prop} {F : Exc → S → Φ → Prop} {waiting : Nat → Φ} {past : Φ}
    (hstart : ∀ start, T φ .time start (waiting start))
    (hsoon : ∀ start now, T (waiting start) .time now (waiting start))
    (hpast : ∀ start now, start + timeout ≤ now → T (waiting start) .time now past)
    (hsleep : ∀ start, T (waiting start) (.sleep interval) () (waiting start))
    (hpoll : ∀ start, Spec T poll s (waiting start) (fun out s' φ' =>
      match out with
      | .inl a => Q a s' φ'
      | .inr () => s' = s ∧ φ' = waiting start) F)
    (hlate : Spec T late s past Q F) : Spec T (pollUntil timeout interval poll late) s φ Q F := by
  refine spec_bind (spec_await fun start => ⟨_, hstart start, ?_⟩)
  refine spec_retry (fun _ s' φ' => s' = s ∧ φ' = waiting start) ?_ _ ⟨rfl, rfl⟩
  rintro more t _ _ ⟨rfl, rfl⟩
  refine spec_bind (spec_mono (hpoll start) ?_ fun _ _ _ hF => hF)
  rintro (a | u) s' φ' hr
  · exact spec_pure hr
  obtain ⟨rfl, rfl⟩ := hr
  have hforever : Spec T (pastDeadline late false) s' (waiting start) Q F :=
    spec_bind (spec_await fun never => nomatch never)
  refine spec_bind (spec_await fun now => ?_)
  by_cases hnow : start + timeout ≤ now
  · refine ⟨past, hpast start now hnow, ?_⟩
    rw [if_pos hnow]
    refine spec_pure ?_
    simpa [pastDeadline] using hlate
  · refine ⟨waiting start, hsoon start now, ?_⟩
    rw [if_neg hnow]
    refine spec_bind (spec_await fun u => ⟨_, hsleep start, spec_pure ?_⟩)
    dsimp only
    split
    · exact ⟨rfl, rfl⟩
    · exact hforever

/-- The same where the protocol takes no note of the clock. -/
theorem pollUntil_spec {timeout interval : Nat} {poll : Client S (α ⊕ Unit)} {late : Client S α}
    {Q : α → S → Φ → Prop} {F : Exc → S → Φ → Prop} (hT : ∀ e, IsClock e → ∀ r, T φ e r φ)
    (hpoll : Spec T poll s φ (fun out s' φ' =>
      match out with
      | .inl a => Q a s' φ'
      | .inr () => s' = s ∧ φ' = φ) F)
    (hlate : Spec T late s φ Q F) : Spec T (pollUntil timeout interval poll late) s φ Q F :=
  @pollUntil_timed _ _ _ T s φ timeout interval poll late Q F (fun _ => φ) φ (hT _ .time)
    (fun _ => hT _ .time) (fun _ now _ => hT _ .time now) (fun _ => hT _ (.sleep interval) ())
    (fun _ => hpoll) hlate

/-- A request none of whose answers moves the phase. -/
theorem request_still {req : Req} {Q : Json → S → Φ → Prop} {F : Exc → S → Φ → Prop}
    (hT : ∀ out, T φ (.http caller req) out φ) (hQ : ∀ d, Q d s φ) (hF : ∀ x, F x s φ) :
    Spec T (request caller req) s φ Q F :=
  request_spec (fun out d _ => ⟨φ, hT out, hQ d⟩) (fun out x _ => ⟨φ, hT out, hF x⟩)
    (fun out _ _ => hT out) fun out _ _ => ⟨φ, hT out, hF _⟩

end ProxmoxClient

theorem spec_ofExcept {T : Φ → (e : Eff) → Ans e → Φ → Prop} {s : S} {φ : Φ} {r : Except Exc α}
    {Q : α → S → Φ → Prop} {F : Exc → S → Φ → Prop} (hQ : ∀ a, r = .ok a → Q a s φ)
    (hF : ∀ x, r = .error x → F x s φ) : Spec T (ofExcept r) s φ Q F := by
  cases r with
  | ok a => exact spec_pure (hQ a rfl)
  | error x => exact spec_raise (hF x rfl)

theorem spec_exceptProxmox {T : Φ → (e : Eff) → Ans e → Φ → Prop} {s : S} {φ : Φ}
    {m : Client S α} {h : Exc → Client S α} {Q : α → S → Φ → Prop} {F : Exc → S → Φ → Prop}
    (hm : Spec T m s φ Q fun x s' φ' =>
      if x.isProxmoxError = true then Spec T (h x) s' φ' Q F else F x s' φ') :
    Spec T (exceptProxmox m h) s φ Q F := by
  refine spec_catch (spec_mono hm (fun _ _ _ hq => hq) fun x s' φ' hx => ?_)
  by_cases hp : x.isProxmoxError = true
  · simpa [hp] using hx
  · rw [if_neg hp] at hx
    simpa [hp] using spec_raise hx

end Clusteration
