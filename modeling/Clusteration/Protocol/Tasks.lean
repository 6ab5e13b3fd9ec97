import Clusteration.Protocol.Sessions

open Async Task

namespace Clusteration

variable {c : Caller} {w : Exec} {s : Session} {F : Exc → Session → WorkerPhase → Prop}

/-- Its answer is the UPID the job waits for, when it is a string. -/
theorem accepted_spec {req : Req} {accepted : String → Stage} {Q : Json → Session → WorkerPhase → Prop}
    (hcall : Calls w req) (hc : w.caller = c)
    (hlearn : ∀ out u, upidOf out = some u →
      Learns w (.http (some w.caller) req) out (accepted u))
    (hQ : ∀ u, Q (.str u) s (.exec { w with stage := accepted u }))
    (hQ' : ∀ d, (∀ u, d ≠ .str u) → Q d s (.exec w)) (hF : ∀ x, F x s (.exec w)) :
    Spec WorkerT (ProxmoxClient.request (some c) req) s (.exec w) Q F := by
  subst hc
  have hstill : ∀ out, WorkerT (.exec w) (.http (some w.caller) req) out (.exec w) :=
    fun out => .call hcall
  refine ProxmoxClient.request_spec (fun out d hd => ?_) (fun out x _ => ⟨_, hstill out, hF x⟩)
    (fun out _ _ => hstill out) fun out _ _ => ⟨_, hstill out, hF _⟩
  by_cases hu : ∃ u, d = .str u
  · obtain ⟨u, rfl⟩ := hu
    refine ⟨_, .learn (hlearn out u ?_), hQ u⟩
    simp only [upidOf, hd]
  · exact ⟨_, hstill out, hQ' d fun u h => hu ⟨u, h⟩⟩

theorem taskEnd_exit {out : HttpOutcome} {d : Json} {e : String} (hd : out.attempt = .data d)
    (he : ProxmoxClient.taskEnd d = .ok (some e)) : exitOf out = some "" ∨ exitOf out = some "OK" := by
  cases d with
  | obj status =>
    rw [ProxmoxClient.taskEnd] at he
    split at he
    · next hst =>
      dsimp only at he
      split at he
      · cases he
      · next hx =>
        simp only [exitOf, hd, hst]
        by_cases h : (Dict.get status "exitstatus").strOr = ""
        · exact Or.inl (by rw [h])
        · exact Or.inr (by rw [not_and_not_right.mp hx h])
    · cases he
  | _ => cases he

/-- The wait for a task ends well only with an answer that has the job go on. -/
theorem ended_spec {node u : String} {ended : Stage} {Q : String → Session → WorkerPhase → Prop}
    (hc : w.caller = c)
    (hlearn : ∀ out, exitOf out = some "" ∨ exitOf out = some "OK" →
      Learns w (.http (some w.caller) (.taskStatus node u)) out ended)
    (hQ : ∀ e, Q e s (.exec { w with stage := ended })) (hF : ∀ x, F x s (.exec w)) :
    Spec WorkerT (ProxmoxClient.waitForTask (some c) node (.str u)) s (.exec w) Q F := by
  subst hc
  have hquiet : ∀ out, WorkerT (.exec w) (.http (some w.caller) (.taskStatus node u)) out (.exec w) :=
    fun out => .quiet (.get rfl rfl)
  refine ProxmoxClient.pollUntil_spec (fun e he r => .quiet (.clock he)) ?_ (spec_raise (hF _))
  refine spec_bind (ProxmoxClient.request_spec (fun out d hd => ?_)
    (fun out x _ => ⟨_, hquiet out, hF x⟩) (fun out _ _ => hquiet out)
    fun out _ _ => ⟨_, hquiet out, hF _⟩)
  cases he : ProxmoxClient.taskEnd d with
  | error x =>
    refine ⟨_, hquiet out, spec_bind ?_⟩
    exact spec_raise (hF x)
  | ok r =>
    cases r with
    | some e =>
      refine ⟨.exec { w with stage := ended }, .learn (hlearn out (taskEnd_exit hd he)), spec_bind ?_⟩
      exact spec_pure (spec_pure (hQ e))
    | none =>
      refine ⟨_, hquiet out, spec_bind ?_⟩
      exact spec_pure (spec_pure ⟨rfl, rfl⟩)

theorem waitForTask_not_str {node : String} {d : Json} {Q : String → Session → WorkerPhase → Prop}
    {φ : WorkerPhase} (hd : ∀ u, d ≠ .str u) (hF : ∀ x, F x s φ) :
    Spec WorkerT (ProxmoxClient.waitForTask (some c) node d) s φ Q F := by
  cases d with
  | str u => exact absurd rfl (hd u)
  | _ => exact spec_raise (hF _)

/-- A poll for an address moves the job on only with an answer that names one. -/
theorem pollIp_spec {n : Int} {node : String} {told : String → Stage}
    {Q : String ⊕ Unit → Session → WorkerPhase → Prop}
    (hlearn : ∀ out ip, ipOf out = some ip →
      Learns w (.http (some w.caller) (.networkInterfaces node n)) out (told ip))
    (hc : w.caller = c) (hQ : ∀ ip, Q (.inl ip) s (.exec { w with stage := told ip }))
    (hnone : Q (.inr ()) s (.exec w)) (hF : ∀ x, F x s (.exec w)) :
    Spec WorkerT (ProxmoxClient.pollIp (some c) node n) s (.exec w) Q F := by
  subst hc
  have hsilent : ∀ out, ipOf out = none → WorkerT (.exec w)
      (.http (some w.caller) (.networkInterfaces node n)) out (.exec w) := fun out h => .silent h
  have hfailed : ∀ out f, out.attempt = .failed f → ipOf out = none := by
    intro out f hf
    simp only [ipOf, hf]
  refine spec_bind (spec_exceptProxmox (spec_bind (ProxmoxClient.request_spec (fun out d hd => ?_)
    (fun out x hx => ⟨_, hsilent out ?_, ?_⟩) (fun out f hf => hsilent out (hfailed out f hf))
    fun out f hf => ⟨_, hsilent out (hfailed out f hf), ?_⟩)))
  · cases hip : parseFirstIpv4 d with
    | error x =>
      refine ⟨_, hsilent out ?_, spec_raise ?_⟩
      · simp only [ipOf, hd, hip]
      · split
        · exact spec_pure (spec_pure hnone)
        · exact hF x
    | ok ip =>
      cases ip with
      | some ip =>
        refine ⟨.exec { w with stage := told ip }, .learn (hlearn out ip ?_), ?_⟩
        · simp only [ipOf, hd, hip]
        · exact spec_pure (spec_pure (hQ ip))
      | none =>
        refine ⟨_, hsilent out ?_, ?_⟩
        · simp only [ipOf, hd, hip]
        · exact spec_pure (spec_pure hnone)
  · simp only [ipOf, hx]
  · split
    · exact spec_pure (spec_pure hnone)
    · exact hF x
  · split
    · exact spec_pure (spec_pure hnone)
    · exact hF _

theorem waitForIp_spec {n : Int} {node : String} {timeout : Nat} {told : String → Stage}
    {Q : String → Session → WorkerPhase → Prop}
    (hlearn : ∀ out ip, ipOf out = some ip →
      Learns w (.http (some w.caller) (.networkInterfaces node n)) out (told ip))
    (hc : w.caller = c) (hQ : ∀ ip, Q ip s (.exec { w with stage := told ip }))
    (hF : ∀ x, F x s (.exec w)) :
    Spec WorkerT (ProxmoxClient.waitForIp (some c) node n timeout) s (.exec w) Q F := by
  refine ProxmoxClient.pollUntil_spec (fun e he r => .quiet (.clock he)) ?_ (spec_raise (hF _))
  exact pollIp_spec hlearn hc hQ ⟨rfl, rfl⟩ hF

/-- The request, a note of it and the wait for its task. -/
theorem task_spec {req : Req} {node : String} {patch : JobMeta} {accepted : String → Stage}
    {ended : Stage} {m : Work Unit} {Q : Unit → Session → WorkerPhase → Prop} (h : Fits c w w.x s)
    (hcall : Calls w req) (ht : (patch.targetVmid <|> w.target) = w.target)
    (haccepted : ∀ out u, upidOf out = some u →
      Learns w (.http (some w.caller) req) out (accepted u))
    (hended : ∀ out u, exitOf out = some "" ∨ exitOf out = some "OK" →
      Learns { w with stage := accepted u } (.http (some w.caller) (.taskStatus node u)) out ended)
    (hm : ∀ s', Fits c { w with stage := ended } w.x s' →
      Spec WorkerT m s' (.exec { w with stage := ended }) Q F)
    (hF : ∀ x s', Fits c w w.x s' → F x s' (.exec w))
    (hF' : ∀ x s' u, Fits c { w with stage := accepted u } w.x s' →
      F x s' (.exec { w with stage := accepted u })) :
    Spec WorkerT (do
      let upid ← ProxmoxClient.request (some c) req
      setJobMeta c patch
      let _ ← ProxmoxClient.waitForTask (some c) node upid
      m) s (.exec w) Q F := by
  refine spec_bind (accepted_spec hcall h.caller haccepted (fun u => ?_) (fun d hd => ?_) fun x => hF x s h)
  · refine spec_bind (note_spec (h.stage (accepted u)) ht fun s₁ h₁ => spec_bind ?_)
    exact ended_spec h₁.caller (fun out => hended out u) (fun _ => hm s₁ (h₁.stage ended))
      fun x => hF' x s₁ u h₁
  · refine spec_bind (note_spec h ht fun s₁ h₁ => spec_bind ?_)
    exact waitForTask_not_str hd fun x => hF x s₁ h₁

end Clusteration
