import Clusteration.Framework.Crew
import Clusteration.Front.System

open Async Transition Task

namespace Clusteration.Front

/-- How far a request has come. -/
inductive Phase where
  | fresh
  /-- `create_exposure` found the slug in use -/
  | refused
  | exposed (row : VMExposure)
  /-- `exposure_upstream` has read the VM as well -/
  | looked (row : VMExposure) (vm : Option VM)
  /-- a socket has read an open session -/
  | found (sid : SessionId) (row : TerminalSession)
  | expiring (sid : SessionId)
  | unexpired (sid : SessionId) (row : TerminalSession) (now : Nat)
  /-- and a VM that may have a terminal -/
  | checked (sid : SessionId) (row : TerminalSession) (now : Nat) (vm : VM)
  /-- its claim changed the row and is not committed -/
  | claimed (sid : SessionId) (row : TerminalSession) (now : Nat) (vm : VM)
  | granted (sid : SessionId) (row : TerminalSession) (now : Nat) (vm : VM)
  | serving (sid : SessionId)
  | over

/-- The awaits that no property of these routes is about. -/
inductive Eff.Aside : Eff → Prop
  | getVM {v : VmId} : Aside (.getVM v)
  | insertExposure {row : VMExposure} : Aside (.insertExposure row)
  | getExposure {x : ExposureId} : Aside (.getExposure x)
  | deleteExposure {x : ExposureId} : Aside (.deleteExposure x)
  | utcnow : Aside .utcnow
  | insertSession {row : TerminalSession} : Aside (.insertSession row)
  | refresh {sid : SessionId} : Aside (.refresh sid)
  | sendText {type value : String} : Aside (.sendText type value)
  | closeSocket {code : Nat} : Aside (.closeSocket code)
  | connect {ip : String} : Aside (.connect ip)
  | createProcess : Aside .createProcess
  | pump : Aside .pump
  | closeConnection {conn : ConnId} : Aside (.closeConnection conn)

/-- The phases a request only returns from. -/
def Phase.last : Phase → Bool
  | .refused | .looked _ _ => true
  | _ => false

/-- What a request may do in each phase. -/
inductive PhaseT : Phase → (e : Eff) → Ans e → Phase → Prop
  | aside {φ : Phase} {e : Eff} {a : Ans e} : e.Aside → φ.last = false → PhaseT φ e a φ
  | free {slug : String} : PhaseT .fresh (.selectSlug slug) none .over
  | taken {slug : String} {row : VMExposure} : PhaseT .fresh (.selectSlug slug) (some row) .refused
  | unexposed {slug : String} : PhaseT .fresh (.selectEnabledSlug slug) none .over
  | exposed {slug : String} {row : VMExposure} :
      PhaseT .fresh (.selectEnabledSlug slug) (some row) (.exposed row)
  | looked {row : VMExposure} {vm : Option VM} :
      PhaseT (.exposed row) (.getVM row.vmId) vm (.looked row vm)
  | unknown {sid : SessionId} {ts : Option TerminalSession} :
      PhaseT .fresh (.getSession sid) ts .over
  | found {sid : SessionId} {row : TerminalSession} :
      PhaseT .fresh (.getSession sid) (some row) (.found sid row)
  | expired {sid : SessionId} {row : TerminalSession} {now : Nat} :
      PhaseT (.found sid row) .utcnow now (.expiring sid)
  | unexpired {sid : SessionId} {row : TerminalSession} {now : Nat} : now < row.expiresAt →
      PhaseT (.found sid row) .utcnow now (.unexpired sid row now)
  | expire {sid : SessionId} :
      PhaseT (.expiring sid) (.commitSession sid (some .expired) none) () .over
  | unfit {sid : SessionId} {row : TerminalSession} {now : Nat} {vm : Option VM} :
      PhaseT (.unexpired sid row now) (.getVM row.vmId) vm .over
  | checked {sid : SessionId} {row : TerminalSession} {now : Nat} {vm : VM} :
      VM.terminalReady vm = true →
      PhaseT (.unexpired sid row now) (.getVM row.vmId) (some vm) (.checked sid row now vm)
  | lost {sid : SessionId} {row : TerminalSession} {now : Nat} {vm : VM} :
      PhaseT (.checked sid row now vm) (.claim sid) false .over
  | claimed {sid : SessionId} {row : TerminalSession} {now : Nat} {vm : VM} :
      PhaseT (.checked sid row now vm) (.claim sid) true (.claimed sid row now vm)
  | granted {sid : SessionId} {row : TerminalSession} {now : Nat} {vm : VM} :
      PhaseT (.claimed sid row now vm) (.commitClaim sid) () (.granted sid row now vm)
  | accepted {sid : SessionId} {row : TerminalSession} {now : Nat} {vm : VM} {sent : Bool} :
      PhaseT (.granted sid row now vm) (.accept sid) sent (.serving sid)
  | closed {sid : SessionId} {status : Option TerminalSessionStatus} {now : Nat} :
      status = none ∨ status = some .closed →
      PhaseT (.serving sid) (.commitSession sid status (some now)) () .over

/-- The answer of `exposure_upstream` for an exposure and its VM's row. -/
def dials (row : VMExposure) (vm : Option VM) : List String :=
  match vm with
  | none => []
  | some vm =>
    if vm.deletedAt ≠ none || vm.ipAddress.getD "" = "" then []
    else [vm.ipAddress.getD "" ++ ":" ++ toString row.port]

/-- What a request that returns in this phase returns. -/
def Phase.Returns : Phase → Except Exc Reply → Prop
  | .refused, out => out = .error slugTaken
  | .looked row vm, out => out = .ok (.upstream (dials row vm))
  | _, out => out ≠ .error slugTaken ∧ ∀ ds, out = .ok (.upstream ds) → ds = []

section Handlers
variable {α : Type} {s : Unit} {φ : Phase} {Q : α → Unit → Phase → Prop}
  {F : Exc → Unit → Phase → Prop}

/-- The postconditions of a whole handler. -/
def Replies (a : Reply) (_ : Unit) (φ : Phase) : Prop := φ.Returns (.ok a)

def Raises (x : Exc) (_ : Unit) (φ : Phase) : Prop := φ.Returns (.error x)

theorem returns_of_not_last {out : Except Exc Reply} (hφ : φ.last = false)
    (hx : out ≠ .error slugTaken) (ha : ∀ ds, out = .ok (.upstream ds) → ds = []) :
    φ.Returns out := by
  cases φ <;> first | exact ⟨hx, ha⟩ | cases hφ

theorem raises {x : Exc} (hφ : φ.last = false) (hx : x ≠ slugTaken) : Raises x s φ := by
  apply returns_of_not_last hφ
  · intro h
    exact hx (Except.error.inj h)
  · simp

theorem replies {a : Reply} (hφ : φ.last = false) (ha : ∀ ds, a = .upstream ds → ds = []) :
    Replies a s φ := by
  apply returns_of_not_last hφ
  · simp
  · intro ds h
    exact ha ds (Except.ok.inj h)

theorem aside_spec {e : Eff} {Q : Ans e → Unit → Phase → Prop} (he : e.Aside)
    (hφ : φ.last = false) (hQ : ∀ a, Q a s φ) : Spec PhaseT (await e) s φ Q F :=
  spec_await fun a => ⟨φ, .aside he hφ, hQ a⟩

theorem refuseIf_spec {condition : Bool} {exc : Exc} {Q : Unit → Unit → Phase → Prop}
    (hQ : Q () s φ) (hF : F exc s φ) : Spec PhaseT (refuseIf condition exc) s φ Q F := by
  unfold refuseIf
  split
  · exact spec_raise hF
  · exact spec_pure hQ

theorem getLiveVm_spec {v : VmId} {Q : VM → Unit → Phase → Prop} (hφ : φ.last = false)
    (hQ : ∀ vm, Q vm s φ) : Spec PhaseT (getLiveVm v) s φ Q Raises := by
  have hnot : Raises (.appHTTPException "VM_NOT_FOUND" "VM não encontrada" 404) s φ :=
    raises hφ (by simp [slugTaken])
  apply spec_bind
  apply aside_spec .getVM hφ
  intro vm
  cases vm with
  | none => exact spec_raise hnot
  | some vm =>
    dsimp only
    split
    · exact spec_pure (hQ vm)
    · exact spec_raise hnot

theorem createExposure_spec {v : VmId} {payload : ExposureCreate} :
    Spec PhaseT (createExposure v payload) s .fresh Replies Raises := by
  apply spec_bind
  apply getLiveVm_spec rfl
  intro vm
  apply spec_bind
  apply spec_await
  intro existing
  cases existing with
  | some row => exact ⟨_, .taken, spec_bind (spec_raise rfl)⟩
  | none =>
    refine ⟨_, .free, spec_bind (spec_pure ?_)⟩
    apply spec_bind
    apply aside_spec .insertExposure rfl
    intro x
    cases x with
    | some x => exact spec_pure (replies rfl (by simp))
    | none => exact spec_raise (raises rfl (by simp [slugTaken]))

theorem deleteExposure_spec {v : VmId} {x : ExposureId} :
    Spec PhaseT (deleteExposure v x) s .fresh Replies Raises := by
  have hdone : Replies .noContent s .fresh := replies rfl (by simp)
  apply spec_bind
  apply getLiveVm_spec rfl
  intro vm
  apply spec_bind
  apply aside_spec .getExposure rfl
  intro exposure
  cases exposure with
  | none => exact spec_pure hdone
  | some exposure =>
    dsimp only
    split
    · exact spec_bind (aside_spec .deleteExposure rfl fun _ => spec_pure hdone)
    · exact spec_pure hdone

theorem exposureUpstream_spec {settings : Settings} {host : String}
    {xProxySecret : Option String} :
    Spec PhaseT (exposureUpstream settings host xProxySecret) s .fresh Replies Raises := by
  have hnothing : ∀ φ, Phase.last φ = false → Replies (.upstream []) s φ :=
    fun φ hφ => replies hφ (by simp)
  unfold exposureUpstream
  split
  · exact spec_pure (hnothing _ rfl)
  split
  · exact spec_pure (hnothing _ rfl)
  apply spec_bind
  apply spec_await
  intro exposure
  cases exposure with
  | none => exact ⟨_, .unexposed, spec_pure (hnothing _ rfl)⟩
  | some exposure =>
    refine ⟨_, .exposed, spec_bind (spec_await fun vm => ⟨_, .looked, ?_⟩)⟩
    have hret : ∀ ds, ds = dials exposure vm → Replies (.upstream ds) s (.looked exposure vm) := by
      intro ds hds
      subst hds
      rfl
    cases vm with
    | none => exact spec_pure (hret _ rfl)
    | some vm =>
      dsimp only
      split
      · next hcond => exact spec_pure (hret _ (by simp only [dials, hcond, if_true]))
      · next hcond => exact spec_pure (hret _ (by simp only [dials, hcond]; rfl))

theorem createTerminalSession_spec {settings : Settings} {v : VmId} :
    Spec PhaseT (createTerminalSession settings v) s .fresh Replies Raises := by
  apply spec_bind
  apply getLiveVm_spec rfl
  intro vm
  apply spec_bind
  refine refuseIf_spec ?_ (raises rfl (by simp [slugTaken]))
  apply spec_bind
  apply aside_spec .utcnow rfl
  intro now
  apply spec_bind
  apply aside_spec .insertSession rfl
  intro sid
  exact spec_pure (replies rfl (by simp))

/-- What `validate_and_claim_session` returns. -/
def Validated (claimed : Option (SessionId × TerminalSession × VM)) (_ : Unit) (φ : Phase) : Prop :=
  φ.last = false ∧ ∀ sid ts vm, claimed = some (sid, ts, vm) →
    ∃ row now vm', φ = .granted sid row now vm'

theorem validated_none (hφ : φ.last = false) : Validated none s φ := ⟨hφ, by simp⟩

theorem validateAndClaimSession_spec {sessionId : Option SessionId} :
    Spec PhaseT (validateAndClaimSession sessionId) s .fresh Validated Raises := by
  unfold validateAndClaimSession
  cases sessionId with
  | none => exact spec_pure (validated_none rfl)
  | some sid =>
    apply spec_bind
    apply spec_await
    intro ts
    cases ts with
    | none => exact ⟨_, .unknown, spec_pure (validated_none rfl)⟩
    | some row =>
      by_cases hopen : row.status.open = true
      · refine ⟨_, .found, ?_⟩
        simp only [hopen, Bool.not_true, Bool.false_eq_true, if_false]
        apply spec_bind
        apply spec_await
        intro now
        by_cases hnow : row.expiresAt ≤ now
        · refine ⟨_, .expired, ?_⟩
          simp only [hnow, if_true]
          exact spec_bind (spec_await fun _ => ⟨_, .expire, spec_pure (validated_none rfl)⟩)
        · refine ⟨_, .unexpired (Nat.lt_of_not_le hnow), ?_⟩
          simp only [hnow, if_false]
          apply spec_bind
          apply spec_await
          intro vm
          cases vm with
          | none => exact ⟨_, .unfit, spec_pure (validated_none rfl)⟩
          | some vm =>
            by_cases hready : VM.terminalReady vm = true
            · refine ⟨_, .checked hready, ?_⟩
              simp only [hready, Bool.not_true, Bool.false_eq_true, if_false]
              apply spec_bind
              apply spec_await
              intro claimed
              cases claimed with
              | false => exact ⟨_, .lost, spec_pure (validated_none rfl)⟩
              | true =>
                refine ⟨_, .claimed, ?_⟩
                refine spec_bind (spec_await fun _ => ⟨_, .granted, ?_⟩)
                apply spec_bind
                apply aside_spec .refresh rfl
                intro ts'
                cases ts' with
                | none => exact spec_raise (raises rfl (by simp [slugTaken]))
                | some ts' =>
                  refine spec_pure ⟨rfl, ?_⟩
                  intro sid' ts'' vm' heq
                  cases heq
                  exact ⟨_, _, _, rfl⟩
            · refine ⟨_, .unfit, ?_⟩
              simp only [hready, Bool.not_false, if_true]
              exact spec_pure (validated_none rfl)
      · refine ⟨_, .unknown, ?_⟩
        simp only [hopen, Bool.not_false, if_true]
        exact spec_pure (validated_none rfl)

theorem sendText_spec {type value : String} {Q : Unit → Unit → Phase → Prop} (hφ : φ.last = false)
    (hQ : Q () s φ) (hF : ∀ x, x ≠ slugTaken → F x s φ) :
    Spec PhaseT (sendText type value) s φ Q F := by
  apply spec_bind
  apply aside_spec .sendText hφ
  intro sent
  exact refuseIf_spec hQ (hF _ (by simp [slugTaken]))

theorem openTerminal_spec {ip : String} {Q : Option ConnId → Unit → Phase → Prop}
    (hφ : φ.last = false) (hQ : ∀ term, Q term s φ) :
    Spec PhaseT (openTerminal (await (Eff.connect ip)) (await Eff.createProcess)) s φ Q F := by
  apply spec_bind
  apply aside_spec .connect hφ
  intro conn
  cases conn with
  | none => exact spec_pure (hQ _)
  | some conn =>
    apply spec_bind
    apply aside_spec .createProcess hφ
    intro created
    exact spec_pure (hQ _)

theorem converse_spec {ip : String} {Q : Option ConnId × String → Unit → Phase → Prop}
    (hφ : φ.last = false) (hQ : ∀ out, Q out s φ) : Spec PhaseT (converse ip) s φ Q F := by
  apply spec_bind
  apply openTerminal_spec hφ
  intro term
  cases term with
  | none =>
    apply spec_bind
    apply aside_spec .sendText hφ
    intro _
    exact spec_pure (hQ _)
  | some conn =>
    have hfailed : Spec PhaseT (do
        let _ ← Task.await (Eff.sendText "error" "erro ao conectar no terminal")
        pure "ssh_error" : Route String) s φ
        (fun reason s' φ' => Spec PhaseT (pure (some conn, reason)) s' φ' Q F) F := by
      apply spec_bind
      apply aside_spec .sendText hφ
      intro _
      exact spec_pure (spec_pure (hQ _))
    refine spec_bind (spec_catch (spec_bind (sendText_spec hφ ?_ fun _ _ => hfailed)))
    apply spec_bind
    apply aside_spec .pump hφ
    intro ended
    cases ended with
    | done reason => exact spec_pure (spec_pure (hQ _))
    | timeout => exact spec_pure (spec_pure (hQ _))
    | error => exact spec_raise hfailed

theorem closeTerm_spec {term : Option ConnId} {sid : SessionId} {Q : Unit → Unit → Phase → Prop}
    (hQ : Q () s (.serving sid)) : Spec PhaseT (closeTerm term) s (.serving sid) Q F := by
  cases term with
  | some conn => exact aside_spec .closeConnection rfl fun _ => hQ
  | none => exact spec_pure hQ

theorem terminalWebsocket_spec {sessionId : Option SessionId} :
    Spec PhaseT (terminalWebsocket sessionId) s .fresh Replies Raises := by
  apply spec_bind
  refine spec_mono validateAndClaimSession_spec ?_ fun _ _ _ hF => hF
  intro claimed s' φ' hv
  obtain ⟨hφ, hgranted⟩ := hv
  cases claimed with
  | none =>
    apply spec_bind
    apply aside_spec .closeSocket hφ
    intro _
    exact spec_pure (replies hφ (by simp))
  | some claimed =>
    obtain ⟨sid, ts, vm⟩ := claimed
    obtain ⟨row, now, vm', rfl⟩ := hgranted sid ts vm rfl
    refine spec_bind (spec_await fun accepted => ⟨_, .accepted, ?_⟩)
    refine spec_bind (refuseIf_spec ?_ (raises rfl (by simp [slugTaken])))
    refine spec_bind (sendText_spec rfl ?_ fun x hx => raises rfl hx)
    refine spec_bind (converse_spec rfl fun out => ?_)
    refine spec_bind (closeTerm_spec ?_)
    apply spec_bind
    apply aside_spec .utcnow rfl
    intro now'
    have hstatus : (if ts.status = .closed then none else some TerminalSessionStatus.closed) = none ∨
        (if ts.status = .closed then none else some TerminalSessionStatus.closed) =
          some .closed := by
      split
      · exact .inl rfl
      · exact .inr rfl
    refine spec_bind (spec_await fun _ => ⟨_, .closed hstatus, ?_⟩)
    apply spec_bind
    apply aside_spec .sendText rfl
    intro told
    split
    · apply spec_bind
      apply aside_spec .closeSocket rfl
      intro _
      exact spec_pure (replies rfl (by simp))
    · exact spec_pure (replies rfl (by simp))

end Handlers

theorem serve_follows (settings : Settings) (r : Request) :
    (serve settings r).Follows PhaseT .fresh fun out φ => φ.Returns out := by
  have hspec : Spec PhaseT (handle settings r) () .fresh Replies Raises := by
    cases r with
    | createExposure v payload => exact createExposure_spec
    | deleteExposure v x => exact deleteExposure_spec
    | exposureUpstream host xProxySecret => exact exposureUpstream_spec
    | createTerminalSession v => exact createTerminalSession_spec
    | terminalWs sessionId => exact terminalWebsocket_spec
  refine Prog.follows_bind hspec.follows ?_
  rintro ⟨out, s'⟩ φ hout
  cases out with
  | ok a => exact hout
  | error x => exact hout

theorem ans_nonempty (e : Eff) : Nonempty (Ans e) := by
  cases e <;> first
    | exact ⟨none⟩
    | exact ⟨()⟩
    | exact ⟨(0 : Nat)⟩
    | exact ⟨true⟩
    | exact ⟨PumpEnd.timeout⟩

/-- In its last phase a request returns. -/
theorem follows_last {p : Handler} {φ : Phase}
    (h : p.Follows PhaseT φ fun out φ' => φ'.Returns out) (hφ : φ.last = true) :
    ∃ out, p = .ret out ∧ φ.Returns out := by
  cases p with
  | ret out => exact ⟨out, rfl, h⟩
  | await e k =>
    obtain ⟨r⟩ := ans_nonempty e
    obtain ⟨φ', ht, -⟩ := h r
    cases ht with
    | aside _ hnot =>
      rw [hnot] at hφ
      cases hφ
    | _ => cases hφ

/-- The requests are in these phases. -/
def Sys.In (s : Sys) (φs : List Phase) : Prop := Crew PhaseT (fun out φ => φ.Returns out) s.requests φs

/-- The state after request `i` went through an await. -/
def Sys.answer (s : Sys) (sh : Shared) (requests : List Handler) (entry : Entry) : Sys :=
  { s with
    exposures := sh.exposures
    nextExposure := sh.nextExposure
    sessions := sh.sessions
    locks := sh.locks
    requests
    hist := entry :: s.hist }

/-- The state after the process has ended. -/
def Sys.crash (s : Sys) (panel : Clusteration.Sys) : Sys :=
  { s with panel, locks := fun _ => false, requests := s.requests.map fun _ => killed }

theorem In.crash {s : Sys} {φs : List Phase} (h : s.In φs) (p : Clusteration.Sys) :
    (s.crash p).In (φs.map fun _ => .over) := by
  have hkilled : Phase.over.Returns (.error (.runtimeError "killed")) :=
    returns_of_not_last rfl (by simp [slugTaken]) (by simp)
  exact Crew.replace h hkilled

/-- One step of a run whose requests are in known phases. -/
inductive PStep : Sys → List Phase → Label → Sys → List Phase → Prop
  | panel {s : Sys} {φs : List Phase} {l : Clusteration.Label} {p : Clusteration.Sys} : l ≠ .crash →
      Clusteration.Step s.panel l p → PStep s φs (.panel l) { s with panel := p } φs
  | crash {s : Sys} {φs : List Phase} {p : Clusteration.Sys} : Clusteration.Step s.panel .crash p →
      PStep s φs (.panel .crash) (s.crash p) (φs.map fun _ => .over)
  | receive {s : Sys} {φs : List Phase} {requests : List Handler} (r : Request) :
      PStep s φs (.receive r) { s with requests } (φs ++ [.fresh])
  | await {s : Sys} {φs : List Phase} {i : Nat} {e : Eff} {a : Ans e} {sh : Shared}
      {requests : List Handler} {φ φ' : Phase} : φs[i]? = some φ → PhaseT φ e a φ' →
      Act s.shared e a sh →
      PStep s φs (.await i e a) (s.answer sh requests ⟨i, e, a⟩) (φs.set i φ')

theorem In.step {s s' : Sys} {l : Label} {φs : List Phase} (h : s.In φs) (hs : Step s l s') :
    ∃ φs', s'.In φs' ∧ PStep s φs l s' φs' := by
  cases hs with
  | panel hl hp => exact ⟨φs, h, .panel hl hp⟩
  | crash hp => exact ⟨_, In.crash h _, .crash hp⟩
  | receive r ha hb => exact ⟨_, Crew.join h (serve_follows _ r), .receive r⟩
  | await hp hact =>
    obtain ⟨φ, φ', hφ, ht, hr⟩ := Crew.await h hp _
    exact ⟨_, hr, .await hφ ht hact⟩

/-- An invariant of the states and the phases. -/
theorem Reachable.phased {cond : Cond} {I : Sys → List Phase → Prop}
    (hi : ∀ s, Initial s → I s [])
    (hs : ∀ s φs l s' φs', Reachable cond s → s.In φs → I s φs → PStep s φs l s' φs' →
      cond s l s' → I s' φs') {s : Sys} (h : Reachable cond s) : ∃ φs, s.In φs ∧ I s φs := by
  induction h with
  | start h0 =>
    refine ⟨[], ?_, hi _ h0⟩
    unfold Sys.In
    rw [h0.requests]
    exact .nil
  | next hr hstep hok ih =>
    obtain ⟨φs, hin, hI⟩ := ih
    obtain ⟨φs', hin', hp⟩ := In.step hin hstep
    exact ⟨φs', hin', hs _ _ _ _ _ hr hin hI hp hok⟩

end Clusteration.Front
