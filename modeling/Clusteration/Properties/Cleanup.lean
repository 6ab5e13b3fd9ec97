import Clusteration.Properties.Terminals
import Clusteration.Protocol.Answers

open Async Transition Task

namespace Clusteration

inductive ConnMove where
  | opened (conn : ConnId)
  | closed (conn : ConnId)

/-- The connections that are open after these moves. Both lists are newest first. -/
def stillOpen : List ConnMove → List ConnId
  | [] => []
  | .opened conn :: moves => conn :: stillOpen moves
  | .closed conn :: moves => (stillOpen moves).erase conn

def connMove : ((e : Eff) × Ans e) → Option ConnMove
  | ⟨.connect _ _, some conn⟩ => some (.opened conn)
  | ⟨.closeConnection conn, _⟩ => some (.closed conn)
  | _ => none

/-- The connections a coroutine has opened and not closed. -/
def leftOpen (log : List ((e : Eff) × Ans e)) : List ConnId := stillOpen (log.filterMap connMove)

/-- `create_process` raised, on a connection that was open. -/
def processFailed : ((e : Eff) × Ans e) → Bool
  | ⟨.ssh _ _, created⟩ => !created
  | _ => false

section Check
variable {c : Caller} {s : Session} {log : List ((e : Eff) × Ans e)}

/-- As many connections are left as processes failed. -/
def Balanced (log : List ((e : Eff) × Ans e)) : Prop :=
  (leftOpen log).length = log.countP processFailed

theorem Balanced.other {e : Eff} {a : Ans e} (h : Balanced log) (hm : connMove ⟨e, a⟩ = none)
    (hf : processFailed ⟨e, a⟩ = false) : Balanced (⟨e, a⟩ :: log) := by
  unfold Balanced leftOpen at h ⊢
  rw [List.filterMap_cons_none hm, List.countP_cons_of_neg (by simp [hf])]
  exact h

theorem trySsh_balanced {ip : String} (h : Balanced log) :
    Each Recorded (trySsh c ip) s log (fun _ _ log' => Balanced log') fun _ _ log' => Balanced log' := by
  refine each_bind (each_bind (each_await ?_))
  rintro conn _ rfl
  cases conn with
  | none => exact each_pure (each_pure (h.other rfl rfl))
  | some conn =>
    have hopen : leftOpen (⟨.connect c.vm ip, some conn⟩ :: log) = conn :: leftOpen log := rfl
    refine each_bind (each_await ?_)
    rintro created _ rfl
    cases created with
    | false =>
      refine each_pure (each_pure ?_)
      unfold Balanced at h ⊢
      rw [List.countP_cons_of_pos rfl, List.countP_cons_of_neg (by simp [processFailed]), ← h]
      rfl
    | true =>
      refine each_pure (each_bind (each_await ?_))
      rintro _ _ rfl
      have hclosed : Balanced (⟨.closeConnection conn, ()⟩ :: ⟨.ssh c.vm ip, true⟩ ::
          ⟨.connect c.vm ip, some conn⟩ :: log) := by
        unfold Balanced at h ⊢
        rw [List.countP_cons_of_neg (by simp [processFailed]),
          List.countP_cons_of_neg (by simp [processFailed]),
          List.countP_cons_of_neg (by simp [processFailed]), ← h]
        change ((conn :: leftOpen log).erase conn).length = _
        rw [List.erase_cons_head]
      refine each_bind (each_assign (each_bind (each_bind (each_session (each_bind (each_await ?_))))))
      rintro _ _ rfl
      exact each_assign (each_pure (hclosed.other rfl rfl))

theorem sshFailed_balanced (h : Balanced log) :
    Each Recorded (sshFailed c) s log (fun _ _ log' => Balanced log') fun _ _ log' => Balanced log' := by
  refine each_bind (each_assign (each_bind (each_bind (each_session (each_bind (each_await ?_))))))
  rintro _ _ rfl
  exact each_assign (each_pure (h.other rfl rfl))

theorem checkSshReady_balanced (h : Balanced log) :
    Each Recorded (checkSshReady c) s log (fun _ _ log' => Balanced log') fun _ _ log' => Balanced log' := by
  refine each_bind (each_bind (each_session (each_pure ?_)))
  cases s.vm.ipAddress with
  | none => exact sshFailed_balanced h
  | some ip =>
    dsimp only
    split
    · exact sshFailed_balanced h
    refine each_pollUntil (I := fun _ log' => Balanced log') ?_ ?_ ?_ ?_ h
    · rintro _ log' now _ h rfl
      exact h.other rfl rfl
    · rintro _ log' _ h rfl
      exact h.other rfl rfl
    · intro s log' h
      refine each_mono (trySsh_balanced h) ?_ fun _ _ _ hF => hF
      rintro (a | u) s' log'' hr
      · exact hr
      · exact hr
    · exact fun s log' h => sshFailed_balanced h

/-- The check leaves a connection open for every process that failed. -/
theorem checkSshReady_leaves {out : Except Exc Bool × Session}
    (h : (checkSshReady c s).Ends Recorded [] out log) :
    leftOpen log = [] ↔ ∀ entry ∈ log, processFailed entry = false := by
  have hb : Balanced log := by
    have hempty : Balanced [] := rfl
    have hr := checkSshReady_balanced hempty _ _ h
    obtain ⟨r, s'⟩ := out
    cases r with
    | ok a => exact hr
    | error x => exact hr
  rw [← List.length_eq_zero_iff, hb, List.countP_eq_zero]
  simp

/-- A session whose VM has an address. -/
def addressed : Session :=
  let job : Job := { type := .sshReadinessCheck }
  let vm : VM := { hostname := "a", template := "debian", ipAddress := some "10.0.0.5" }
  ⟨job, job, vm, vm⟩

/-- A connection, a process that fails, and a deadline that has passed. -/
theorem addressed_check_ends : ∃ out log,
    (checkSshReady ⟨0, 0⟩ addressed).Ends Recorded [] out log ∧ leftOpen log ≠ [] := by
  apply Exists.intro
  apply Exists.intro
  apply And.intro
  · apply Prog.Ends.await (r := (0 : Nat)) rfl
    apply Prog.Ends.await (r := some (0 : Nat)) rfl
    apply Prog.Ends.await (r := false) rfl
    apply Prog.Ends.await (r := (90000 : Nat)) rfl
    apply Prog.Ends.await (r := ()) rfl
    exact .ret _ _
  · decide

end Check

namespace Front

/-- What request `i` did to the connections. -/
def Entry.connMove (i : Nat) : Entry → Option ConnMove
  | ⟨j, .connect _, some conn⟩ => if j = i then some (.opened conn) else none
  | ⟨j, .closeConnection conn, _⟩ => if j = i then some (.closed conn) else none
  | _ => none

/-- The connections request `i` has opened and not closed. -/
def connections (hist : List Entry) (i : Nat) : List ConnId :=
  stillOpen (hist.filterMap (Entry.connMove i))

/-- No socket is refused or gone before its terminal is connecting, no process fails on an SSH
connection that is open, and no session that is closed is marked as expired. -/
structure Cond.clean (t : Sys) (l : Label) (_ : Sys) : Prop where
  accepted : ∀ i sid, l ≠ .await i (.accept sid) false
  greeted : ∀ i, l ≠ .await i (.sendText "status" "connecting") false
  created : ∀ i, l ≠ .await i .createProcess false
  expired : ∀ i sid closedAt, l = .await i (.commitSession sid (some .expired) closedAt) () →
    ∀ row, t.sessions.get sid = some row → row.status ≠ .closed

/-- What a request still has to clean up; `closed` says whether it has read its session as closed. -/
inductive Care where
  | fresh
  | claimed (sid : SessionId)
  /-- the row was gone when it was read again -/
  | lost (sid : SessionId)
  | held (sid : SessionId) (closed : Bool)
  | greeted (sid : SessionId) (closed : Bool)
  /-- its connection is open and without a process -/
  | opened (sid : SessionId) (closed : Bool) (conn : ConnId)
  | talking (sid : SessionId) (closed : Bool) (conn : ConnId)
  | ending (sid : SessionId) (closed : Bool)
  | cleaned (sid : SessionId)
  | broken
  | dead

/-- The awaits, with their answers, that neither claim, open nor close anything. -/
def Eff.apart : (e : Eff) → Ans e → Bool
  | .claim _, claimed => !claimed
  | .accept _, accepted => accepted
  | .commitSession _ _ _, _ => false
  | .refresh _, _ => false
  | .connect _, _ => false
  | .createProcess, _ => false
  | .closeConnection _, _ => false
  | _, _ => true

/-- How a request cleans up, and where it does not. -/
inductive CareT : Care → (e : Eff) → Ans e → Care → Prop
  | apart {φ : Care} {e : Eff} {a : Ans e} : e.apart a = true → CareT φ e a φ
  | expired {sid : SessionId} : CareT .fresh (.commitSession sid (some .expired) none) () .fresh
  | claimed {sid : SessionId} : CareT .fresh (.claim sid) true (.claimed sid)
  | lost {sid : SessionId} : CareT (.claimed sid) (.refresh sid) none (.lost sid)
  | held {sid : SessionId} {row : TerminalSession} :
      CareT (.claimed sid) (.refresh sid) (some row) (.held sid (row.status = .closed))
  | refused {sid : SessionId} {closed : Bool} :
      CareT (.held sid closed) (.accept sid) false .broken
  | gone {sid : SessionId} {closed : Bool} :
      CareT (.held sid closed) (.sendText "status" "connecting") false .broken
  | greeted {sid : SessionId} {closed : Bool} :
      CareT (.held sid closed) (.sendText "status" "connecting") true (.greeted sid closed)
  | unconnected {sid : SessionId} {closed : Bool} {ip : String} :
      CareT (.greeted sid closed) (.connect ip) none (.ending sid closed)
  | connected {sid : SessionId} {closed : Bool} {ip : String} {conn : ConnId} :
      CareT (.greeted sid closed) (.connect ip) (some conn) (.opened sid closed conn)
  | uncreated {sid : SessionId} {closed : Bool} {conn : ConnId} :
      CareT (.opened sid closed conn) .createProcess false .broken
  | created {sid : SessionId} {closed : Bool} {conn : ConnId} :
      CareT (.opened sid closed conn) .createProcess true (.talking sid closed conn)
  | closed {sid : SessionId} {closed : Bool} {conn : ConnId} :
      CareT (.talking sid closed conn) (.closeConnection conn) () (.ending sid closed)
  | cleaned {sid : SessionId} {closed : Bool} {status : Option TerminalSessionStatus} {now : Nat} :
      status = some .closed ∨ status = none ∧ closed = true →
      CareT (.ending sid closed) (.commitSession sid status (some now)) () (.cleaned sid)
  | broken {e : Eff} {a : Ans e} : CareT .broken e a .broken

/-- A request may return here. -/
def Care.idle : Care → Bool
  | .fresh | .lost _ | .cleaned _ | .broken => true
  | _ => false

def Care.Over (out : Except Exc Reply) (φ : Care) : Prop :=
  φ.idle = true ∨ φ = .dead ∧ out = .error (.runtimeError "killed")

section Handlers
variable {s : Unit} {φ : Care} {F : Exc → Unit → Care → Prop}

def Idle {α : Type} (_ : α) (_ : Unit) (φ : Care) : Prop := φ.idle = true

theorem apart_care {e : Eff} {Q : Ans e → Unit → Care → Prop} (he : ∀ a, e.apart a = true)
    (hQ : ∀ a, Q a s φ) : Spec CareT (await e) s φ Q F :=
  spec_await fun a => ⟨φ, .apart (he a), hQ a⟩

theorem broken_care {e : Eff} {Q : Ans e → Unit → Care → Prop} (hQ : ∀ a, Q a s .broken) :
    Spec CareT (await e) s .broken Q F :=
  spec_await fun a => ⟨.broken, .broken, hQ a⟩

theorem refuseIf_care {condition : Bool} {exc : Exc} {Q : Unit → Unit → Care → Prop}
    (hQ : Q () s φ) (hF : F exc s φ) : Spec CareT (refuseIf condition exc) s φ Q F := by
  unfold refuseIf
  split
  · exact spec_raise hF
  · exact spec_pure hQ

theorem getLiveVm_care {v : VmId} {Q : VM → Unit → Care → Prop} (hφ : φ.idle = true)
    (hQ : ∀ vm, Q vm s φ) : Spec CareT (getLiveVm v) s φ Q Idle := by
  apply spec_bind
  apply apart_care fun _ => rfl
  intro vm
  cases vm with
  | none => exact spec_raise hφ
  | some vm =>
    dsimp only
    split
    · exact spec_pure (hQ vm)
    · exact spec_raise hφ

theorem createExposure_care {v : VmId} {payload : ExposureCreate} :
    Spec CareT (createExposure v payload) s .fresh Idle Idle := by
  apply spec_bind
  apply getLiveVm_care rfl
  intro vm
  apply spec_bind
  apply apart_care fun _ => rfl
  intro existing
  apply spec_bind
  refine refuseIf_care ?_ rfl
  apply spec_bind
  apply apart_care fun _ => rfl
  intro x
  cases x with
  | some x => exact spec_pure rfl
  | none => exact spec_raise rfl

theorem deleteExposure_care {v : VmId} {x : ExposureId} :
    Spec CareT (deleteExposure v x) s .fresh Idle Idle := by
  apply spec_bind
  apply getLiveVm_care rfl
  intro vm
  apply spec_bind
  apply apart_care fun _ => rfl
  intro exposure
  cases exposure with
  | none => exact spec_pure rfl
  | some exposure =>
    dsimp only
    split
    · exact spec_bind (apart_care (fun _ => rfl) fun _ => spec_pure rfl)
    · exact spec_pure rfl

theorem exposureUpstream_care {settings : Settings} {host : String} {xProxySecret : Option String} :
    Spec CareT (exposureUpstream settings host xProxySecret) s .fresh Idle Idle := by
  unfold exposureUpstream
  split
  · exact spec_pure rfl
  split
  · exact spec_pure rfl
  apply spec_bind
  apply apart_care fun _ => rfl
  intro exposure
  cases exposure with
  | none => exact spec_pure rfl
  | some exposure =>
    apply spec_bind
    apply apart_care fun _ => rfl
    intro vm
    cases vm with
    | none => exact spec_pure rfl
    | some vm =>
      dsimp only
      split
      · exact spec_pure rfl
      · exact spec_pure rfl

theorem createTerminalSession_care {settings : Settings} {v : VmId} :
    Spec CareT (createTerminalSession settings v) s .fresh Idle Idle := by
  apply spec_bind
  apply getLiveVm_care rfl
  intro vm
  apply spec_bind
  refine refuseIf_care ?_ rfl
  apply spec_bind
  apply apart_care fun _ => rfl
  intro now
  apply spec_bind
  apply apart_care fun _ => rfl
  intro sid
  exact spec_pure rfl

/-- A session is handed over as it was read back. -/
def Claims (claimed : Option (SessionId × TerminalSession × VM)) (_ : Unit) (φ : Care) : Prop :=
  match claimed with
  | none => φ = .fresh
  | some (sid, ts, _) => φ = .held sid (ts.status = .closed)

theorem validateAndClaimSession_care {sessionId : Option SessionId} :
    Spec CareT (validateAndClaimSession sessionId) s .fresh Claims Idle := by
  unfold validateAndClaimSession
  cases sessionId with
  | none => exact spec_pure rfl
  | some sid =>
    apply spec_bind
    apply apart_care fun _ => rfl
    intro ts
    cases ts with
    | none => exact spec_pure rfl
    | some row =>
      dsimp only
      split
      · exact spec_pure rfl
      apply spec_bind
      apply apart_care fun _ => rfl
      intro now
      split
      · exact spec_bind (spec_await fun _ => ⟨_, .expired, spec_pure rfl⟩)
      apply spec_bind
      apply apart_care fun _ => rfl
      intro vm
      cases vm with
      | none => exact spec_pure rfl
      | some vm =>
        dsimp only
        split
        · exact spec_pure rfl
        refine spec_bind (spec_await fun claimed => ?_)
        cases claimed with
        | false => exact ⟨_, .apart rfl, spec_pure rfl⟩
        | true =>
          refine ⟨_, .claimed, ?_⟩
          apply spec_bind
          apply apart_care fun _ => rfl
          intro _
          refine spec_bind (spec_await fun ts' => ?_)
          cases ts' with
          | none => exact ⟨_, .lost, spec_raise rfl⟩
          | some ts' => exact ⟨_, .held, spec_pure rfl⟩

theorem sendText_care {type value : String} {Q : Unit → Unit → Care → Prop} (hQ : Q () s φ)
    (hF : ∀ x, F x s φ) : Spec CareT (sendText type value) s φ Q F := by
  apply spec_bind
  apply apart_care fun _ => rfl
  intro sent
  exact refuseIf_care hQ (hF _)

/-- Where a terminal that was asked for leaves its request. -/
def Opened (sid : SessionId) (closed : Bool) (term : Option ConnId) (_ : Unit) (φ : Care) : Prop :=
  φ = .broken ∧ term = none ∨
  match term with
  | none => φ = .ending sid closed
  | some conn => φ = .talking sid closed conn

theorem openTerminal_care {ip : String} {sid : SessionId} {closed : Bool} :
    Spec CareT (openTerminal (await (Eff.connect ip)) (await Eff.createProcess)) s (.greeted sid closed)
      (Opened sid closed) F := by
  refine spec_bind (spec_await fun conn => ?_)
  cases conn with
  | none => exact ⟨_, .unconnected, spec_pure (.inr rfl)⟩
  | some conn =>
    refine ⟨_, .connected, ?_⟩
    refine spec_bind (spec_await fun created => ?_)
    cases created with
    | true => exact ⟨_, .created, spec_pure (.inr rfl)⟩
    | false => exact ⟨_, .uncreated, spec_pure (.inl ⟨rfl, rfl⟩)⟩

theorem converse_care {ip : String} {sid : SessionId} {closed : Bool} :
    Spec CareT (converse ip) s (.greeted sid closed)
      (fun ended => Opened sid closed ended.1) F := by
  apply spec_bind
  refine spec_mono openTerminal_care ?_ fun _ _ _ hF => hF
  rintro term s' φ hterm
  cases term with
  | none =>
    apply spec_bind
    apply apart_care fun _ => rfl
    intro _
    exact spec_pure hterm
  | some conn =>
    have hfailed : Spec CareT (do
        let _ ← Task.await (Eff.sendText "error" "erro ao conectar no terminal")
        pure "ssh_error" : Route String) s' φ
        (fun reason s' φ' => Spec CareT (pure (some conn, reason)) s' φ'
          (fun ended => Opened sid closed ended.1) F) F := by
      apply spec_bind
      apply apart_care fun _ => rfl
      intro _
      exact spec_pure (spec_pure hterm)
    refine spec_bind (spec_catch (spec_bind (sendText_care ?_ fun _ => hfailed)))
    apply spec_bind
    apply apart_care fun _ => rfl
    intro ended
    cases ended with
    | done reason => exact spec_pure (spec_pure hterm)
    | timeout => exact spec_pure (spec_pure hterm)
    | error => exact spec_raise hfailed

/-- The end of a socket whose session is `ts`. -/
def farewell (sid : SessionId) (ts : TerminalSession) (reason : String) : Route Reply := do
  let now ← Task.await Eff.utcnow
  let status := if ts.status = .closed then none else some TerminalSessionStatus.closed
  Task.await (Eff.commitSession sid status (some now))
  let told ← Task.await (Eff.sendText "close" reason)
  if told then
    let _ ← Task.await (Eff.closeSocket 1000)
    pure .closed
  else pure .closed

theorem farewell_care {sid : SessionId} {ts : TerminalSession} {reason : String}
    (hφ : φ = .broken ∨ φ = .ending sid (ts.status = .closed)) :
    Spec CareT (farewell sid ts reason) s φ Idle Idle := by
  apply spec_bind
  apply apart_care fun _ => rfl
  intro now
  have hrest : ∀ {φ'}, φ'.idle = true → Spec CareT (do
      let told ← Task.await (Eff.sendText "close" reason)
      if told then
        let _ ← Task.await (Eff.closeSocket 1000)
        pure .closed
      else pure .closed : Route Reply) s φ' Idle Idle := by
    intro φ' hidle
    apply spec_bind
    apply apart_care fun _ => rfl
    intro told
    split
    · apply spec_bind
      apply apart_care fun _ => rfl
      intro _
      exact spec_pure hidle
    · exact spec_pure hidle
  rcases hφ with rfl | rfl
  · exact spec_bind (broken_care fun _ => hrest rfl)
  · have hcleaned : CareT (.ending sid (ts.status = .closed)) (.commitSession sid
        (if ts.status = .closed then none else some .closed) (some now)) () (.cleaned sid) := by
      apply CareT.cleaned
      by_cases hclosed : ts.status = .closed
      · exact .inr ⟨if_pos hclosed, decide_eq_true hclosed⟩
      · exact .inl (if_neg hclosed)
    exact spec_bind (spec_await fun _ => ⟨_, hcleaned, hrest rfl⟩)

theorem terminalWebsocket_care {sessionId : Option SessionId} :
    Spec CareT (terminalWebsocket sessionId) s .fresh Idle Idle := by
  apply spec_bind
  refine spec_mono validateAndClaimSession_care ?_ fun _ _ _ hF => hF
  intro claimed s' φ hclaims
  cases claimed with
  | none =>
    obtain rfl := hclaims
    apply spec_bind
    apply apart_care fun _ => rfl
    intro _
    exact spec_pure rfl
  | some claimed =>
    obtain ⟨sid, ts, vm⟩ := claimed
    obtain rfl := hclaims
    refine spec_bind (spec_await fun accepted => ?_)
    cases accepted with
    | false => exact ⟨_, .refused, spec_bind (spec_raise rfl)⟩
    | true =>
      refine ⟨_, .apart rfl, spec_bind (spec_pure ?_)⟩
      refine spec_bind (spec_bind (spec_await fun sent => ?_))
      cases sent with
      | false => exact ⟨_, .gone, spec_raise rfl⟩
      | true =>
        refine ⟨_, .greeted, spec_pure ?_⟩
        apply spec_bind
        refine spec_mono converse_care ?_ fun _ _ _ hF => hF
        rintro ⟨term, reason⟩ s'' φ hopened
        change Spec CareT (do closeTerm term; farewell sid ts reason) s'' φ Idle Idle
        rcases hopened with ⟨rfl, rfl⟩ | hopened
        · exact spec_bind (spec_pure (farewell_care (.inl rfl)))
        · cases term with
          | none =>
            obtain rfl := hopened
            exact spec_bind (spec_pure (farewell_care (.inr rfl)))
          | some conn =>
            obtain rfl := hopened
            exact spec_bind (spec_await fun _ => ⟨_, .closed, farewell_care (.inr rfl)⟩)

end Handlers

theorem serve_care (settings : Settings) (r : Request) :
    (serve settings r).Follows CareT .fresh fun out φ => φ.Over out := by
  have hspec : Spec CareT (handle settings r) () .fresh Idle Idle := by
    cases r with
    | createExposure v payload => exact createExposure_care
    | deleteExposure v x => exact deleteExposure_care
    | exposureUpstream host xProxySecret => exact exposureUpstream_care
    | createTerminalSession v => exact createTerminalSession_care
    | terminalWs sessionId => exact terminalWebsocket_care
  refine Prog.follows_bind hspec.follows ?_
  rintro ⟨out, s'⟩ φ hout
  cases out with
  | ok a => exact .inl hout
  | error x => exact .inl hout

/-- What becomes of a session row in one await: it keeps its time of closing, and only one await
marks it as expired. -/
theorem act_session {s s' : Shared} {e : Eff} {a : Ans e} {sid : SessionId} {row : TerminalSession}
    (h : Act s e a s') (hr : s.sessions.get sid = some row) :
    ∃ row', s'.sessions.get sid = some row' ∧ (row.closedAt ≠ none → row'.closedAt ≠ none) ∧
      (row'.status = .expired → row.status = .expired ∨
        ∃ closedAt, e = .commitSession sid (some .expired) closedAt) := by
  have hsame : s'.sessions = s.sessions → ∃ row', s'.sessions.get sid = some row' ∧
      (row.closedAt ≠ none → row'.closedAt ≠ none) ∧ (row'.status = .expired →
        row.status = .expired ∨ ∃ closedAt, e = .commitSession sid (some .expired) closedAt) := by
    intro hs
    rw [hs]
    exact ⟨row, hr, id, .inl⟩
  obtain ⟨i, h⟩ := h
  cases e with
  | insertSession new =>
    cases i <;> simp only [perform, reduceCtorEq] at h
    cases h
    exact ⟨row, Table.get_insert_of_some hr, id, .inl⟩
  | commitSession sid' status closedAt =>
    cases i <;> simp only [perform, reduceCtorEq] at h
    split at h
    · cases h
    cases h
    dsimp only
    by_cases hsid : sid' = sid
    · subst hsid
      rw [Table.get_update_self, hr]
      refine ⟨_, rfl, ?_, ?_⟩
      · intro hclosed
        cases closedAt with
        | none => exact hclosed
        | some now => simp
      · intro hexpired
        cases status with
        | none => exact .inl hexpired
        | some status =>
          obtain rfl : status = .expired := hexpired
          exact .inr ⟨closedAt, rfl⟩
    · rw [Table.get_update_ne _ _ hsid]
      exact ⟨row, hr, id, .inl⟩
  | commitClaim sid' =>
    cases i <;> simp only [perform, reduceCtorEq] at h
    cases h
    dsimp only
    by_cases hsid : sid' = sid
    · subst hsid
      rw [Table.get_update_self, hr]
      refine ⟨_, rfl, id, ?_⟩
      intro hexpired
      cases hexpired
    · rw [Table.get_update_ne _ _ hsid]
      exact ⟨row, hr, id, .inl⟩
  | _ =>
    apply hsame
    cases i <;> simp only [perform, reduceCtorEq] at h
    all_goals first
      | (cases h; rfl)
      | (split at h <;> first | (cases h; rfl) | (split at h <;> cases h <;> rfl) | cases h)

/-- The row after a step of such a run. -/
theorem row_step {t t' : Sys} {l : Label} {sid : SessionId} {row : TerminalSession}
    (ht : Reachable Cond.clean t) (hs : Step t l t') (hc : Cond.clean t l t')
    (hr : t.sessions.get sid = some row) :
    ∃ row', t'.sessions.get sid = some row' ∧ (row.closedAt ≠ none → row'.closedAt ≠ none) ∧
      (row.status = .closed → row'.status = .closed) := by
  cases hs with
  | panel _ _ => exact ⟨row, hr, id, id⟩
  | crash _ => exact ⟨row, hr, id, id⟩
  | receive _ _ _ => exact ⟨row, hr, id, id⟩
  | @await i e k a sh hp hact =>
    obtain ⟨row', hr', hdate, hexpired⟩ := act_session hact hr
    refine ⟨row', hr', hdate, fun hclosed => ?_⟩
    have hstep : Step t (.await i e a) _ := .await hp hact
    have hfin : Sys.Finished _ sid :=
      (Sys.Finished.step ht ⟨row, hr, .inl hclosed⟩ hstep).1
    obtain ⟨row'', hr'', hfin⟩ := hfin
    obtain rfl := Option.some.inj (hr'.symm.trans hr'')
    rcases hfin with hfin | hfin
    · exact hfin
    · rcases hexpired hfin with hwas | ⟨closedAt, rfl⟩
      · rw [hclosed] at hwas
        cases hwas
      · exact absurd hclosed (hc.expired i sid closedAt rfl row hr)

def Care.session : Care → Option SessionId
  | .claimed sid | .lost sid | .cleaned sid => some sid
  | .held sid _ | .greeted sid _ | .ending sid _ => some sid
  | .opened sid _ _ | .talking sid _ _ => some sid
  | _ => none

def Care.conns : Care → List ConnId
  | .opened _ _ conn | .talking _ _ conn => [conn]
  | _ => []

/-- What it knows of its session's row. -/
def Care.Knows (row : TerminalSession) : Care → Prop
  | .held _ closed | .greeted _ closed | .ending _ closed => closed = true → row.status = .closed
  | .opened _ closed _ | .talking _ closed _ => closed = true → row.status = .closed
  | .cleaned _ => row.status = .closed ∧ row.closedAt ≠ none
  | _ => True

theorem Care.Knows.later {φ : Care} {row row' : TerminalSession} (h : φ.Knows row)
    (hdate : row.closedAt ≠ none → row'.closedAt ≠ none)
    (hclosed : row.status = .closed → row'.status = .closed) : φ.Knows row' := by
  cases φ with
  | held | greeted | ending | opened | talking => exact fun hc => hclosed (h hc)
  | cleaned => exact ⟨hclosed h.1, hdate h.2⟩
  | _ => trivial

structure Minds (t : Sys) (i : Nat) (φ : Care) : Prop where
  unbroken : φ ≠ .broken
  found : ∀ sid, φ ≠ .lost sid
  claims : ∀ sid, ⟨i, .claim sid, true⟩ ∈ t.hist → φ.session = some sid
  conns : connections t.hist i = φ.conns
  row : ∀ sid, φ.session = some sid → ∃ row, t.sessions.get sid = some row ∧ φ.Knows row

structure Tended (t : Sys) (φs : List Care) : Prop where
  past : ∀ entry ∈ t.hist, entry.request < φs.length
  minds : ∀ (i : Nat) φ, φs[i]? = some φ → φ = .dead ∨ Minds t i φ

theorem connections_other {hist : List Entry} {entry : Entry} {i : Nat} (h : entry.request ≠ i) :
    connections (entry :: hist) i = connections hist i := by
  have hmove : entry.connMove i = none := by
    obtain ⟨j, e, a⟩ := entry
    have hji : ¬j = i := h
    cases e with
    | connect ip => cases a <;> simp [Entry.connMove, hji]
    | closeConnection conn => simp [Entry.connMove, hji]
    | _ => rfl
  unfold connections
  rw [List.filterMap_cons_none hmove]

theorem connections_new {hist : List Entry} {i : Nat} (h : ∀ entry ∈ hist, entry.request ≠ i) :
    connections hist i = [] := by
  induction hist with
  | nil => rfl
  | cons entry hist ih =>
    rw [connections_other (h entry List.mem_cons_self)]
    exact ih fun entry' hmem => h entry' (List.mem_cons_of_mem _ hmem)

theorem connections_apart {hist : List Entry} {i : Nat} {e : Eff} {a : Ans e}
    (h : e.apart a = true) : connections (⟨i, e, a⟩ :: hist) i = connections hist i := by
  have hmove : Entry.connMove i ⟨i, e, a⟩ = none := by
    cases e with
    | connect ip => cases h
    | closeConnection conn => cases h
    | _ => rfl
  unfold connections
  rw [List.filterMap_cons_none hmove]

section Steps
variable {t t' : Sys} {i : Nat} {e : Eff} {a : Ans e} {φ φ' : Care}

/-- Rows that are there stay, and stay closed. -/
def RowsStay (t t' : Sys) : Prop :=
  ∀ sid row, t.sessions.get sid = some row → ∃ row', t'.sessions.get sid = some row' ∧
    (row.closedAt ≠ none → row'.closedAt ≠ none) ∧ (row.status = .closed → row'.status = .closed)

theorem Minds.rows (h : Minds t i φ) (hrows : RowsStay t t') {sid : SessionId}
    (hs : φ.session = some sid) : ∃ row, t'.sessions.get sid = some row ∧ φ.Knows row := by
  obtain ⟨row, hr, hk⟩ := h.row sid hs
  obtain ⟨row', hr', hdate, hclosed⟩ := hrows sid row hr
  exact ⟨row', hr', hk.later hdate hclosed⟩

/-- What another request does, and what the panel does. -/
theorem Minds.frame (h : Minds t i φ) (hrows : RowsStay t t')
    (hhist : t'.hist = t.hist ∨ ∃ entry : Entry, entry.request ≠ i ∧ t'.hist = entry :: t.hist) :
    Minds t' i φ := by
  have hclaims : ∀ sid, ⟨i, .claim sid, true⟩ ∈ t'.hist → ⟨i, .claim sid, true⟩ ∈ t.hist := by
    intro sid hmem
    rcases hhist with heq | ⟨entry, hne, heq⟩
    · rwa [heq] at hmem
    · rw [heq] at hmem
      rcases List.mem_cons.mp hmem with rfl | hmem
      · exact absurd rfl hne
      · exact hmem
  have hconns : connections t'.hist i = connections t.hist i := by
    rcases hhist with heq | ⟨entry, hne, heq⟩
    · rw [heq]
    · rw [heq, connections_other hne]
  exact ⟨h.unbroken, h.found, fun sid hmem => h.claims sid (hclaims sid hmem),
    hconns.trans h.conns, fun sid hs => h.rows hrows hs⟩

/-- An await that keeps the session. -/
theorem Minds.go (h : Minds t i φ) (hhist : t'.hist = ⟨i, e, a⟩ :: t.hist)
    (hunbroken : φ' ≠ .broken ∧ ∀ sid, φ' ≠ .lost sid)
    (hclaim : ∀ sid, (⟨i, .claim sid, true⟩ : Entry) ≠ ⟨i, e, a⟩)
    (hsession : φ'.session = φ.session)
    (hrow : ∀ sid, φ'.session = some sid → ∃ row, t'.sessions.get sid = some row ∧ φ'.Knows row)
    (hconns : connections (⟨i, e, a⟩ :: t.hist) i = φ'.conns) : Minds t' i φ' := by
  refine ⟨hunbroken.1, hunbroken.2, ?_, ?_, hrow⟩
  · intro sid hmem
    rw [hhist] at hmem
    rcases List.mem_cons.mp hmem with heq | hmem
    · exact absurd heq (hclaim sid)
    · rw [hsession]
      exact h.claims sid hmem
  · rw [hhist]
    exact hconns

/-- An await of the request itself, in a run that is clean. -/
theorem Minds.step {sh : Shared} (h : Minds t i φ) (hp : CareT φ e a φ') (hrows : RowsStay t t')
    (hact : Act t.shared e a sh) (hsessions : t'.sessions = sh.sessions)
    (hhist : t'.hist = ⟨i, e, a⟩ :: t.hist) (hc : Cond.clean t (.await i e a) t') :
    Minds t' i φ' := by
  have hconns := h.conns
  have hsame : ∀ sid, φ.session = some sid → ∃ row, t'.sessions.get sid = some row ∧ φ.Knows row :=
    fun sid hs => h.rows hrows hs
  cases hp with
  | apart ha =>
    refine h.go hhist ⟨h.unbroken, h.found⟩ ?_ rfl hsame ((connections_apart ha).trans hconns)
    intro sid heq
    cases heq
    cases ha
  | expired => exact h.go hhist (by simp) (by simp) rfl hsame hconns
  | @claimed sid =>
    have hget : ∃ row, t.sessions.get sid = some row := by
      obtain ⟨input, hact⟩ := hact
      cases input <;> simp only [perform, reduceCtorEq] at hact
      split at hact
      · cases hact
      split at hact
      · next hopen =>
        obtain ⟨row, hr, _⟩ := (Option.any_eq_true _ _).mp hopen
        exact ⟨row, hr⟩
      · cases hact
    refine ⟨by simp, by simp, ?_, ?_, ?_⟩
    · intro sid' hmem
      rw [hhist] at hmem
      rcases List.mem_cons.mp hmem with heq | hmem
      · cases heq
        rfl
      · cases h.claims sid' hmem
    · rw [hhist]
      exact hconns
    · intro sid' hs
      cases hs
      obtain ⟨row, hr⟩ := hget
      obtain ⟨row', hr', _⟩ := hrows sid row hr
      exact ⟨row', hr', trivial⟩
  | @lost sid =>
    obtain ⟨row, hr, _⟩ := h.row sid rfl
    obtain ⟨input, hact⟩ := hact
    cases input <;> simp only [perform, reduceCtorEq, Option.some.injEq, Prod.mk.injEq] at hact
    have hnone : t.sessions.get sid = none := hact.1
    rw [hr] at hnone
    cases hnone
  | @held sid row =>
    obtain ⟨input, hact⟩ := hact
    cases input <;> simp only [perform, reduceCtorEq, Option.some.injEq, Prod.mk.injEq] at hact
    obtain ⟨hr, rfl⟩ := hact
    refine h.go hhist (by simp) (by simp) rfl ?_ hconns
    intro sid' hs
    cases hs
    rw [hsessions]
    exact ⟨row, hr, fun hclosed => of_decide_eq_true hclosed⟩
  | refused => exact absurd rfl (hc.accepted _ _)
  | gone => exact absurd rfl (hc.greeted _)
  | greeted => exact h.go hhist (by simp) (by simp) rfl hsame hconns
  | unconnected => exact h.go hhist (by simp) (by simp) rfl hsame hconns
  | connected =>
    refine h.go hhist (by simp) (by simp) rfl hsame ?_
    unfold connections at hconns ⊢
    simp only [List.filterMap_cons, Entry.connMove, if_true, stillOpen, hconns]
    rfl
  | uncreated => exact absurd rfl (hc.created _)
  | created => exact h.go hhist (by simp) (by simp) rfl hsame hconns
  | closed =>
    refine h.go hhist (by simp) (by simp) rfl hsame ?_
    unfold connections at hconns ⊢
    simp only [List.filterMap_cons, Entry.connMove, if_true, stillOpen, hconns]
    simp [Care.conns]
  | @cleaned sid closed status now hstatus =>
    obtain ⟨row, hr, hk⟩ := h.row sid rfl
    obtain ⟨input, hact⟩ := hact
    cases input <;> simp only [perform, reduceCtorEq] at hact
    split at hact
    · cases hact
    cases hact
    refine h.go hhist (by simp) (by simp) rfl ?_ hconns
    intro sid' hs
    cases hs
    have hr' : t.shared.sessions.get sid = some row := hr
    rw [hsessions, Table.get_update_self, hr']
    refine ⟨_, rfl, ?_, by simp⟩
    rcases hstatus with rfl | ⟨rfl, hclosed⟩
    · rfl
    · exact hk hclosed
  | broken => exact absurd rfl h.unbroken

end Steps

/-- The requests of a clean run, with what each minds. -/
theorem Reachable.tended {t : Sys} (h : Reachable Cond.clean t) :
    ∃ φs, Crew CareT (fun out φ => φ.Over out) t.requests φs ∧ Tended t φs := by
  induction h with
  | start hi =>
    refine ⟨[], ?_, ?_, by simp⟩
    · rw [hi.requests]
      exact .nil
    · simp [hi.hist]
  | @next t t' l ht hstep hc ih =>
    obtain ⟨φs, hcrew, hpast, hminds⟩ := ih
    have hrows : RowsStay t t' := fun sid row hr => row_step ht hstep hc hr
    cases hstep with
    | panel _ _ =>
      refine ⟨φs, hcrew, hpast, fun i φ hφ => ?_⟩
      exact (hminds i φ hφ).imp_right fun hm => hm.frame hrows (.inl rfl)
    | crash _ =>
      refine ⟨φs.map fun _ => .dead, Crew.replace hcrew (.inr ⟨rfl, rfl⟩), ?_, ?_⟩
      · simpa using hpast
      · intro i φ hφ
        rw [List.getElem?_map, Option.map_eq_some_iff] at hφ
        obtain ⟨_, _, rfl⟩ := hφ
        exact .inl rfl
    | receive r _ _ =>
      refine ⟨φs ++ [.fresh], hcrew.join (serve_care _ r), ?_, ?_⟩
      · intro entry hmem
        have hlt := hpast entry hmem
        rw [List.length_append]
        omega
      · intro i φ hφ
        rw [List.getElem?_append] at hφ
        split at hφ
        · exact (hminds i φ hφ).imp_right fun hm => hm.frame hrows (.inl rfl)
        · next hlen =>
          rw [List.getElem?_singleton] at hφ
          split at hφ <;> cases hφ
          -- nothing is recorded of a request that has just come in
          have hnew : ∀ entry ∈ t.hist, entry.request ≠ i := by
            intro entry hmem heq
            exact hlen (heq ▸ hpast entry hmem)
          exact .inr ⟨by simp, by simp, fun sid hmem => absurd rfl (hnew _ hmem),
            connections_new hnew, by simp [Care.session]⟩
    | @await i e k a sh hp hact =>
      obtain ⟨φ, φ', hφ, ht', hcrew'⟩ := hcrew.await hp a
      have hlt : i < φs.length := (List.getElem?_eq_some_iff.mp hφ).1
      refine ⟨φs.set i φ', hcrew', ?_, ?_⟩
      · intro entry hmem
        rw [List.length_set]
        rcases List.mem_cons.mp hmem with rfl | hmem
        · exact hlt
        · exact hpast entry hmem
      · intro j ψ hj
        rcases Crew.phase_set hj with ⟨rfl, rfl⟩ | ⟨hne, hj⟩
        · rcases hminds j φ hφ with rfl | hm
          · cases ht'
            exact .inl rfl
          · exact .inr (hm.step ht' hrows hact rfl rfl hc)
        · exact (hminds j ψ hj).imp_right fun hm =>
            hm.frame hrows (.inr ⟨_, fun heq => hne heq.symm, rfl⟩)

/-- In every run in which no peer is gone before its terminal is connecting, no process fails on an
open connection and no closed session is marked as expired, a socket that has claimed a session
leaves it closed, with the time, and no connection open. The readiness check leaves none open
exactly when no process failed. -/
theorem terminals_clean_up {t : Sys} (ht : Reachable Cond.clean t) :
    (∀ i out sid, t.requests[i]? = some (.ret out) →
      out ≠ .error (.runtimeError "killed") → ⟨i, .claim sid, true⟩ ∈ t.hist →
      (∃ row, t.sessions.get sid = some row ∧ row.status = .closed ∧ row.closedAt ≠ none) ∧
        connections t.hist i = []) ∧
    ∀ (c : Caller) (s : Session) (out : Except Exc Bool × Session)
      (log : List ((e : Clusteration.Eff) × Clusteration.Ans e)),
      (checkSshReady c s).Ends Recorded [] out log →
        (leftOpen log = [] ↔ ∀ entry ∈ log, processFailed entry = false) := by
  refine ⟨?_, fun c s out log h => checkSshReady_leaves h⟩
  intro i out sid hi hout hclaim
  obtain ⟨φs, hcrew, hpast, hminds⟩ := ht.tended
  obtain ⟨φ, hφ, hover⟩ := hcrew.at_index hi
  have hover : φ.Over out := hover
  rcases hover with hidle | ⟨-, hkilled⟩
  · rcases hminds i φ hφ with rfl | hm
    · cases hidle
    have hsession := hm.claims sid hclaim
    cases φ with
    | cleaned sid' =>
      cases hsession
      exact ⟨hm.row sid rfl, hm.conns⟩
    | lost sid' => exact absurd rfl (hm.found sid')
    | broken => exact absurd rfl hm.unbroken
    | fresh => cases hsession
    | _ => cases hidle
  · exact absurd hkilled hout

def checkClean (t : Sys) (l : Label) (_ : Sys) : Bool :=
  match l with
  | .await _ (.accept _) accepted => accepted
  | .await _ (.sendText type value) sent => sent || type ≠ "status" || value ≠ "connecting"
  | .await _ .createProcess created => created
  | .await _ (.commitSession sid (some .expired) _) _ =>
    (t.sessions.get sid).all fun row => row.status ≠ .closed
  | _ => true

theorem checkClean_sound (t : Sys) (l : Label) (t' : Sys) (h : checkClean t l t' = true) :
    Cond.clean t l t' := by
  constructor
  · rintro i sid rfl
    cases h
  · rintro i rfl
    simp [checkClean] at h
  · rintro i rfl
    cases h
  · rintro i sid closedAt rfl row hr
    simpa [checkClean, hr] using h

namespace Trials
open Scenario

/-- Request 0 makes a session, and request 1 is its socket, up to the message that it is connecting. -/
def asking : List Choice :=
  ready ++ [.receive (.createTerminalSession 0)] ++ runs 0 [.none, .nat 0, .none] ++
    [.receive (.terminalWs (some 0))] ++ runs 1 [.none, .nat 10, .none, .none, .none, .none]

def served : List Choice :=
  asking ++ runs 1 [.bool true, .bool true, .nat 0, .bool true, .bool true,
    .pump (.done "session_closed"), .none, .nat 20, .none, .bool true, .bool true]

/-- The peer is gone when the socket is accepted. -/
def vanished : List Choice := asking ++ runs 1 [.bool false]

/-- The process fails on the connection. -/
def unserved : List Choice :=
  asking ++ runs 1 [.bool true, .bool true, .nat 0, .bool false, .bool true, .nat 20, .none,
    .bool true, .bool true]

/-- The request came to an end by itself. -/
def ended : Handler → Bool
  | .ret (.ok _) => true
  | .ret (.error x) => x ≠ .runtimeError "killed"
  | .await _ _ => false

theorem ended_sound {t : Sys} {i : Nat} (h : t.requests[i]?.any ended = true) :
    ∃ out, t.requests[i]? = some (.ret out) ∧ out ≠ .error (.runtimeError "killed") := by
  obtain ⟨p, hp, hended⟩ := (Option.any_eq_true _ _).mp h
  cases p with
  | await e k => cases hended
  | ret out =>
    refine ⟨out, hp, ?_⟩
    rintro rfl
    simp [ended] at hended

def claiming : Entry → Option (Nat × SessionId)
  | ⟨i, .claim sid, true⟩ => some (i, sid)
  | _ => none

theorem claiming_sound {hist : List Entry} {i : Nat} {sid : SessionId}
    (h : (hist.any fun entry => claiming entry = some (i, sid)) = true) :
    ⟨i, .claim sid, true⟩ ∈ hist := by
  obtain ⟨entry, hmem, heq⟩ := List.any_eq_true.mp h
  rw [decide_eq_true_eq] at heq
  unfold claiming at heq
  split at heq
  · cases heq
    exact hmem
  · cases heq

/-- Request 1 has claimed session 0 and come to an end by itself. -/
def claimedAndEnded (t : Sys) : Bool :=
  t.requests[1]?.any ended && t.hist.any fun entry => claiming entry = some (1, 0)

theorem claimedAndEnded_sound {t : Sys} (h : claimedAndEnded t = true) :
    ∃ out, t.requests[1]? = some (.ret out) ∧ out ≠ .error (.runtimeError "killed") ∧
      ⟨1, .claim 0, true⟩ ∈ t.hist := by
  obtain ⟨hended, hclaimed⟩ := (Bool.and_eq_true _ _).mp h
  obtain ⟨out, hi, hout⟩ := ended_sound hended
  exact ⟨out, hi, hout, claiming_sound hclaimed⟩

theorem served_ends : (front.run checkClean served).any claimedAndEnded = true := by decide +kernel

theorem served_runs : (front.run checkClean served).isSome = true :=
  Option.isSome_of_any served_ends

end Trials

open Trials

theorem terminals_clean_up_served :
    let t := (front.run checkClean served).get served_runs
    (∃ row, t.sessions.get 0 = some row ∧ row.status = .closed ∧ row.closedAt ≠ none) ∧
      connections t.hist 1 = [] := by
  intro t
  have hreach : Reachable Cond.clean t := reached checkClean_sound served_runs
  obtain ⟨out, hi, hout, hclaimed⟩ :=
    claimedAndEnded_sound (Option.get_of_any_eq_true _ _ served_ends)
  exact (terminals_clean_up hreach).1 1 out 0 hi hout hclaimed

/-- A socket whose peer is gone leaves its session open; one whose process fails leaves its
connection open, and so does a readiness check. -/
theorem terminals_left_open :
    (∃ t, Reachable Cond.any t ∧ ∃ out, t.requests[1]? = some (.ret out) ∧
      out ≠ .error (.runtimeError "killed") ∧ ⟨1, .claim 0, true⟩ ∈ t.hist ∧
      ∃ row, t.sessions.get 0 = some row ∧ row.status ≠ .closed ∧ row.closedAt = none) ∧
    (∃ t, Reachable Cond.any t ∧ ∃ out, t.requests[1]? = some (.ret out) ∧
      out ≠ .error (.runtimeError "killed") ∧ ⟨1, .claim 0, true⟩ ∈ t.hist ∧
      connections t.hist 1 ≠ []) ∧
    ∃ out log, (checkSshReady ⟨0, 0⟩ addressed).Ends Recorded [] out log ∧ leftOpen log ≠ [] := by
  refine ⟨?_, ?_, addressed_check_ends⟩
  · have hends : (front.run (fun _ _ _ => true) vanished).any (fun t => claimedAndEnded t = true ∧
        (t.sessions.get 0).any (fun row => row.status ≠ .closed ∧ row.closedAt = none) = true) =
        true := by decide +kernel
    obtain ⟨t, hreach, hends⟩ := evaluated_any hends
    obtain ⟨hended, hopen⟩ := of_decide_eq_true hends
    obtain ⟨out, hi, hout, hclaimed⟩ := claimedAndEnded_sound hended
    obtain ⟨row, hrow, hopen⟩ := (Option.any_eq_true _ _).mp hopen
    exact ⟨t, hreach, out, hi, hout, hclaimed, row, hrow, of_decide_eq_true hopen⟩
  · have hends : (front.run (fun _ _ _ => true) unserved).any (fun t => claimedAndEnded t = true ∧
        connections t.hist 1 ≠ []) = true := by decide +kernel
    obtain ⟨t, hreach, hends⟩ := evaluated_any hends
    obtain ⟨hended, hopen⟩ := of_decide_eq_true hends
    obtain ⟨out, hi, hout, hclaimed⟩ := claimedAndEnded_sound hended
    exact ⟨t, hreach, out, hi, hout, hclaimed, hopen⟩

end Front
end Clusteration
