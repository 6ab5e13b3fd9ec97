import Mathlib.Tactic.Linarith
import Clusteration.Front.Sockets

open Charset Async Transition Task

namespace Clusteration.Front

/-- A round that goes on has come back to the phase `φ₀`; one that ends the loop is in `φ₁`. -/
def Ready {Φ : Type} (φ₀ φ₁ : Φ) (more : Bool) (_ : Unit) (φ : Φ) : Prop :=
  φ = if more then φ₀ else φ₁

def Failed {Φ : Type} (_ : Exc) (_ : Unit) (_ : Φ) : Prop := True

theorem round_follows {E : Type} {R : E → Type} {Φ : Type} {T : Φ → (e : E) → R e → Φ → Prop}
    {body : Task E R Unit Exc Bool} {φ₀ φ₁ : Φ} (h : Spec T body () φ₀ (Ready φ₀ φ₁) Failed) :
    ((body ()).bind fun out => (.ret out.1 : Round E R Exc)).Follows T φ₀ (Again φ₀ φ₁) := by
  apply Prog.follows_bind h.follows
  intro out φ hout
  obtain ⟨r, s⟩ := out
  cases r with
  | ok more => exact hout
  | error exc => exact trivial

namespace Tunnel

/-- `browser_to_upstream` holds the frame it received. -/
inductive UpT : Carry Frame → (e : Eff) → Ans e → Carry Frame → Prop
  | raised : UpT .idle .receive none .off
  | receive {msg : Message} : UpT .idle .receive (some msg) (.of msg.frame)
  | send {frame : Frame} : UpT (.holding frame) (.send frame) (some ()) .idle
  | failed {frame : Frame} : UpT (.holding frame) (.send frame) none .off

/-- And so does `upstream_to_browser`. -/
inductive DownT : Carry Frame → (e : Eff) → Ans e → Carry Frame → Prop
  | broken : DownT .idle .next none .off
  | ended : DownT .idle .next (some none) .off
  | next {frame : Frame} : DownT .idle .next (some (some frame)) (.holding frame)
  | reply {frame : Frame} : DownT (.holding frame) (.reply frame) (some ()) .idle
  | failed {frame : Frame} : DownT (.holding frame) (.reply frame) none .off

theorem send_spec {frame : Frame} {s : Unit} :
    Spec UpT (do
      let sent ← Task.await (Eff.send frame)
      orRaise closed sent
      pure true) s (.holding frame) (Ready .idle .off) Failed := by
  apply spec_bind
  apply spec_await
  intro sent
  cases sent with
  | none =>
    refine ⟨.off, .failed, ?_⟩
    exact spec_bind (spec_raise trivial)
  | some u =>
    refine ⟨.idle, .send, ?_⟩
    apply spec_bind
    apply spec_pure
    apply spec_pure
    rfl

theorem browserToUpstream_spec {s : Unit} :
    Spec UpT browserToUpstream s .idle (Ready .idle .off) Failed := by
  apply spec_bind
  apply spec_await
  intro msg
  cases msg with
  | none =>
    refine ⟨.off, .raised, ?_⟩
    exact spec_bind (spec_raise trivial)
  | some msg =>
    refine ⟨_, .receive, ?_⟩
    apply spec_bind
    apply spec_pure
    unfold Message.frame
    cases msg.bytes with
    | some data => exact send_spec
    | none =>
      cases msg.text with
      | some data => exact send_spec
      | none =>
        apply spec_pure
        rfl

theorem upstreamToBrowser_spec {s : Unit} :
    Spec DownT upstreamToBrowser s .idle (Ready .idle .off) Failed := by
  apply spec_bind
  apply spec_await
  intro msg
  cases msg with
  | none =>
    refine ⟨.off, .broken, ?_⟩
    exact spec_bind (spec_raise trivial)
  | some msg =>
    cases msg with
    | none =>
      refine ⟨.off, .ended, ?_⟩
      apply spec_bind
      apply spec_pure
      apply spec_pure
      rfl
    | some frame =>
      refine ⟨.holding frame, .next, ?_⟩
      apply spec_bind
      apply spec_pure
      apply spec_bind
      apply spec_await
      intro sent
      cases sent with
      | none =>
        refine ⟨.off, .failed, ?_⟩
        exact spec_bind (spec_raise trivial)
      | some u =>
        refine ⟨.idle, .reply, ?_⟩
        apply spec_bind
        apply spec_pure
        apply spec_pure
        rfl

/-- The two directions are faithful relays of what has arrived. -/
structure Kept (m : Pipes) (φ ψ : Carry Frame) : Prop where
  received : m.received <+: m.browser
  iterated : m.iterated <+: m.upstream
  up : ∃ held, φ.Holds held ∧
    Relay.Faithful (fun msg : Message => msg.frame.toList) ⟨m.received, held, m.toUpstream⟩
  down : ∃ held, ψ.Holds held ∧
    Relay.Faithful (fun frame : Frame => [frame]) ⟨m.iterated, held, m.toBrowser⟩

section Steps
variable {m m' : Pipes} {φ φ' ψ ψ' : Carry Frame} {e : Eff} {a : Ans e}

theorem Kept.env (h : Kept m φ ψ) (he : Env m m') : Kept m' φ ψ := by
  cases he with
  | browser msg => exact ⟨h.received.trans (List.prefix_append _ _), h.iterated, h.up, h.down⟩
  | upstream frame => exact ⟨h.received, h.iterated.trans (List.prefix_append _ _), h.up, h.down⟩

theorem Kept.left (h : Kept m φ ψ) (ht : UpT φ e a φ') (ha : Act m e a m') : Kept m' φ' ψ := by
  obtain ⟨held, hheld, hup⟩ := h.up
  cases ht with
  | raised =>
    cases ha
    exact ⟨h.received, h.iterated, ⟨held, trivial, hup⟩, h.down⟩
  | @receive msg =>
    cases ha with
    | receive hrest =>
      obtain rfl := hheld
      refine ⟨?_, h.iterated, ⟨msg.frame.toList, Carry.holds_of _, hup.take msg⟩, h.down⟩
      rw [hrest, List.append_cons]
      exact List.prefix_append _ _
  | send =>
    obtain rfl := hheld
    cases ha with
    | send => exact ⟨h.received, h.iterated, ⟨[], rfl, hup.pass⟩, h.down⟩
  | failed =>
    obtain rfl := hheld
    cases ha with
    | send => exact ⟨h.received, h.iterated, ⟨[], trivial, hup.pass⟩, h.down⟩
    | unsent => exact ⟨h.received, h.iterated, ⟨_, trivial, hup⟩, h.down⟩

theorem Kept.right (h : Kept m φ ψ) (ht : DownT ψ e a ψ') (ha : Act m e a m') : Kept m' φ ψ' := by
  obtain ⟨held, hheld, hdown⟩ := h.down
  cases ht with
  | broken =>
    cases ha
    exact ⟨h.received, h.iterated, h.up, held, trivial, hdown⟩
  | ended =>
    cases ha
    exact ⟨h.received, h.iterated, h.up, held, trivial, hdown⟩
  | @next frame =>
    cases ha with
    | next hrest =>
      obtain rfl := hheld
      refine ⟨h.received, ?_, h.up, [frame], rfl, hdown.take frame⟩
      rw [hrest, List.append_cons]
      exact List.prefix_append _ _
  | reply =>
    obtain rfl := hheld
    cases ha with
    | reply => exact ⟨h.received, h.iterated, h.up, [], rfl, hdown.pass⟩
  | failed =>
    obtain rfl := hheld
    cases ha with
    | reply => exact ⟨h.received, h.iterated, h.up, [], trivial, hdown.pass⟩
    | unreplied => exact ⟨h.received, h.iterated, h.up, _, trivial, hdown⟩

end Steps

theorem Reachable.kept {d : Duplex Eff Ans Exc Pipes} (h : Reachable d) :
    ∃ φ ψ, Kept d.memory φ ψ ∧ d.left.Follows UpT φ (Again .idle .off) ∧
      d.right.Follows DownT ψ (Again .idle .off) := by
  apply Duplex.invariant (round_follows browserToUpstream_spec) (round_follows upstreamToBrowser_spec)
    ?_ ?_ ?_ ?_ h
  · intro m hm
    subst hm
    exact ⟨List.prefix_rfl, List.prefix_rfl, ⟨[], rfl, Relay.faithful_start⟩,
      [], rfl, Relay.faithful_start⟩
  · intro m m' φ ψ hkept henv
    exact hkept.env henv
  · intro m m' φ φ' ψ e r hkept ht ha
    exact hkept.left ht ha
  · intro m m' φ ψ ψ' e r hkept ht ha
    exact hkept.right ht ha

/-- However the two tasks of a WebSocket take turns, and however they end: each side is sent a prefix of
what the other has sent, frame by frame; and all of it when a task waits with nothing left to receive. -/
theorem tunnel_faithful {d : Duplex Eff Ans Exc Pipes} (h : Reachable d) :
    d.memory.toUpstream <+: d.memory.browser.filterMap Message.frame ∧
    d.memory.toBrowser <+: d.memory.upstream ∧
    (∀ k, d.left = .await .receive k → d.memory.received = d.memory.browser →
      d.memory.toUpstream = d.memory.browser.filterMap Message.frame) ∧
    ∀ k, d.right = .await .next k → d.memory.iterated = d.memory.upstream →
      d.memory.toBrowser = d.memory.upstream := by
  obtain ⟨φ, ψ, hkept, hleft, hright⟩ := h.kept
  obtain ⟨held, hheld, hup⟩ := hkept.up
  obtain ⟨held', hheld', hdown⟩ := hkept.down
  have hframes : ∀ msgs : List Message, msgs.filterMap Message.frame =
      msgs.flatMap fun msg => msg.frame.toList := by
    intro msgs
    rw [List.filterMap_eq_flatMap_toList]
  have hsame : ∀ frames : List Frame, frames.flatMap (fun frame => [frame]) = frames := by
    intro frames
    simp
  refine ⟨?_, ?_, ?_, ?_⟩
  · rw [hframes]
    exact hup.prefix_of hkept.received
  · have hprefix := hdown.prefix_of hkept.iterated
    rwa [hsame] at hprefix
  · intro k hk hall
    rw [hk] at hleft
    obtain ⟨φ', ht, -⟩ := hleft none
    cases ht
    obtain rfl := hheld
    rw [hframes, ← hall]
    exact hup.all
  · intro k hk hall
    rw [hk] at hright
    obtain ⟨ψ', ht, -⟩ := hright none
    cases ht
    obtain rfl := hheld'
    have hpassed := hdown.all
    rw [hsame, hall] at hpassed
    exact hpassed

/-- Two sockets that have just been opened. -/
def fresh : Duplex Eff Ans Exc Pipes where
  memory := {}
  left := loops.left
  right := loops.right

/-- As when the browser sends one text and the task waits for the next. -/
theorem tunnel_faithful_once : ∃ d, Reachable d ∧ d.memory.browser = [{ text := some "oi" }] ∧
    d.memory.toUpstream = d.memory.browser.filterMap Message.frame := by
  have hfresh : Reachable fresh := .start ⟨rfl, rfl, rfl⟩
  have hsent := hfresh.next (.env (.browser { text := some "oi" })) trivial
  have hall : ([{ text := some "oi" }] : List Message) = [] ++ { text := some "oi" } :: [] := rfl
  have hreceived := hsent.next (.left rfl rfl (.receive hall)) trivial
  have hpassed := hreceived.next (.left rfl rfl (.send (some ()))) trivial
  exact ⟨_, hpassed, rfl, (tunnel_faithful hpassed).2.2.1 _ rfl rfl⟩

end Tunnel

namespace Console

/-- What the process is to be given. -/
def Asked.command : Asked → Option Command
  | .resize payload => (terminalSize payload).toOption.map fun size => .size size.1 size.2
  | _ => none

def Asked.counts : Asked → Bool
  | .resize _ | .ping => true
  | .nothing => false

/-- What the process is to be given for a message. -/
def command (loads : String → Option Json) (msg : Message) : Option Command :=
  match msg.bytes with
  | some data => some (.write data)
  | none => msg.text.bind fun text => (asked loads text).toOption.bind Asked.command

/-- The message counts as input: data, a new size or a ping. -/
def counts (loads : String → Option Json) (msg : Message) : Bool :=
  match msg.bytes with
  | some _ => true
  | none => msg.text.any fun text => (asked loads text).toOption.any Asked.counts

/-- How far `ssh_to_ws` has come. -/
inductive Output where
  | idle
  | holding (data : Bytes)
  /-- the output has ended -/
  | eof
  | done
  | off

inductive OutputT : Output → (e : Eff) → Ans e → Output → Prop
  | broken (exc : Exc) : OutputT .idle .read (.error exc) .off
  | read {data : Bytes} : data ≠ [] → OutputT .idle .read (.ok data) (.holding data)
  | eof : OutputT .idle .read (.ok []) .eof
  | reason : OutputT .eof (.reason "ssh_error") () .done
  | shown {data : Bytes} : OutputT (.holding data) (.show data) (.ok ()) .idle
  | failed {data : Bytes} (exc : Exc) : OutputT (.holding data) (.show data) (.error exc) .off

theorem sshToWs_spec {s : Unit} : Spec OutputT sshToWs s .idle (Ready .idle .done) Failed := by
  apply spec_bind
  apply spec_await
  intro data
  cases data with
  | error exc =>
    refine ⟨.off, .broken exc, ?_⟩
    exact spec_bind (spec_raise trivial)
  | ok data =>
    by_cases hdata : data = []
    · subst hdata
      refine ⟨.eof, .eof, ?_⟩
      apply spec_bind
      apply spec_pure
      apply spec_bind
      apply spec_await
      intro _
      refine ⟨.done, .reason, ?_⟩
      apply spec_pure
      rfl
    · refine ⟨.holding data, .read hdata, ?_⟩
      apply spec_bind
      apply spec_pure
      rw [if_neg hdata]
      apply spec_bind
      apply spec_await
      intro sent
      cases sent with
      | error exc =>
        refine ⟨.off, .failed exc, ?_⟩
        exact spec_bind (spec_raise trivial)
      | ok u =>
        refine ⟨.idle, .shown, ?_⟩
        apply spec_bind
        apply spec_pure
        apply spec_pure
        rfl

/-- How far `ws_to_ssh` has come. -/
inductive Input where
  | idle
  /-- there was input in the last half hour -/
  | active
  | stale
  /-- it has received a message that counts -/
  | took (msg : Message)
  /-- and noted the time -/
  | holding (command : Option Command)
  | done
  | off

/-- The call that gives the process a command. -/
def Command.eff : Command → Eff
  | .write data => .write data
  | .size cols rows => .changeTerminalSize cols rows

inductive InputT (loads : String → Option Json) : Input → (e : Eff) → Ans e → Input → Prop
  | active {idle : Time} : ¬ 1800 < idle → InputT loads .idle .idle idle .active
  | stale {idle : Time} : 1800 < idle → InputT loads .idle .idle idle .stale
  | reason : InputT loads .stale (.reason "inactivity_timeout") () .done
  | timeout : InputT loads .active .receive (.error .timeoutError) .idle
  | raised {exc : Exc} : exc ≠ .timeoutError → InputT loads .active .receive (.error exc) .off
  | took {msg : Message} : counts loads msg = true →
      InputT loads .active .receive (.ok msg) (.took msg)
  | ignored {msg : Message} : counts loads msg = false →
      InputT loads .active .receive (.ok msg) .idle
  | touch {msg : Message} : InputT loads (.took msg) .touch () (.holding (command loads msg))
  | written {data : Bytes} (ok : Except Exc Unit) :
      InputT loads (.holding (some (.write data))) (.write data) ok (if ok.isOk then .idle else .off)
  | sized {cols rows : Int} (ok : Except Exc Unit) :
      InputT loads (.holding (some (.size cols rows))) (.changeTerminalSize cols rows) ok
        (if ok.isOk then .idle else .off)
  | pong (ok : Except Exc Unit) :
      InputT loads (.holding none) .pong ok (if ok.isOk then .idle else .off)

section Input
variable {loads : String → Option Json} {s : Unit}

theorem ofExcept_spec {α : Type} {φ : Input} {r : Except Exc α} {Q : α → Unit → Input → Prop}
    (hQ : ∀ a, r = .ok a → Q a s φ) : Spec (InputT loads) (ofExcept r) s φ Q Failed := by
  cases r with
  | ok a => exact spec_pure (hQ a rfl)
  | error exc => exact spec_raise trivial

/-- The end of a round, after a call that may raise. -/
theorem ofExcept_ends {φ : Input} {ok : Except Exc Unit}
    (hφ : φ = if ok.isOk then .idle else .off) :
    Spec (InputT loads) (do
      ofExcept ok
      pure true) s φ (Ready .idle .done) Failed := by
  apply spec_bind
  apply ofExcept_spec
  intro u hok
  rw [hok] at hφ
  exact spec_pure hφ

theorem obey_spec {text : String} {φ : Input}
    (htook : counts loads ⟨none, some text⟩ = true → φ = .took ⟨none, some text⟩)
    (hignored : counts loads ⟨none, some text⟩ = false → φ = .idle) :
    Spec (InputT loads) (obey loads text) s φ (Ready .idle .done) Failed := by
  unfold obey
  apply spec_bind
  apply ofExcept_spec
  intro what hwhat
  have hcounts : counts loads ⟨none, some text⟩ = what.counts := by
    simp [counts, hwhat, Except.toOption]
  have hcommand : command loads ⟨none, some text⟩ = what.command := by
    simp [command, hwhat, Except.toOption]
  cases what with
  | nothing =>
    rw [hignored hcounts]
    exact spec_pure rfl
  | ping =>
    rw [htook hcounts]
    apply spec_bind
    apply spec_await
    intro _
    refine ⟨_, .touch, ?_⟩
    rw [hcommand]
    apply spec_bind
    apply spec_await
    intro ok
    exact ⟨_, .pong ok, ofExcept_ends rfl⟩
  | resize payload =>
    rw [htook hcounts]
    apply spec_bind
    apply spec_await
    intro _
    refine ⟨_, .touch, ?_⟩
    rw [hcommand]
    apply spec_bind
    apply ofExcept_spec
    intro size hsize
    simp only [Asked.command, hsize, Except.toOption, Option.map_some]
    apply spec_bind
    apply spec_await
    intro ok
    exact ⟨_, .sized ok, ofExcept_ends rfl⟩

theorem wsToSsh_spec : Spec (InputT loads) (wsToSsh loads) s .idle (Ready .idle .done) Failed := by
  apply spec_bind
  apply spec_await
  intro idle
  by_cases hidle : 1800 < idle
  · refine ⟨.stale, .stale hidle, ?_⟩
    rw [if_pos hidle]
    apply spec_bind
    apply spec_await
    intro _
    exact ⟨.done, .reason, spec_pure rfl⟩
  · refine ⟨.active, .active hidle, ?_⟩
    rw [if_neg hidle]
    apply spec_bind
    apply spec_await
    intro message
    cases message with
    | error exc =>
      by_cases hexc : exc = .timeoutError
      · subst hexc
        exact ⟨.idle, .timeout, spec_pure rfl⟩
      · refine ⟨.off, .raised hexc, ?_⟩
        dsimp only
        rw [if_neg hexc]
        exact spec_raise trivial
    | ok msg =>
      obtain ⟨bytes, text⟩ := msg
      cases bytes with
      | some data =>
        refine ⟨_, .took rfl, ?_⟩
        apply spec_bind
        apply spec_await
        intro _
        refine ⟨_, .touch, ?_⟩
        apply spec_bind
        apply spec_await
        intro ok
        exact ⟨_, .written ok, ofExcept_ends rfl⟩
      | none =>
        cases text with
        | none => exact ⟨.idle, .ignored rfl, spec_pure rfl⟩
        | some text =>
          cases hcounts : counts loads ⟨none, some text⟩ with
          | true =>
            refine ⟨_, .took hcounts, obey_spec (fun _ => rfl) ?_⟩
            intro hfalse
            rw [hcounts] at hfalse
            cases hfalse
          | false =>
            refine ⟨_, .ignored hcounts, obey_spec ?_ fun _ => rfl⟩
            intro htrue
            rw [hcounts] at htrue
            cases htrue

end Input

def Output.Holds : Output → Bytes → Prop
  | .holding data, held => held = data
  | .off, _ => True
  | _, held => held = []

def Input.Holds (loads : String → Option Json) : Input → List Command → Prop
  | .took msg, held => held = (command loads msg).toList
  | .holding command, held => held = command.toList
  | .off, _ => True
  | _, held => held = []

/-- The two directions are faithful, and `last_input` and the reason are what they are taken for. -/
structure Kept (loads : String → Option Json) (m : Memory) (φ : Output) (ψ : Input) : Prop where
  received : m.received.map Prod.snd <+: m.browser
  taken : m.taken <+: m.output
  input : ∃ held, ψ.Holds loads held ∧ Relay.Faithful (fun msg => (command loads msg).toList)
    ⟨m.received.map Prod.snd, held, m.toProcess⟩
  output : ∃ held, φ.Holds held ∧ m.toBrowser.flatten ++ held = m.taken
  clock : m.lastInput ≤ m.time
  past : ∀ r ∈ m.received, r.1 ≤ m.time
  noted : (∀ msg, ψ ≠ .took msg) → ∀ r ∈ m.received, counts loads r.2 = true → r.1 ≤ m.lastInput
  stale : ψ = .stale → 1800 < m.time - m.lastInput
  reason : m.closeReason = "inactivity_timeout" → ψ = .done ∧ 1800 < m.time - m.lastInput
  known : m.closeReason ∈ ["session_closed", "ssh_error", "inactivity_timeout"]
  told : φ = .done ∨ ψ = .done → m.closeReason ≠ "session_closed"

section Steps
variable {loads : String → Option Json} {m m' : Memory} {φ φ' : Output} {ψ ψ' : Input} {e : Eff}
  {a : Ans e}

theorem kept_start (h : m.Start) : Kept loads m .idle .idle := by
  obtain ⟨time, lastInput, hle, rfl⟩ := h
  constructor
  case received => exact List.prefix_rfl
  case taken => exact List.prefix_rfl
  case input => exact ⟨[], rfl, Relay.faithful_start⟩
  case output => exact ⟨[], rfl, rfl⟩
  case clock => exact hle
  case past => simp
  case noted => simp
  case stale => simp
  case reason => simp
  case known => simp
  case told => simp

theorem Kept.env (h : Kept loads m φ ψ) (he : Env m m') : Kept loads m' φ ψ := by
  cases he with
  | @tick time hle =>
    have hpast : ∀ r ∈ m.received, r.1 ≤ time := fun r hr => (h.past r hr).trans hle
    have hlater : 1800 < m.time - m.lastInput → 1800 < time - m.lastInput := by
      intro hlong
      linarith
    exact { h with
      clock := h.clock.trans hle
      past := hpast
      stale := fun hψ => hlater (h.stale hψ)
      reason := fun hreason => ⟨(h.reason hreason).1, hlater (h.reason hreason).2⟩ }
  | browser msg => exact { h with received := h.received.trans (List.prefix_append _ _) }
  | process data => exact { h with taken := h.taken.trans (List.prefix_append _ _) }

theorem Kept.left (h : Kept loads m φ ψ) (ht : OutputT φ e a φ') (ha : Act m e a m') :
    Kept loads m' φ' ψ := by
  obtain ⟨held, hheld, houtput⟩ := h.output
  cases ht with
  | broken =>
    cases ha
    exact { h with
      output := ⟨held, trivial, houtput⟩
      told := fun hdone => h.told (hdone.imp_left nofun) }
  | @read data hne =>
    obtain rfl := hheld
    cases ha with
    | @read data rest hrest =>
      rw [List.append_nil] at houtput
      have hmore : m.taken ++ data <+: m.output := by
        rw [hrest]
        exact List.prefix_append _ _
      exact { h with
        taken := hmore
        output := ⟨data, rfl, by rw [houtput]⟩
        told := fun hdone => h.told (hdone.imp_left nofun) }
    | ended => exact absurd rfl hne
  | eof =>
    obtain rfl := hheld
    cases ha with
    | read _ hne => exact absurd rfl hne
    | ended =>
      exact { h with
        output := ⟨[], rfl, houtput⟩
        told := fun hdone => h.told (hdone.imp_left nofun) }
  | reason =>
    cases ha
    exact { h with
      output := ⟨held, hheld, houtput⟩
      reason := fun hreason => absurd hreason (by simp)
      known := by simp
      told := fun _ => by simp }
  | shown =>
    obtain rfl := hheld
    cases ha
    exact { h with
      output := ⟨[], rfl, by simpa using houtput⟩
      told := fun hdone => h.told (hdone.imp_left nofun) }
  | failed =>
    obtain rfl := hheld
    cases ha with
    | shown =>
      exact { h with
        output := ⟨[], trivial, by simpa using houtput⟩
        told := fun hdone => h.told (hdone.imp_left nofun) }
    | unshown _ =>
      exact { h with
        output := ⟨_, trivial, houtput⟩
        told := fun hdone => h.told (hdone.imp_left nofun) }

theorem command_of_ignored {msg : Message} (h : counts loads msg = false) :
    command loads msg = none := by
  obtain ⟨bytes, text⟩ := msg
  cases bytes with
  | some data => cases h
  | none =>
    cases text with
    | none => rfl
    | some text =>
      simp only [counts, Option.any_some] at h
      simp only [command, Option.bind_some]
      cases hwhat : (asked loads text).toOption with
      | none => rfl
      | some what =>
        rw [hwhat] at h
        cases what with
        | nothing => rfl
        | ping => rfl
        | resize payload => cases h

/-- A message is received. -/
theorem Kept.message (h : Kept loads m φ .active) {msg : Message} {rest : List Message}
    (hrest : m.browser = m.received.map Prod.snd ++ msg :: rest)
    (hψ : counts loads msg = true ∧ ψ' = .took msg ∨ counts loads msg = false ∧ ψ' = .idle) :
    Kept loads { m with received := m.received ++ [(m.time, msg)] } φ ψ' := by
  obtain ⟨held, hheld, hinput⟩ := h.input
  obtain rfl : held = [] := hheld
  have hnew : (m.received ++ [(m.time, msg)]).map Prod.snd = m.received.map Prod.snd ++ [msg] := by
    simp
  have hholds : ψ'.Holds loads (command loads msg).toList := by
    rcases hψ with ⟨-, rfl⟩ | ⟨hignored, rfl⟩
    · rfl
    · rw [command_of_ignored hignored]
      rfl
  have hnever : ψ' ≠ .done ∧ ψ' ≠ .stale := by
    rcases hψ with ⟨-, rfl⟩ | ⟨-, rfl⟩ <;> exact ⟨nofun, nofun⟩
  constructor
  case received =>
    rw [hnew, hrest]
    exact ⟨rest, by simp⟩
  case taken => exact h.taken
  case input =>
    refine ⟨_, hholds, ?_⟩
    rw [hnew]
    exact hinput.take msg
  case output => exact h.output
  case clock => exact h.clock
  case past =>
    intro r hr
    rcases List.mem_append.mp hr with hr | hr
    · exact h.past r hr
    · rw [List.mem_singleton.mp hr]
  case noted =>
    intro hnot r hr hcounts
    rcases List.mem_append.mp hr with hr | hr
    · exact h.noted nofun r hr hcounts
    · rw [List.mem_singleton.mp hr] at hcounts
      rcases hψ with ⟨-, hψ⟩ | ⟨hignored, -⟩
      · exact absurd hψ (hnot msg)
      · rw [hignored] at hcounts
        cases hcounts
  case stale => exact fun hstale => absurd hstale hnever.2
  case reason =>
    intro hreason
    cases (h.reason hreason).1
  case known => exact h.known
  case told =>
    intro hdone
    exact h.told (.inl (hdone.resolve_right hnever.1))

/-- The call with the command comes back. -/
theorem Kept.handed {c : Option Command} {ok : Except Exc Unit} {held toProcess : List Command}
    (h : Kept loads m φ (.holding c)) (hheld : ok.isOk = false ∨ held = [])
    (hrelay : Relay.Faithful (fun msg => (command loads msg).toList)
      ⟨m.received.map Prod.snd, held, toProcess⟩) :
    Kept loads { m with toProcess } φ (if ok.isOk then .idle else .off) := by
  have hholds : Input.Holds loads (if ok.isOk then .idle else .off) held := by
    rcases hheld with hfalse | rfl
    · rw [hfalse]
      trivial
    · cases ok <;> trivial
  have hnever : (if ok.isOk then .idle else .off : Input) ≠ .done ∧
      (if ok.isOk then .idle else .off : Input) ≠ .stale := by
    cases ok <;> exact ⟨nofun, nofun⟩
  exact { h with
    input := ⟨held, hholds, hrelay⟩
    noted := fun _ => h.noted nofun
    stale := fun hstale => absurd hstale hnever.2
    reason := fun hreason => nomatch (h.reason hreason).1
    told := fun hdone => h.told (.inl (hdone.resolve_right hnever.1)) }

theorem Kept.right (h : Kept loads m φ ψ) (ht : InputT loads ψ e a ψ') (ha : Act m e a m') :
    Kept loads m' φ ψ' := by
  obtain ⟨held, hheld, hinput⟩ := h.input
  have hquiet : ψ' ≠ .done → φ = .done ∨ ψ' = .done → m.closeReason ≠ "session_closed" := by
    intro hne hdone
    exact h.told (.inl (hdone.resolve_right hne))
  have hopen : ψ ≠ .done → m.closeReason ≠ "inactivity_timeout" :=
    fun hne hreason => hne (h.reason hreason).1
  cases ht with
  | active hshort =>
    cases ha
    exact { h with
      input := ⟨held, hheld, hinput⟩
      noted := fun _ => h.noted nofun
      stale := nofun
      reason := fun hreason => absurd hreason (hopen nofun)
      told := hquiet nofun }
  | stale hlong =>
    cases ha
    exact { h with
      input := ⟨held, hheld, hinput⟩
      noted := fun _ => h.noted nofun
      stale := fun _ => hlong
      reason := fun hreason => absurd hreason (hopen nofun)
      told := hquiet nofun }
  | reason =>
    cases ha
    exact { h with
      input := ⟨held, hheld, hinput⟩
      noted := fun _ => h.noted nofun
      stale := nofun
      reason := fun _ => ⟨rfl, h.stale rfl⟩
      known := by simp
      told := fun _ => by simp }
  | timeout =>
    cases ha
    exact { h with
      input := ⟨held, hheld, hinput⟩
      noted := fun _ => h.noted nofun
      stale := nofun
      reason := fun hreason => absurd hreason (hopen nofun)
      told := hquiet nofun }
  | raised =>
    cases ha
    exact { h with
      input := ⟨held, trivial, hinput⟩
      noted := fun _ => h.noted nofun
      stale := nofun
      reason := fun hreason => absurd hreason (hopen nofun)
      told := hquiet nofun }
  | took hcounts =>
    cases ha with
    | message hrest => exact h.message hrest (.inl ⟨hcounts, rfl⟩)
  | ignored hcounts =>
    cases ha with
    | message hrest => exact h.message hrest (.inr ⟨hcounts, rfl⟩)
  | touch =>
    cases ha
    exact { h with
      input := ⟨held, hheld, hinput⟩
      clock := le_refl _
      noted := fun _ r hr _ => h.past r hr
      stale := nofun
      reason := fun hreason => absurd hreason (hopen nofun)
      told := hquiet nofun }
  | written ok =>
    obtain rfl := hheld
    cases ha with
    | written => exact h.handed (.inr rfl) hinput.pass
    | unwritten => exact h.handed (.inl rfl) hinput
  | sized ok =>
    obtain rfl := hheld
    cases ha with
    | sized => exact h.handed (.inr rfl) hinput.pass
    | unsized => exact h.handed (.inl rfl) hinput
  | pong ok =>
    obtain rfl := hheld
    cases ha
    exact h.handed (.inr rfl) hinput

end Steps

theorem Reachable.kept {loads : String → Option Json} {d : Duplex Eff Ans Exc Memory}
    (h : Reachable loads d) :
    ∃ φ ψ, Kept loads d.memory φ ψ ∧ d.left.Follows OutputT φ (Again .idle .done) ∧
      d.right.Follows (InputT loads) ψ (Again .idle .done) := by
  apply Duplex.invariant (round_follows sshToWs_spec) (round_follows wsToSsh_spec) ?_ ?_ ?_ ?_ h
  · intro m hm
    exact kept_start hm
  · intro m m' φ ψ hkept henv
    exact hkept.env henv
  · intro m m' φ φ' ψ e r hkept ht ha
    exact hkept.left ht ha
  · intro m m' φ ψ ψ' e r hkept ht ha
    exact hkept.right ht ha

theorem raisedEnd_cases (closeReason : String) (outs : List (Except Exc Unit)) :
    raisedEnd closeReason outs = .done closeReason ∧ (∀ out ∈ outs, out = .ok ()) ∨
      raisedEnd closeReason outs = .timeout ∧ .error .timeoutError ∈ outs ∨
      raisedEnd closeReason outs = .error := by
  induction outs with
  | nil => exact .inl ⟨rfl, nofun⟩
  | cons out outs ih =>
    cases out with
    | ok u =>
      rcases ih with ⟨hdone, hall⟩ | ⟨htimeout, hmem⟩ | herror
      · exact .inl ⟨hdone, by simpa using hall⟩
      · exact .inr (.inl ⟨htimeout, List.mem_cons_of_mem _ hmem⟩)
      · exact .inr (.inr herror)
    | error exc =>
      by_cases hexc : exc = .timeoutError
      · subst hexc
        exact .inr (.inl ⟨rfl, List.mem_cons_self ..⟩)
      · refine .inr (.inr ?_)
        cases exc with
        | timeoutError => exact absurd rfl hexc
        | _ => rfl

theorem mem_outcomes {leftFirst : Bool} {d : Duplex Eff Ans Exc Memory} {out : Except Exc Unit} :
    out ∈ outcomes leftFirst d ↔ Round.outcome d.left = some out ∨ Round.outcome d.right = some out := by
  cases leftFirst with
  | true => simp [outcomes]
  | false => simp [outcomes, or_comm]

/-- The ways in which the handler comes back from the tasks. -/
theorem ended_cases {leftFirst : Bool} {d : Duplex Eff Ans Exc Memory} {out : PumpEnd}
    (h : ended leftFirst d = some out) :
    out = .done d.memory.closeReason ∧
        (Round.outcome d.left = some (.ok ()) ∨ Round.outcome d.right = some (.ok ())) ∨
      out = .timeout ∧ (Round.outcome d.left = some (.error .timeoutError) ∨
        Round.outcome d.right = some (.error .timeoutError)) ∨
      out = .error := by
  unfold ended at h
  split at h
  · cases h
  · next hsome =>
    obtain rfl := Option.some.inj h
    obtain ⟨first, hfirst⟩ := List.exists_mem_of_ne_nil _ (by simpa using hsome)
    rcases raisedEnd_cases d.memory.closeReason (outcomes leftFirst d) with
      ⟨hdone, hall⟩ | ⟨htimeout, hin⟩ | herror
    · rw [hall first hfirst] at hfirst
      exact .inl ⟨hdone, mem_outcomes.mp hfirst⟩
    · exact .inr (.inl ⟨htimeout, mem_outcomes.mp hin⟩)
    · exact .inr (.inr herror)

/-- However the two tasks of a terminal take turns, and however they end. The process gets a prefix of what
the browser's messages ask for, in their order, and the browser a prefix of the process's bytes; each
gets all of it when the task waits with nothing left to receive. A terminal is closed for inactivity only
when no data, new size or ping was received for half an hour, or when a task ended in a `TimeoutError`,
which the handler takes for that; and a reason is always given when a task just ends. -/
theorem terminal_faithful {loads : String → Option Json} {d : Duplex Eff Ans Exc Memory}
    (h : Reachable loads d) :
    d.memory.toProcess <+: d.memory.browser.filterMap (command loads) ∧
    d.memory.toBrowser.flatten <+: d.memory.output ∧
    (∀ k, d.right = .await .receive k → d.memory.received.map Prod.snd = d.memory.browser →
      d.memory.toProcess = d.memory.browser.filterMap (command loads)) ∧
    (∀ k, d.left = .await .read k → d.memory.taken = d.memory.output →
      d.memory.toBrowser.flatten = d.memory.output) ∧
    (∀ leftFirst out, ended leftFirst d = some out → out.closeReason = "inactivity_timeout" →
      (∀ r ∈ d.memory.received, counts loads r.2 = true → r.1 + 1800 < d.memory.time) ∨
        Round.outcome d.left = some (.error .timeoutError) ∨
        Round.outcome d.right = some (.error .timeoutError)) ∧
    ∀ leftFirst reason, ended leftFirst d = some (.done reason) →
      reason = "ssh_error" ∨ reason = "inactivity_timeout" := by
  obtain ⟨φ, ψ, hkept, hleft, hright⟩ := h.kept
  obtain ⟨held, hheld, hinput⟩ := hkept.input
  obtain ⟨held', hheld', houtput⟩ := hkept.output
  have hcommands : ∀ msgs : List Message, msgs.filterMap (command loads) =
      msgs.flatMap fun msg => (command loads msg).toList := by
    intro msgs
    rw [List.filterMap_eq_flatMap_toList]
  refine ⟨?_, ?_, ?_, ?_, ?_, ?_⟩
  · rw [hcommands]
    exact hinput.prefix_of hkept.received
  · apply List.IsPrefix.trans ?_ hkept.taken
    rw [← houtput]
    exact List.prefix_append _ _
  · intro k hk hall
    rw [hk] at hright
    obtain ⟨ψ', ht, -⟩ := hright (.error (.runtimeError ""))
    cases ht
    obtain rfl := hheld
    rw [hcommands, ← hall]
    exact hinput.all
  · intro k hk hall
    rw [hk] at hleft
    obtain ⟨φ', ht, -⟩ := hleft (.error .timeoutError)
    cases ht
    obtain rfl := hheld'
    rw [← hall, ← houtput, List.append_nil]
  · intro leftFirst out hended hreason
    rcases ended_cases hended with ⟨rfl, -⟩ | ⟨rfl, htimeout⟩ | rfl
    · left
      intro r hr hcounts
      obtain ⟨hdone, hlong⟩ := hkept.reason hreason
      have hnoted := hkept.noted (by simp [hdone]) r hr hcounts
      linarith
    · exact .inr htimeout
    · exact absurd hreason (by decide)
  · intro leftFirst reason hended
    rcases ended_cases hended with ⟨hreason, hok⟩ | ⟨htimeout, -⟩ | herror
    · have hdone : φ = .done ∨ ψ = .done :=
        hok.imp (fun hl => Round.outcome_ok hl hleft) fun hr => Round.outcome_ok hr hright
      obtain rfl := PumpEnd.done.inj hreason
      have hknown := hkept.known
      simp only [List.mem_cons, List.not_mem_nil, or_false] at hknown
      exact hknown.resolve_left (hkept.told hdone)
    · cases htimeout
    · cases herror

/-- A terminal that has just been opened. -/
def fresh (loads : String → Option Json) : Duplex Eff Ans Exc Memory where
  memory := {}
  left := (loops loads).left
  right := (loops loads).right

/-- As when the process prints a line and ends. -/
theorem terminal_faithful_once : ∃ d, Reachable (fun _ => none) d ∧ d.memory.output = [104, 105] ∧
    ended true d = some (.done "ssh_error") ∧ d.memory.toBrowser.flatten <+: d.memory.output := by
  have hfresh : Reachable (fun _ => none) (fresh fun _ => none) := .start ⟨rfl, rfl, 0, 0, le_rfl, rfl⟩
  have hprinted := hfresh.next (.env (.process [104, 105])) trivial
  have hall : ([104, 105] : Bytes) = [] ++ [104, 105] ++ [] := rfl
  have hread := hprinted.next (.left rfl rfl (.read hall (by decide) (by decide))) trivial
  have hshown := hread.next (.left rfl rfl (.shown (.ok ()))) trivial
  have heof := hshown.next (.left rfl rfl (.ended rfl)) trivial
  have hdone := heof.next (.left rfl rfl .reason) trivial
  exact ⟨_, hdone, rfl, rfl, (terminal_faithful hdone).2.1⟩

end Console

end Clusteration.Front
