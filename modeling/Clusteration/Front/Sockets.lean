import Mathlib.Algebra.Order.Ring.Rat
import Clusteration.Framework.Charset
import Clusteration.Framework.Duplex
import Clusteration.Front.Handlers

open Charset Async Task

namespace Clusteration.Front

/-- A message of `websocket.receive()`. That of a disconnect has neither. -/
structure Message where
  bytes : Option Bytes := none
  text : Option String := none
  deriving DecidableEq

inductive Frame where
  | bytes (data : Bytes)
  | text (data : String)
  deriving DecidableEq

def Message.frame (msg : Message) : Option Frame :=
  match msg.bytes with
  | some data => some (.bytes data)
  | none => msg.text.map .text

/-- A call that ends with a value or raises. -/
def orRaise {E : Type} {R : E → Type} {α : Type} (exc : Exc) : Option α → Task E R Unit Exc α
  | some a => pure a
  | none => throw exc

namespace Tunnel

inductive Eff where
  /-- `websocket.receive()` -/
  | receive
  /-- `upstream.send` -/
  | send (frame : Frame)
  /-- the next message of `async for msg in upstream`; `none` when that ends -/
  | next
  /-- `websocket.send_bytes` or `websocket.send_text` -/
  | reply (frame : Frame)

abbrev Ans : Eff → Type
  | .receive => Option Message
  | .send _ => Option Unit
  | .next => Option (Option Frame)
  | .reply _ => Option Unit

def disconnected : Exc := .runtimeError "websocket"

def closed : Exc := .runtimeError "upstream"

/-- A round of `browser_to_upstream`. -/
def browserToUpstream : Task Eff Ans Unit Exc Bool := do
  let msg ← Task.await Eff.receive
  let msg ← orRaise disconnected msg
  match msg.bytes with
  | some data =>
    let sent ← Task.await (Eff.send (.bytes data))
    orRaise closed sent
    pure true
  | none =>
    match msg.text with
    | some data =>
      let sent ← Task.await (Eff.send (.text data))
      orRaise closed sent
      pure true
    | none => pure true

/-- A round of `upstream_to_browser`. -/
def upstreamToBrowser : Task Eff Ans Unit Exc Bool := do
  let msg ← Task.await Eff.next
  let msg ← orRaise closed msg
  match msg with
  | some frame =>
    let sent ← Task.await (Eff.reply frame)
    orRaise disconnected sent
    pure true
  | none => pure false

/-- What has gone through the two sockets. -/
structure Pipes where
  /-- what the browser has sent, and what of it was received -/
  browser : List Message := []
  received : List Message := []
  /-- what the upstream has sent, and what of it was received -/
  upstream : List Frame := []
  iterated : List Frame := []
  /-- what was handed to the other socket -/
  toUpstream : List Frame := []
  toBrowser : List Frame := []

/-- An await. Any of them may raise; a call to send may have sent before it raises. -/
inductive Act : Pipes → (e : Eff) → Ans e → Pipes → Prop
  | raised {m : Pipes} : Act m .receive none m
  | receive {m : Pipes} {msg : Message} {rest : List Message} :
      m.browser = m.received ++ msg :: rest →
      Act m .receive (some msg) { m with received := m.received ++ [msg] }
  | send {m : Pipes} {frame : Frame} (ok : Option Unit) :
      Act m (.send frame) ok { m with toUpstream := m.toUpstream ++ [frame] }
  | unsent {m : Pipes} {frame : Frame} : Act m (.send frame) none m
  | broken {m : Pipes} : Act m .next none m
  | ended {m : Pipes} : Act m .next (some none) m
  | next {m : Pipes} {frame : Frame} {rest : List Frame} :
      m.upstream = m.iterated ++ frame :: rest →
      Act m .next (some (some frame)) { m with iterated := m.iterated ++ [frame] }
  | reply {m : Pipes} {frame : Frame} (ok : Option Unit) :
      Act m (.reply frame) ok { m with toBrowser := m.toBrowser ++ [frame] }
  | unreplied {m : Pipes} {frame : Frame} : Act m (.reply frame) none m

/-- The two peers. -/
inductive Env : Pipes → Pipes → Prop
  | browser {m : Pipes} (msg : Message) : Env m { m with browser := m.browser ++ [msg] }
  | upstream {m : Pipes} (frame : Frame) : Env m { m with upstream := m.upstream ++ [frame] }

def loops : Loops Eff Ans Exc Pipes where
  left := (browserToUpstream ()).bind fun out => .ret out.1
  right := (upstreamToBrowser ()).bind fun out => .ret out.1
  act := Act
  env := Env

abbrev Reachable : Duplex Eff Ans Exc Pipes → Prop := Duplex.Reachable loops (· = {})

end Tunnel

namespace Console

/-- Seconds of the event loop's clock. -/
abbrev Time := ℚ

inductive Eff where
  /-- `term.proc.stdout.read(65536)` -/
  | read
  /-- `websocket.send_bytes` -/
  | show (data : Bytes)
  | reason (closeReason : String)
  /-- `asyncio.get_running_loop().time() - last_input` -/
  | idle
  | receive
  /-- `last_input = asyncio.get_running_loop().time()` -/
  | touch
  /-- `term.proc.stdin.write` -/
  | write (data : Bytes)
  | changeTerminalSize (cols rows : Int)
  | pong

/-- The calls that go out of the process may raise anything. Five seconds of waiting for a message end
in a `TimeoutError`. -/
abbrev Ans : Eff → Type
  | .read => Except Exc Bytes
  | .show _ => Except Exc Unit
  | .reason _ => Unit
  | .idle => Time
  | .receive => Except Exc Message
  | .touch => Unit
  | .write _ => Except Exc Unit
  | .changeTerminalSize _ _ => Except Exc Unit
  | .pong => Except Exc Unit

def ofExcept {α : Type} : Except Exc α → Task Eff Ans Unit Exc α
  | .ok a => pure a
  | .error exc => throw exc

/-- A round of `ssh_to_ws`. -/
def sshToWs : Task Eff Ans Unit Exc Bool := do
  let data ← Task.await Eff.read
  let data ← ofExcept data
  if data = [] then
    Task.await (Eff.reason "ssh_error")
    pure false
  else
    let sent ← Task.await (Eff.show data)
    ofExcept sent
    pure true

/-- `payload[key]`. -/
def item (payload : Dict) (key : String) : Except Exc Json :=
  match payload.lookup key with
  | some x => .ok x
  | none => .error (.keyError key)

/-- The two arguments of `change_terminal_size`. -/
def terminalSize (payload : Dict) : Except Exc (Int × Int) := do
  let cols ← item payload "cols"
  let cols ← cols.toInt
  let rows ← item payload "rows"
  let rows ← rows.toInt
  pure (cols, rows)

/-- What the text of a message asks for. `loads` is `json.loads`. -/
inductive Asked where
  | resize (payload : Dict)
  | ping
  | nothing

def asked (loads : String → Option Json) (text : String) : Except Exc Asked :=
  match loads text with
  | none => .error (.valueError "JSONDecodeError")
  | some (.obj payload) => match Dict.get payload "type" with
    | .str "resize" => .ok (.resize payload)
    | .str "ping" => .ok .ping
    | _ => .ok .nothing
  | some x => .error (.attributeError ("'" ++ x.typeName ++ "' object has no attribute 'get'"))

/-- What `ws_to_ssh` does with a text message. -/
def obey (loads : String → Option Json) (text : String) : Task Eff Ans Unit Exc Bool := do
  let what ← ofExcept (asked loads text)
  match what with
  | .resize payload =>
    Task.await Eff.touch
    let (cols, rows) ← ofExcept (terminalSize payload)
    let done ← Task.await (Eff.changeTerminalSize cols rows)
    ofExcept done
    pure true
  | .ping =>
    Task.await Eff.touch
    let sent ← Task.await Eff.pong
    ofExcept sent
    pure true
  | .nothing => pure true

/-- A round of `ws_to_ssh`. -/
def wsToSsh (loads : String → Option Json) : Task Eff Ans Unit Exc Bool := do
  let idle ← Task.await Eff.idle
  if 1800 < idle then
    Task.await (Eff.reason "inactivity_timeout")
    pure false
  else
    let message ← Task.await Eff.receive
    match message with
    | .error exc => if exc = .timeoutError then pure true else throw exc
    | .ok msg =>
      match msg.bytes with
      | some data =>
        Task.await Eff.touch
        let done ← Task.await (Eff.write data)
        ofExcept done
        pure true
      | none => match msg.text with
        | some text => obey loads text
        | none => pure true

/-- What the process got from the terminal. -/
inductive Command where
  | write (data : Bytes)
  | size (cols rows : Int)
  deriving DecidableEq

/-- What the variables of the handler hold, and what has gone through its two ends. -/
structure Memory where
  time : Time := 0
  lastInput : Time := 0
  closeReason : String := "session_closed"
  /-- what the browser has sent, and what of it was received, with the time of that -/
  browser : List Message := []
  received : List (Time × Message) := []
  /-- the bytes of the process, and those of them that were read -/
  output : Bytes := []
  taken : Bytes := []
  /-- what was handed to the other end -/
  toProcess : List Command := []
  toBrowser : List Bytes := []

/-- An await. Any of them may raise; a call that hands something on may have done so before. -/
inductive Act : Memory → (e : Eff) → Ans e → Memory → Prop
  | read {m : Memory} {data rest : Bytes} : m.output = m.taken ++ data ++ rest → data ≠ [] →
      data.length ≤ 65536 → Act m .read (.ok data) { m with taken := m.taken ++ data }
  | ended {m : Memory} : m.taken = m.output → Act m .read (.ok []) m
  | broken {m : Memory} (exc : Exc) : Act m .read (.error exc) m
  | shown {m : Memory} {data : Bytes} (ok : Except Exc Unit) :
      Act m (.show data) ok { m with toBrowser := m.toBrowser ++ [data] }
  | unshown {m : Memory} {data : Bytes} (exc : Exc) : Act m (.show data) (.error exc) m
  | reason {m : Memory} {closeReason : String} :
      Act m (.reason closeReason) () { m with closeReason }
  | idle {m : Memory} : Act m .idle (m.time - m.lastInput) m
  | message {m : Memory} {msg : Message} {rest : List Message} :
      m.browser = m.received.map Prod.snd ++ msg :: rest →
      Act m .receive (.ok msg) { m with received := m.received ++ [(m.time, msg)] }
  | raised {m : Memory} (exc : Exc) : Act m .receive (.error exc) m
  | touch {m : Memory} : Act m .touch () { m with lastInput := m.time }
  | written {m : Memory} {data : Bytes} (ok : Except Exc Unit) :
      Act m (.write data) ok { m with toProcess := m.toProcess ++ [.write data] }
  | unwritten {m : Memory} {data : Bytes} (exc : Exc) : Act m (.write data) (.error exc) m
  | sized {m : Memory} {cols rows : Int} (ok : Except Exc Unit) :
      Act m (.changeTerminalSize cols rows) ok { m with toProcess := m.toProcess ++ [.size cols rows] }
  | unsized {m : Memory} {cols rows : Int} (exc : Exc) :
      Act m (.changeTerminalSize cols rows) (.error exc) m
  | pong {m : Memory} (ok : Except Exc Unit) : Act m .pong ok m

/-- Time, the browser and the process. -/
inductive Env : Memory → Memory → Prop
  | tick {m : Memory} {time : Time} : m.time ≤ time → Env m { m with time }
  | browser {m : Memory} (msg : Message) : Env m { m with browser := m.browser ++ [msg] }
  | process {m : Memory} (data : Bytes) : Env m { m with output := m.output ++ data }

def loops (loads : String → Option Json) : Loops Eff Ans Exc Memory where
  left := (sshToWs ()).bind fun out => .ret out.1
  right := (wsToSsh loads ()).bind fun out => .ret out.1
  act := Act
  env := Env

/-- A terminal that has just been opened. -/
def Memory.Start (m : Memory) : Prop := ∃ time lastInput, lastInput ≤ time ∧ m = { time, lastInput }

abbrev Reachable (loads : String → Option Json) : Duplex Eff Ans Exc Memory → Prop :=
  Duplex.Reachable (loops loads) Memory.Start

/-- What the first exception comes to that the tasks raise again, in this order. -/
def raisedEnd (closeReason : String) : List (Except Exc Unit) → PumpEnd
  | [] => .done closeReason
  | .ok _ :: rest => raisedEnd closeReason rest
  | .error .timeoutError :: _ => .timeout
  | .error _ :: _ => .error

/-- How the tasks have ended that have, in the order in which the handler goes through their set. -/
def outcomes (leftFirst : Bool) (d : Duplex Eff Ans Exc Memory) : List (Except Exc Unit) :=
  let left := (Round.outcome d.left).toList
  let right := (Round.outcome d.right).toList
  if leftFirst then left ++ right else right ++ left

/-- What comes of the tasks for the handler that waited for the first of them. -/
def ended (leftFirst : Bool) (d : Duplex Eff Ans Exc Memory) : Option PumpEnd :=
  if (outcomes leftFirst d).isEmpty then none
  else some (raisedEnd d.memory.closeReason (outcomes leftFirst d))

end Console

end Clusteration.Front
