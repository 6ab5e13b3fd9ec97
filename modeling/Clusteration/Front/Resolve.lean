import Mathlib.Algebra.Order.Ring.Rat
import Clusteration.Framework.Coroutine
import Clusteration.Panel.Json

open Async

namespace Clusteration.Front

/-- `time.monotonic()` -/
abbrev Time := ℚ

/-- What the panel answers to a lookup. A body that is no JSON is `none`. -/
structure LookupResponse where
  statusCode : Nat
  body : Option Json

/-- `data[0]` -/
def firstItem : Json → Option Json
  | .arr items => items.head?
  | .str s => s.toList.head?.map fun c => .str (String.singleton c)
  | _ => none

/-- `x["dial"]` -/
def dialItem : Json → Option Json
  | .obj fields => fields.lookup "dial"
  | _ => none

/-- The dial of an answer; `none` where the code raises. -/
def dialOf (response : LookupResponse) : Option Json := do
  let data ← if response.statusCode = 200 then response.body else some (.arr [])
  if data.truthy then
    let item ← firstItem data
    dialItem item
  else some .null

inductive LookupEff where
  /-- `now = time.monotonic()` and `_cache.get(host)` -/
  | cached (host : String)
  /-- the request of `client.get` is sent -/
  | get (host : String)
  /-- its answer, or an exception -/
  | response
  /-- `_cache[host] = (expires, dial)` -/
  | store (host : String) (expires : Time) (dial : Json)

abbrev LookupAns : LookupEff → Type
  | .cached _ => Time × Option (Time × Json)
  | .get _ => Unit
  | .response => Option LookupResponse
  | .store _ _ _ => Unit

/-- A call of `resolve`. It returns the dial; `none` stands for an exception. -/
abbrev Resolving := Prog LookupEff LookupAns (Option Json)

def keep (host : String) (now : Time) (dial : Json) : Resolving :=
  .await (.store host (now + 5) dial) fun _ => .ret (some dial)

def receive (host : String) (now : Time) (response : Option LookupResponse) : Resolving :=
  match response.bind dialOf with
  | none => .ret none
  | some dial => keep host now dial

def lookup (host : String) (now : Time) : Resolving :=
  .await (.get host) fun _ => .await .response (receive host now)

def resolve (host : String) : Resolving :=
  .await (.cached host) fun (now, cached) =>
    match cached with
    | none => lookup host now
    | some (expires, dial) => if now < expires then .ret (some dial) else lookup host now

/-- What the history of a run records about the lookups. No code reads it. -/
inductive LookupEvent where
  | issued (host : String) (n : Nat) (time : Time)
  | answered (host : String) (n : Nat) (response : LookupResponse)

/-- The calls of `resolve` are numbered for each host. -/
structure ProxyState where
  clock : Time
  cache : String → Option (Time × Json) := fun _ => none
  calls : String → Nat → Option Resolving := fun _ _ => none
  hist : List LookupEvent := []

namespace ProxyState

def setCall (s : ProxyState) (host : String) (n : Nat) (p : Resolving) : ProxyState :=
  { s with calls := Function.update s.calls host (Function.update (s.calls host) n (some p)) }

/-- One await of call `n` for `host`; `response` is what a lookup comes to. -/
def perform (s : ProxyState) (host : String) (n : Nat) (response : Option LookupResponse) :
    (e : LookupEff) → LookupAns e × ProxyState
  | .cached key => ((s.clock, s.cache key), s)
  | .get key => ((), { s with hist := .issued key n s.clock :: s.hist })
  | .response => (response,
      { s with hist := (response.toList.map fun r => .answered host n r) ++ s.hist })
  | .store key expires dial =>
    ((), { s with cache := Function.update s.cache key (some (expires, dial)) })

end ProxyState

inductive ProxyLabel where
  | tick (clock : Time)
  | call (host : String) (n : Nat)
  | run (host : String) (n : Nat) (response : Option LookupResponse)

/-- Time passes, a call begins, or one goes through an await. -/
def ProxyState.step (s : ProxyState) : ProxyLabel → Option ProxyState
  | .tick clock => if s.clock ≤ clock then some { s with clock } else none
  | .call host n => if (s.calls host n).isNone then some (s.setCall host n (resolve host)) else none
  | .run host n response => match s.calls host n with
    | some (.await e k) =>
      let (a, s') := s.perform host n response e
      some (s'.setCall host n (k a))
    | _ => none

def ProxyState.run (s : ProxyState) : List ProxyLabel → Option ProxyState
  | [] => some s
  | l :: ls => (s.step l).bind fun s' => s'.run ls

end Clusteration.Front
