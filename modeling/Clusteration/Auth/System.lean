import Mathlib.Tactic.Linarith
import Clusteration.Auth.Accounts
import Clusteration.Framework.Reach

open Async Transition

namespace Clusteration.Auth

/-- What the requests of one process share: the database's rows, the module's dictionaries and the
two clocks. `credential` is the password hash in the row of `ADMIN_USERNAME`. -/
structure Shared where
  monotonic : Time := 0
  utcnow : Time := 0
  credential : Option String := none
  resets : Table PasswordReset := {}
  loginFails : String → List Time := fun _ => []
  hits : Bucket → String → List Time := fun _ _ => []

def PasswordReset.unused (row : PasswordReset) (username : String) : Bool :=
  row.username = username && row.usedAt.isNone

/-- Unused and unexpired. -/
def PasswordReset.live (row : PasswordReset) (username : String) (now : Time) : Bool :=
  row.unused username && decide (now < row.expiresAt)

/-- `[t for t in hits if now - t < window]`. -/
def within (window now : Time) (hits : List Time) : List Time :=
  hits.filter fun t => now - t < window

theorem within_within {window now now' : Time} (h : now ≤ now') (l : List Time) :
    within window now' (within window now l) = within window now' l := by
  unfold within
  rw [List.filter_filter]
  apply List.filter_congr
  intro t _
  have himp : now' - t < window → now - t < window := fun ht => by linarith
  by_cases ht : now' - t < window
  · simp [ht, himp ht]
  · simp [ht]

/-- `_throttle` at the time `now`: its answer, and the dictionary after it. -/
def throttle (bucket : String → List Time) (ip : String) (window : Time) (maxHits : Nat)
    (now : Time) : Bool × (String → List Time) :=
  let hits := within window now (bucket ip)
  if maxHits ≤ hits.length then (false, Function.update bucket ip hits)
  else (true, Function.update bucket ip (hits ++ [now]))

/-- The environment's part in an await. -/
inductive In where
  | none
  | nat (n : Nat)
  | code (c : ResetId)
  | bool (b : Bool)

/-- One await. `none`: it cannot end this way in this state. -/
def perform (pwd : CryptContext) (s : Shared) : (e : Eff) → In → Option (Ans e × Shared)
  | .recentFails ip, .none =>
    let fails := within loginWindow s.monotonic (s.loginFails ip)
    some ((s.monotonic, fails), { s with loginFails := Function.update s.loginFails ip fails })
  | .recordFail ip fails now, .none =>
    some ((), { s with loginFails := Function.update s.loginFails ip (fails ++ [now]) })
  | .popFails ip, .none =>
    some ((), { s with loginFails := Function.update s.loginFails ip [] })
  | .throttle bucket ip window maxHits, .none =>
    let hits := within window s.monotonic (s.hits bucket ip)
    let allowed := decide (hits.length < maxHits)
    let hits := if allowed then hits ++ [s.monotonic] else hits
    some (allowed,
      { s with hits := Function.update s.hits bucket (Function.update (s.hits bucket) ip hits) })
  | .utcnow, .none => some (s.utcnow, s)
  | .randbelow n, .nat k => if k < n then some (k, s) else none
  | .salt, .nat k => some (k, s)
  | .selectCredential, .none => some (s.credential, s)
  | .selectUnused username, .none =>
    some ((s.resets.select fun row => row.unused username).filterMap fun c =>
      (s.resets.get c).map fun row => (c, row), s)
  | .commitCode olds new, .none =>
    let used := olds.foldl (fun (t : Table PasswordReset) old =>
      t.update old.1 fun row => { row with usedAt := some old.2 }) s.resets
    some ((), { s with resets := used.insert new })
  | .selectLatest username now, .none =>
    if (s.resets.select fun row => row.live username now) = [] then some (Option.none, s) else none
  | .selectLatest username now, .code c =>
    match s.resets.get c with
    | Option.none => Option.none
    | some row =>
      if row.live username now && (s.resets.select fun row' =>
          row'.live username now && decide (row.createdAt < row'.createdAt)).isEmpty then
        some (some (c, row), s)
      else none
  | .verify _ guess codeHash, .none => some ((pwd.verify guess codeHash).getD false, s)
  | .commitAttempt entry, .none =>
    some ((), { s with resets := s.resets.update entry.id fun row => row.merge entry })
  | .commitPassword entry insert passwordHash, .none =>
    if insert && s.credential.isSome then some (false, s)
    else some (true, { s with
      resets := match entry with
        | Option.none => s.resets
        | some entry => s.resets.update entry.id fun row => row.merge entry
      credential := some passwordHash })
  | .sendEmail _ _, .bool sent => some (sent, s)
  | .audit _, .none => some ((), s)
  | _, _ => none

/-- The await of `_throttle` is one call at the process's clock. -/
theorem perform_throttle {pwd : CryptContext} {s : Shared} {bucket : Bucket} {ip : String}
    {window : Time} {maxHits : Nat} :
    let (allowed, hits) := throttle (s.hits bucket) ip window maxHits s.monotonic
    perform pwd s (.throttle bucket ip window maxHits) .none =
      some (allowed, { s with hits := Function.update s.hits bucket hits }) := by
  by_cases hfull : maxHits ≤ (within window s.monotonic (s.hits bucket ip)).length
  · simp [perform, throttle, hfull, Nat.not_lt.mpr hfull]
  · simp [perform, throttle, hfull, Nat.lt_of_not_le hfull]

/-- The await `e` takes the shared state from `s` to `s'` and answers `r`. -/
def Act (pwd : CryptContext) (s : Shared) (e : Eff) (r : Ans e) (s' : Shared) : Prop :=
  ∃ i, perform pwd s e i = some (r, s')

/-- What the history of a run records about a request. No code reads it. -/
inductive Event where
  /-- a login went on to the credential check -/
  | passed (ip : String) (now : Time)
  | failed (ip : String)
  | succeeded (ip : String) (time : Time)
  /-- `forgot` read the unused codes -/
  | read
  /-- `forgot` committed a code -/
  | replaced
  /-- `reset` read the code -/
  | took (c : ResetId)
  /-- a guess was compared with the code -/
  | compared (c : ResetId)
  /-- `reset` committed what it changed in the code -/
  | settled (c : ResetId)
  /-- the code changed the password -/
  | changed (c : ResetId)
  deriving DecidableEq

def events (s : Shared) : (e : Eff) → Ans e → List Event
  | .recentFails ip, (now, fails) => if fails.length < loginMaxFails then [.passed ip now] else []
  | .recordFail ip _ _, _ => [.failed ip]
  | .popFails ip, _ => [.succeeded ip s.monotonic]
  | .selectUnused _, _ => [.read]
  | .commitCode _ _, _ => [.replaced]
  | .selectLatest _ _, some (c, _) => [.took c]
  | .verify c _ _, _ => [.compared c]
  | .commitAttempt entry, _ => [.settled entry.id]
  | .commitPassword (some entry) _ _, true => [.changed entry.id, .settled entry.id]
  | _, _ => []

abbrev Handler := Prog Eff Ans (Except Exc Reply)

/-- One process of the panel. The history is newest first and names the request of each event. -/
structure Sys where
  shared : Shared := {}
  settings : Settings
  requests : List Handler := []
  hist : List (Nat × Event) := []

inductive Label where
  | tick (monotonic utcnow : Time)
  | receive (r : Request)
  | await (i : Nat) (e : Eff) (answer : Ans e)

/-- One step: time passes, a request arrives, or one request goes through one await. The wall clock
may be set to any time. -/
inductive Step : Sys → Label → Sys → Prop
  | tick {s : Sys} {monotonic utcnow : Time} : s.shared.monotonic ≤ monotonic →
      Step s (.tick monotonic utcnow) { s with shared := { s.shared with monotonic, utcnow } }
  | receive {s : Sys} (r : Request) :
      Step s (.receive r) { s with requests := s.requests ++ [serve s.settings r] }
  | await {s : Sys} {i : Nat} {e : Eff} {k : Ans e → Handler} {a : Ans e} {sh : Shared} :
      s.requests[i]? = some (.await e k) → Act s.settings.pwd s.shared e a sh →
      Step s (.await i e a)
        { s with
          shared := sh
          requests := s.requests.set i (k a)
          hist := (events s.shared e a).map (i, ·) ++ s.hist }

/-- A process that has just started, with no codes yet. -/
structure Initial (s : Sys) : Prop where
  requests : s.requests = []
  hist : s.hist = []
  resets : s.shared.resets = {}
  loginFails : ∀ ip, s.shared.loginFails ip = []

/-- A condition on steps: the history before it, and the step. -/
abbrev Cond := List (Nat × Event) → Label → Prop

def Cond.ok (cond : Cond) (s : Sys) (l : Label) (_ : Sys) : Prop := cond s.hist l

/-- The states of the runs whose steps all meet `cond`. -/
def Reachable (cond : Cond) : Sys → Prop := Reach Step cond.ok Initial

def Cond.any : Cond := fun _ _ => True

inductive Choice where
  | tick (monotonic utcnow : Time)
  | receive (r : Request)
  | run (i : Nat) (input : In)

def Sys.step (s : Sys) : Choice → Option (Label × Sys)
  | .tick monotonic utcnow =>
    if s.shared.monotonic ≤ monotonic then
      some (.tick monotonic utcnow, { s with shared := { s.shared with monotonic, utcnow } })
    else none
  | .receive r => some (.receive r, { s with requests := s.requests ++ [serve s.settings r] })
  | .run i input => match s.requests[i]? with
    | some (.await e k) => (perform s.settings.pwd s.shared e input).map fun (a, shared) =>
      (.await i e a,
        { s with
          shared
          requests := s.requests.set i (k a)
          hist := (events s.shared e a).map (i, ·) ++ s.hist })
    | _ => none

theorem step_sound {s s' : Sys} {c : Choice} {l : Label} (h : s.step c = some (l, s')) :
    Step s l s' := by
  cases c with
  | tick monotonic utcnow =>
    simp only [Sys.step, Option.ite_none_right_eq_some, Option.some.injEq, Prod.mk.injEq] at h
    obtain ⟨hle, rfl, rfl⟩ := h
    exact .tick hle
  | receive r =>
    cases h
    exact .receive r
  | run i input =>
    simp only [Sys.step] at h
    split at h
    · next e k hp =>
      simp only [Option.map_eq_some_iff, Prod.mk.injEq] at h
      obtain ⟨⟨a, sh⟩, hact, rfl, rfl⟩ := h
      exact .await hp ⟨input, hact⟩
    · cases h

/-- Follow choices, with a check on every step. -/
def Sys.run (ok : List (Nat × Event) → Label → Bool) (s : Sys) : List Choice → Option Sys
  | [] => some s
  | c :: cs => (s.step c).bind fun (l, s') => if ok s.hist l then s'.run ok cs else none

theorem run_reachable {ok : List (Nat × Event) → Label → Bool} {cond : Cond}
    (hok : ∀ hist l, ok hist l = true → cond hist l) {s s' : Sys} {cs : List Choice}
    (hs : Reachable cond s) (h : s.run ok cs = some s') : Reachable cond s' := by
  induction cs generalizing s with
  | nil =>
    cases h
    exact hs
  | cons c cs ih =>
    simp only [Sys.run, Option.bind_eq_some_iff] at h
    obtain ⟨⟨l, s₁⟩, hstep, h⟩ := h
    rw [Option.ite_none_right_eq_some] at h
    exact ih (.next hs (step_sound hstep) (hok _ _ h.1)) h.2

namespace Trials

def settings : Settings where
  smtpHost := "smtp"
  resetEmailTo := "admin@example.com"
  pwd := { hash := fun _ secret => some secret, verify := fun secret hash => some (secret == hash) }
  casefold := id

def panel : Sys where
  shared := { credential := some "secret" }
  settings := settings

theorem panel_initial : Initial panel where
  requests := rfl
  hist := rfl
  resets := rfl
  loginFails := fun _ => rfl

/-- The state such a run ends in. -/
theorem reached {ok : List (Nat × Event) → Label → Bool} {cond : Cond}
    (hok : ∀ hist l, ok hist l = true → cond hist l) {cs : List Choice}
    (h : (panel.run ok cs).isSome = true) : Reachable cond ((panel.run ok cs).get h) :=
  run_reachable hok (.start panel_initial) (Option.some_get h).symm

/-- A run that is evaluated once, up to a state that passes a check. -/
theorem evaluated_any {cs : List Choice} {p : Sys → Bool}
    (h : (panel.run (fun _ _ => true) cs).any p = true) : ∃ s, Reachable .any s ∧ p s = true := by
  obtain ⟨s, hs, hp⟩ := (Option.any_eq_true _ _).mp h
  exact ⟨s, run_reachable (fun _ _ _ => trivial) (.start panel_initial) hs, hp⟩

/-- Client `n` of a network. -/
def client (n : Nat) : Client := { host := some (toString n) }

def runs (i : Nat) (inputs : List In) : List Choice := inputs.map (.run i)

end Trials

end Clusteration.Auth
