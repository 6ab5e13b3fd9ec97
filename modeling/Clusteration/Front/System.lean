import Clusteration.Front.Handlers
import Clusteration.Panel.System

open Async Transition

namespace Clusteration.Front

/-- The rows these routes share with each other and with the panel, and the row locks of the
transactions that are open. -/
structure Shared where
  vms : Table VM := {}
  exposures : List (ExposureId × VMExposure) := []
  nextExposure : ExposureId := 0
  sessions : Table TerminalSession := {}
  locks : SessionId → Bool := fun _ => false

/-- The environment's part in an await. -/
inductive In where
  | none
  | nat (n : Nat)
  | bool (b : Bool)
  | pump (ended : PumpEnd)

def Shared.exposure (s : Shared) (x : ExposureId) : Option VMExposure := s.exposures.lookup x

/-- The exposure with this slug. -/
def Shared.slug (s : Shared) (slug : String) : Option VMExposure :=
  (s.exposures.map Prod.snd).find? fun row => row.slug = slug

/-- One await. `none`: it cannot end this way in this state; a commit waits for the row's lock. -/
def perform (s : Shared) : (e : Eff) → In → Option (Ans e × Shared)
  | .getVM v, .none => some (s.vms.get v, s)
  | .selectSlug slug, .none => some (s.slug slug, s)
  | .selectEnabledSlug slug, .none => some ((s.slug slug).filter VMExposure.enabled, s)
  | .insertExposure row, .none =>
    if (s.slug row.slug).isSome then some (none, s)
    else some (some s.nextExposure,
      { s with
        exposures := s.exposures ++ [(s.nextExposure, row)]
        nextExposure := s.nextExposure + 1 })
  | .getExposure x, .none => some (s.exposure x, s)
  | .deleteExposure x, .none =>
    some ((), { s with exposures := s.exposures.filter fun e => e.1 ≠ x })
  | .utcnow, .nat now => some (now, s)
  | .insertSession row, .none => some (s.sessions.next, { s with sessions := s.sessions.insert row })
  | .getSession sid, .none => some (s.sessions.get sid, s)
  | .commitSession sid status closedAt, .none =>
    if s.locks sid then none
    else some ((), { s with sessions := s.sessions.update sid fun row =>
      { row with status := status.getD row.status, closedAt := closedAt.or row.closedAt } })
  | .claim sid, .none =>
    if s.locks sid then none
    else if (s.sessions.get sid).any fun row => row.status.open then
      some (true, { s with locks := Function.update s.locks sid true })
    else some (false, s)
  | .commitClaim sid, .none =>
    some ((), { s with
      sessions := s.sessions.update sid fun row => { row with status := .connected }
      locks := Function.update s.locks sid false })
  | .refresh sid, .none => some (s.sessions.get sid, s)
  | .accept _, .bool sent => some (sent, s)
  | .sendText _ _, .bool sent => some (sent, s)
  | .closeSocket _, .bool sent => some (sent, s)
  | .connect _, .nat conn => some (some conn, s)
  | .connect _, .none => some (none, s)
  | .createProcess, .bool created => some (created, s)
  | .pump, .pump ended => some (ended, s)
  | .closeConnection _, .none => some ((), s)
  | _, _ => none

/-- The await `e` takes the shared state from `s` to `s'` and answers `r`. -/
def Act (s : Shared) (e : Eff) (r : Ans e) (s' : Shared) : Prop :=
  ∃ i, perform s e i = some (r, s')

abbrev Handler := Prog Eff Ans (Except Exc Reply)

/-- What a request has done: its number, an await and the answer. -/
structure Entry where
  request : Nat
  eff : Eff
  answer : Ans eff

/-- The panel with these routes. The VM rows are the panel's; the history is newest first. -/
structure Sys where
  panel : Clusteration.Sys
  settings : Settings := {}
  exposures : List (ExposureId × VMExposure) := []
  nextExposure : ExposureId := 0
  sessions : Table TerminalSession := {}
  locks : SessionId → Bool := fun _ => false
  requests : List Handler := []
  hist : List Entry := []

def Sys.shared (s : Sys) : Shared :=
  ⟨s.panel.shared.db.vms, s.exposures, s.nextExposure, s.sessions, s.locks⟩

inductive Label where
  | panel (l : Clusteration.Label)
  | receive (r : Request)
  | await (i : Nat) (e : Eff) (answer : Ans e)

/-- A request whose process has ended. -/
def killed : Handler := .ret (.error (.runtimeError "killed"))

/-- One step: the panel takes one, a request arrives, or one request goes through one await. The
end of the process takes its requests and open transactions with it. -/
inductive Step : Sys → Label → Sys → Prop
  | panel {s : Sys} {l : Clusteration.Label} {p : Clusteration.Sys} : l ≠ .crash →
      Clusteration.Step s.panel l p → Step s (.panel l) { s with panel := p }
  | crash {s : Sys} {p : Clusteration.Sys} : Clusteration.Step s.panel .crash p →
      Step s (.panel .crash)
        { s with panel := p, locks := fun _ => false, requests := s.requests.map fun _ => killed }
  | receive {s : Sys} (r : Request) : s.panel.alive = true → s.panel.boot.isRet = true →
      Step s (.receive r) { s with requests := s.requests ++ [serve s.settings r] }
  | await {s : Sys} {i : Nat} {e : Eff} {k : Ans e → Handler} {a : Ans e} {sh : Shared} :
      s.requests[i]? = some (.await e k) → Act s.shared e a sh →
      Step s (.await i e a)
        { s with
          exposures := sh.exposures
          nextExposure := sh.nextExposure
          sessions := sh.sessions
          locks := sh.locks
          requests := s.requests.set i (k a)
          hist := ⟨i, e, a⟩ :: s.hist }

structure Initial (s : Sys) : Prop where
  panel : Clusteration.Initial s.panel
  exposures : s.exposures = []
  sessions : s.sessions = {}
  locks : ∀ sid, s.locks sid = false
  requests : s.requests = []
  hist : s.hist = []

/-- A condition on steps. -/
abbrev Cond := Sys → Label → Sys → Prop

/-- The states of the runs whose steps all meet `cond`. -/
def Reachable (cond : Cond) : Sys → Prop := Reach Step cond Initial

def Cond.any : Cond := fun _ _ _ => True

/-- Seen from the panel, a run with these routes is a run of the panel. -/
theorem Reachable.panel {cond : Cond} {cond' : Clusteration.Cond} {s : Sys} (h : Reachable cond s)
    (hc : ∀ s l s', cond s (.panel l) s' → cond'.ok s.panel l s'.panel) :
    Clusteration.Reachable cond' s.panel := by
  induction h with
  | start hi => exact .start hi.panel
  | next _ hstep hok ih =>
    cases hstep with
    | panel _ hp => exact .next ih hp (hc _ _ _ hok)
    | crash hp => exact .next ih hp (hc _ _ _ hok)
    | receive r ha hb => exact ih
    | await hp hact => exact ih

inductive Choice where
  | panel (c : Clusteration.Choice)
  | receive (r : Request)
  | run (i : Nat) (input : In)

def Sys.step (s : Sys) : Choice → Option (Label × Sys)
  | .panel c => (s.panel.step c).map fun (l, p) => match l with
    | .crash => (.panel .crash,
      { s with panel := p, locks := fun _ => false, requests := s.requests.map fun _ => killed })
    | l => (.panel l, { s with panel := p })
  | .receive r =>
    if s.panel.alive && s.panel.boot.isRet then
      some (.receive r, { s with requests := s.requests ++ [serve s.settings r] })
    else none
  | .run i input => match s.requests[i]? with
    | some (.await e k) => (perform s.shared e input).map fun (a, sh) =>
      (.await i e a,
        { s with
          exposures := sh.exposures
          nextExposure := sh.nextExposure
          sessions := sh.sessions
          locks := sh.locks
          requests := s.requests.set i (k a)
          hist := ⟨i, e, a⟩ :: s.hist })
    | _ => none

theorem step_sound {s s' : Sys} {c : Choice} {l : Label} (h : s.step c = some (l, s')) :
    Step s l s' := by
  cases c with
  | panel c =>
    simp only [Sys.step, Option.map_eq_some_iff] at h
    obtain ⟨⟨l', p⟩, hp, h⟩ := h
    have hstep := Clusteration.step_sound hp
    cases l' with
    | crash =>
      cases h
      exact .crash hstep
    | _ =>
      cases h
      exact .panel (by simp) hstep
  | receive r =>
    simp only [Sys.step, Option.ite_none_right_eq_some, Option.some.injEq, Prod.mk.injEq,
      Bool.and_eq_true] at h
    obtain ⟨⟨ha, hb⟩, rfl, rfl⟩ := h
    exact .receive r ha hb
  | run i input =>
    simp only [Sys.step] at h
    split at h
    · next e k hp =>
      simp only [Option.map_eq_some_iff, Prod.mk.injEq] at h
      obtain ⟨⟨a, sh⟩, hact, rfl, rfl⟩ := h
      exact .await hp ⟨input, hact⟩
    · cases h

/-- Follow choices, with a check on every step. -/
def Sys.run (ok : Sys → Label → Sys → Bool) (s : Sys) : List Choice → Option Sys
  | [] => some s
  | c :: cs => (s.step c).bind fun (l, s') => if ok s l s' then s'.run ok cs else none

theorem run_reachable {ok : Sys → Label → Sys → Bool} {cond : Cond}
    (hok : ∀ s l s', ok s l s' = true → cond s l s') {s s' : Sys} {cs : List Choice}
    (hs : Reachable cond s) (h : s.run ok cs = some s') : Reachable cond s' := by
  induction cs generalizing s with
  | nil =>
    cases h
    exact hs
  | cons c cs ih =>
    simp only [Sys.run, Option.bind_eq_some_iff] at h
    obtain ⟨⟨l, s₁⟩, hstep, h⟩ := h
    rw [Option.ite_none_right_eq_some] at h
    exact ih (.next hs (step_sound hstep) (hok _ _ _ h.1)) h.2

namespace Trials

def front : Sys where
  panel := Scenario.panel
  settings := { exposureProxySecret := "secret" }

theorem front_initial : Initial front where
  panel := Scenario.panel_initial
  exposures := rfl
  sessions := rfl
  locks := fun _ => rfl
  requests := rfl
  hist := rfl

/-- The state such a run ends in. -/
theorem reached {ok : Sys → Label → Sys → Bool} {cond : Cond}
    (hok : ∀ s l s', ok s l s' = true → cond s l s') {cs : List Choice}
    (h : (front.run ok cs).isSome = true) : Reachable cond ((front.run ok cs).get h) :=
  run_reachable hok (.start front_initial) (Option.some_get h).symm

def panel (cs : List Clusteration.Choice) : List Choice := cs.map .panel

/-- A run that is evaluated once, up to a state that passes a check. -/
theorem evaluated {ok : Sys → Label → Sys → Bool} {cond : Cond}
    (hok : ∀ s l s', ok s l s' = true → cond s l s') {cs : List Choice} {p : Sys → Bool}
    (h : (front.run ok cs).any p = true) : ∃ s, Reachable cond s ∧ p s = true := by
  obtain ⟨s, hs, hp⟩ := (Option.any_eq_true _ _).mp h
  exact ⟨s, run_reachable hok (.start front_initial) hs, hp⟩

theorem evaluated_any {cs : List Choice} {p : Sys → Bool}
    (h : (front.run (fun _ _ _ => true) cs).any p = true) : ∃ s, Reachable .any s ∧ p s = true :=
  @evaluated _ Cond.any (fun _ _ _ _ => trivial) cs p h

def runs (i : Nat) (inputs : List In) : List Choice := inputs.map (.run i)

end Trials

end Clusteration.Front
