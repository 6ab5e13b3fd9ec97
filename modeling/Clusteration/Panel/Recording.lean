import Clusteration.Panel.Audit
import Clusteration.Panel.System

open Async Transition

namespace Clusteration

/-- The VM and the job that a commit inserts. -/
def insertedVm : (e : Eff) → Ans e → Option VmId
  | .insertVM _ _, (v, _) => some v
  | _, _ => none

def insertedJob : (e : Eff) → Ans e → Option JobId
  | .insertVM _ _, (_, j) => some j
  | .insertJob _, j => some j
  | _, _ => none

/-- A row of `audit_events`, and the job that its transaction inserts. No code reads the job. -/
structure AuditRow where
  job : Option JobId
  event : AuditEvent

def AuditEvent.row (event : AuditEvent) (e : Eff) (answer : Ans e) : AuditRow where
  job := insertedJob e answer
  event := { event with targetId := event.targetId <|> insertedVm e answer }

/-- A request in flight, or answered. `recorded` are the jobs that it has inserted with an audit row;
no code reads them. -/
structure Recording where
  context : Audited.Context
  request : Request
  program : Prog AuditedEff AuditedAns (Except Raised Response)
  recorded : List JobId := []

/-- The panel as in `Sys`, but for its requests, and the VM rows of `audit_events`. -/
structure AuditedSys where
  panel : Sys
  requests : List Recording := []
  trail : List AuditRow := []

def Audited.serve (c : Audited.Context) (r : Request) :
    Prog AuditedEff AuditedAns (Except Raised Response) :=
  (Audited.handle c r ()).bind fun out => .ret out.1

/-- The steps of the startup and of the worker. -/
def Label.ofProcess : Label → Bool
  | .restart _ | .get _ | .await .boot _ _ | .await .worker _ _ => true
  | .crash | .receive _ | .await (.request _) _ _ => false

inductive AuditedLabel where
  | panel (l : Label)
  | receive (c : Audited.Context) (r : Request)
  | await (i : Nat) (e : AuditedEff) (answer : AuditedAns e)

/-- One step. The database may refuse a commit with an audit row; otherwise it takes the row with the
rest of the transaction. -/
inductive AuditedStep : AuditedSys → AuditedLabel → AuditedSys → Prop
  | crash {s : AuditedSys} : s.panel.alive = true → AuditedStep s (.panel .crash)
      { panel := { shared := s.panel.shared.crash, settings := s.panel.settings }, trail := s.trail }
  | process {s : AuditedSys} {l : Label} {panel : Sys} : l.ofProcess = true → Step s.panel l panel →
      AuditedStep s (.panel l) { s with panel }
  | receive {s : AuditedSys} {c : Audited.Context} (r : Request) : s.panel.alive = true →
      s.panel.boot.isRet = true → c.settings = s.panel.settings →
      AuditedStep s (.receive c r)
        { s with
          requests := s.requests ++ [{ context := c, request := r, program := Audited.serve c r }] }
  | plain {s : AuditedSys} {i : Nat} {f : Recording} {e : Eff}
      {k : Ans e → Prog AuditedEff AuditedAns (Except Raised Response)} {a : Ans e} {sh : Shared} :
      s.panel.alive = true → s.requests[i]? = some f → f.program = .await (.plain e) k →
      Act s.panel.shared e a sh →
      AuditedStep s (.await i (.plain e) a)
        { s with
          panel := { s.panel with shared := sh }
          requests := s.requests.set i { f with program := k a } }
  | commit {s : AuditedSys} {i : Nat} {f : Recording} {e : Eff} {event : AuditEvent}
      {k : Option (Ans e) → Prog AuditedEff AuditedAns (Except Raised Response)} {a : Ans e}
      {sh : Shared} :
      s.panel.alive = true → s.requests[i]? = some f → f.program = .await (.commit e event) k →
      Act s.panel.shared e a sh →
      AuditedStep s (.await i (.commit e event) (some a))
        { panel := { s.panel with shared := sh }
          requests := s.requests.set i
            { f with
              program := k (some a)
              recorded := f.recorded ++ (insertedJob e a).toList }
          trail := s.trail ++ [event.row e a] }
  | refuse {s : AuditedSys} {i : Nat} {f : Recording} {e : Eff} {event : AuditEvent}
      {k : Option (Ans e) → Prog AuditedEff AuditedAns (Except Raised Response)} :
      s.panel.alive = true → s.requests[i]? = some f → f.program = .await (.commit e event) k →
      AuditedStep s (.await i (.commit e event) none)
        { s with requests := s.requests.set i { f with program := k none } }

structure AuditedInitial (s : AuditedSys) : Prop where
  panel : Initial s.panel
  requests : s.requests = []
  trail : s.trail = []

/-- The states of its runs. -/
def AuditedReachable : AuditedSys → Prop :=
  Reach AuditedStep (fun _ _ _ => True) AuditedInitial

end Clusteration
