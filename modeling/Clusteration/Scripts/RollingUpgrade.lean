import Mathlib.Logic.Function.Basic
import Clusteration.Framework.Reach

open Transition

namespace Clusteration.Scripts

/-- A node runs; or it shuts down and still answers ssh; or it has stopped its sshd and is not back. -/
inductive Power where
  | up
  | stopping
  | down
  deriving DecidableEq

/-- `ssh_pve` reaches the node. -/
def Power.answers : Power → Bool
  | up | stopping => true
  | down => false

/-- The command the script is at; `rest` are the hosts of its loop that come later. -/
inductive Line where
  /-- `pvecm status` before the loop -/
  | preflight
  | upgrade (host : String) (rest : List String)
  /-- `systemctl reboot` -/
  | reboot (host : String) (rest : List String)
  /-- `sleep 10`, after the reboot and in the loop that waits for the node -/
  | sleep (host : String) (rest : List String) (wake : Nat)
  /-- `ssh_pve "${host}" "true"` -/
  | probe (host : String) (rest : List String)
  | pveversion (host : String) (rest : List String)
  /-- `pvecm status` after the host -/
  | quorum (rest : List String)
  | finished
  /-- a command has failed under `set -e` -/
  | failed
  deriving DecidableEq

structure Rolling where
  nodes : List String
  clock : Nat := 0
  power : String → Power := fun _ => .up
  line : Line := .preflight

namespace Rolling

/-- `PVE_NODE_ARRAY[0]` -/
def first (s : Rolling) : String := s.nodes.headD ""

/-- The next round of the loop. -/
def next : List String → Line
  | [] => .finished
  | host :: rest => .upgrade host rest

end Rolling

/-- Time passes, a node stops its sshd or has booted, or the script runs its command. `ok`: apt or
pveversion does not fail on the node it reaches. -/
inductive RollingLabel where
  | tick (clock : Nat)
  | stopped (node : String)
  | booted (node : String)
  | script (ok : Bool)

/-- The script's command, and where it goes on. -/
def Rolling.command (s : Rolling) (ok : Bool) : Option Rolling :=
  match s.line with
  | .preflight =>
    some { s with line := if (s.power s.first).answers then next s.nodes else .failed }
  | .upgrade host rest =>
    some { s with line := if (s.power host).answers && ok then .reboot host rest else .failed }
  | .reboot host rest => some { s with
      power := if (s.power host).answers then Function.update s.power host .stopping else s.power
      line := .sleep host rest (s.clock + 10) }
  | .sleep host rest wake =>
    if wake ≤ s.clock then some { s with line := .probe host rest } else none
  | .probe host rest => some { s with
      line := if (s.power host).answers then .pveversion host rest
        else .sleep host rest (s.clock + 10) }
  | .pveversion host rest =>
    some { s with line := if (s.power host).answers && ok then .quorum rest else .failed }
  | .quorum rest =>
    some { s with line := if (s.power s.first).answers then next rest else .failed }
  | .finished | .failed => none

def Rolling.step (s : Rolling) : RollingLabel → Option Rolling
  | .tick clock => if s.clock ≤ clock then some { s with clock } else none
  | .stopped node =>
    if s.power node = .stopping then
      some { s with power := Function.update s.power node .down }
    else none
  | .booted node =>
    if s.power node = .down then some { s with power := Function.update s.power node .up } else none
  | .script ok => s.command ok

/-- The states of the runs on these nodes whose steps all meet `cond`. -/
def Rolling.Reachable (cond : Rolling → RollingLabel → Prop) (nodes : List String) :
    Rolling → Prop :=
  Reach (fun s l s' => s.step l = some s') (fun s l _ => cond s l) fun s => s = { nodes }

/-- The run of these labels, where each step meets the condition. -/
def Rolling.run (cond : Rolling → RollingLabel → Prop) [∀ s l, Decidable (cond s l)]
    (s : Rolling) : List RollingLabel → Option Rolling
  | [] => some s
  | l :: ls => if cond s l then (s.step l).bind fun s' => s'.run cond ls else none

theorem Rolling.Reachable.run {cond : Rolling → RollingLabel → Prop} [∀ s l, Decidable (cond s l)]
    {nodes : List String} {s s' : Rolling} {ls : List RollingLabel}
    (h : Reachable cond nodes s) (hrun : s.run cond ls = some s') : Reachable cond nodes s' := by
  induction ls generalizing s with
  | nil =>
    cases hrun
    exact h
  | cons l ls ih =>
    simp only [Rolling.run, Option.ite_none_right_eq_some, Option.bind_eq_some_iff] at hrun
    obtain ⟨hcond, s₁, hstep, hrest⟩ := hrun
    exact ih (.next h hstep hcond) hrest

end Clusteration.Scripts
