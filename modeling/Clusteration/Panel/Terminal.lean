import Clusteration.Framework.Coroutine

open Async

namespace Clusteration

/-- An SSH connection that `asyncssh.connect` has opened. -/
abbrev ConnId := Nat

/-- `open_terminal`; `none` stands for a `TerminalConnectError`. `connect` is what it does up to
the connection, the decoding of the private key included. A connection whose process is not created
is not handed back. -/
def openTerminal {E : Type} {R : E → Type} {S X : Type} (connect : Task E R S X (Option ConnId))
    (createProcess : Task E R S X Bool) : Task E R S X (Option ConnId) := do
  let conn ← connect
  match conn with
  | none => pure none
  | some conn =>
    let created ← createProcess
    pure (if created then some conn else none)

end Clusteration
