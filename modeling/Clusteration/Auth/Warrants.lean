import Clusteration.Auth.Restarts
import Clusteration.Framework.Trail

open Async Task

namespace Clusteration.Auth

/-- `verify_admin` takes this for the administrator's password. -/
def Accepts (settings : Settings) (credential : Option String) (password : String) : Prop :=
  match credential with
  | some passwordHash => settings.pwd.verify password passwordHash = some true
  | none => settings.adminPasswordHash ≠ "" ∧
    settings.pwd.verify password settings.adminPasswordHash = some true

/-- What a request that stores a password has seen: that its sender knows the current one, or an unused
and unexpired code. -/
inductive Proven (settings : Settings) : Request → Log Eff Ans → Option Claimed → Prop
  | password {log : Log Eff Ans} {current password : String} {credential : Option String} :
      ⟨.selectCredential, credential⟩ ∈ log → Accepts settings credential current →
      Proven settings (.changePassword true current password) log none
  | code {log : Log Eff Ans} {code password : String} {client : Client} {now : Time} {c : ResetId}
      {row : PasswordReset} : ⟨.utcnow, now⟩ ∈ log →
      ⟨.selectLatest settings.adminUsername now, some (c, row)⟩ ∈ log → row.attempts < 6 →
      ⟨.verify c (strip code) row.codeHash, true⟩ ∈ log →
      Proven settings (.reset code password client) log (some ⟨c, row.attempts + 1, some now⟩)

/-- A hash of a password that is long enough. -/
def Strong (settings : Settings) (r : Request) (passwordHash : String) : Prop :=
  ∃ password salt, r.newPassword = some password ∧ 8 ≤ (strip password).length ∧
    settings.pwd.hash salt password = some passwordHash

/-- What a request that stores a code has drawn. -/
def Drawn (settings : Settings) (r : Request) (log : Log Eff Ans) (codeHash : String) : Prop :=
  ∃ client n salt, r = .forgot client ∧ ⟨.randbelow 1000000, n⟩ ∈ log ∧
    settings.pwd.hash salt (sixDigits n) = some codeHash

/-- What each await of a request needs to have found out. -/
def Needs (settings : Settings) (r : Request) (log : Log Eff Ans) : Eff → Prop
  | .commitPassword entry _ passwordHash =>
    Strong settings r passwordHash ∧ Proven settings r log entry
  | .commitCode _ new => Drawn settings r log new.codeHash
  | _ => True

end Clusteration.Auth
