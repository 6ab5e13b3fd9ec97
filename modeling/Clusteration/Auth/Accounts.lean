import Mathlib.Algebra.Order.Ring.Rat
import Clusteration.Framework.Coroutine
import Clusteration.Framework.Table
import Clusteration.Panel.Json

open Async

namespace Clusteration.Auth

/-- Seconds on a clock. -/
abbrev Time := ℚ

/-- passlib's `pwd`. `none` stands for an exception. -/
structure CryptContext where
  hash : Nat → String → Option String
  verify : String → String → Option Bool

/-- The part of the settings the login pages read, with what they take from passlib and from
Python's Unicode tables. -/
structure Settings where
  adminUsername : String := "admin"
  adminPasswordHash : String := ""
  smtpHost : String := ""
  smtpUser : String := ""
  resetEmailTo : String := ""
  resetCodeTtlMinutes : Nat := 15
  pwd : CryptContext
  casefold : String → String

abbrev ResetId := Nat

structure PasswordReset where
  username : String
  codeHash : String
  expiresAt : Time
  usedAt : Option Time := none
  attempts : Nat := 0
  createdAt : Time

/-- The changed columns of a code, as `reset` commits them. -/
structure Claimed where
  id : ResetId
  attempts : Nat
  usedAt : Option Time := none

def PasswordReset.merge (row : PasswordReset) (c : Claimed) : PasswordReset :=
  { row with attempts := c.attempts, usedAt := c.usedAt.or row.usedAt }

/-- The two dictionaries of `_throttle`. -/
inductive Bucket where
  | resetRequests
  | resetAttempts
  deriving DecidableEq

/-- What the coroutines do between two awaits with the module's dictionaries, the clocks and the
random source, and the awaits themselves. -/
inductive Eff where
  /-- the clock, and `_LOGIN_FAILS[ip]` without the failures that left the window -/
  | recentFails (ip : String)
  /-- `fails.append(now); _LOGIN_FAILS[ip] = fails` -/
  | recordFail (ip : String) (fails : List Time) (now : Time)
  | popFails (ip : String)
  | throttle (bucket : Bucket) (ip : String) (window : Time) (maxHits : Nat)
  | utcnow
  | randbelow (n : Nat)
  | salt
  | selectCredential
  | selectUnused (username : String)
  | commitCode (olds : List (ResetId × Time)) (new : PasswordReset)
  /-- the unused and unexpired code created last -/
  | selectLatest (username : String) (now : Time)
  | verify (c : ResetId) (guess codeHash : String)
  | commitAttempt (entry : Claimed)
  /-- The password's row is committed, with what the session changed in a code's row. An insert
  fails when there is a row by now. -/
  | commitPassword (entry : Option Claimed) (insert : Bool) (passwordHash : String)
  | sendEmail (addr code : String)
  | audit (action : String)

abbrev Ans : Eff → Type
  | .recentFails _ => Time × List Time
  | .recordFail _ _ _ => Unit
  | .popFails _ => Unit
  | .throttle _ _ _ _ => Bool
  | .utcnow => Time
  | .randbelow _ => Nat
  | .salt => Nat
  | .selectCredential => Option String
  | .selectUnused _ => List (ResetId × PasswordReset)
  | .commitCode _ _ => Unit
  | .selectLatest _ _ => Option (ResetId × PasswordReset)
  | .verify _ _ _ => Bool
  | .commitAttempt _ => Unit
  | .commitPassword _ _ _ => Bool
  | .sendEmail _ _ => Bool
  | .audit _ => Unit

abbrev Route (α : Type) := Task Eff Ans Unit Exc α

structure Client where
  forwardedFor : String := ""
  host : Option String := none

def clientIp (request : Client) : String :=
  if request.forwardedFor ≠ "" then
    strip (String.ofList (request.forwardedFor.toList.takeWhile fun c => c ≠ ','))
  else request.host.getD "unknown"

inductive Reply where
  | authenticated
  | sent (addr : String)
  | ok
  deriving DecidableEq

def loginWindow : Time := 300

def loginMaxFails : Nat := 8

def Settings.normUsername (settings : Settings) (username : String) : String :=
  settings.casefold (strip username)

def verifyLogin (settings : Settings) (username password : String) : Route Bool :=
  if settings.normUsername username ≠ settings.normUsername settings.adminUsername then pure false
  else if settings.adminPasswordHash = "" then pure false
  else match settings.pwd.verify password settings.adminPasswordHash with
    | some valid => pure valid
    | none => throw (.valueError "password")

def verifyAdmin (settings : Settings) (username password : String) : Route Bool :=
  if settings.normUsername username ≠ settings.normUsername settings.adminUsername then pure false
  else do
    let cred ← Task.await Eff.selectCredential
    match cred with
    | some passwordHash => pure ((settings.pwd.verify password passwordHash).getD false)
    | none => verifyLogin settings username password

def login (settings : Settings) (username password : String) (request : Client) : Route Reply := do
  let ip := clientIp request
  let (now, fails) ← Task.await (Eff.recentFails ip)
  if loginMaxFails ≤ fails.length then
    Task.await (Eff.audit "auth.login_blocked")
    throw (.appHTTPException "RATE_LIMITED" "muitas tentativas; aguarde alguns minutos" 429)
  else
    let valid ← verifyAdmin settings username password
    if valid then
      Task.await (Eff.popFails ip)
      Task.await (Eff.audit "auth.login")
      pure .authenticated
    else
      Task.await (Eff.recordFail ip fails now)
      Task.await (Eff.audit "auth.login_failed")
      throw (.appHTTPException "INVALID_CREDENTIALS" "credenciais inválidas" 401)

def emailEnabled (settings : Settings) : Bool :=
  settings.smtpHost ≠ "" && (settings.resetEmailTo ≠ "" || settings.smtpUser ≠ "")

def maskEmail (addr : String) : String :=
  let user := addr.toList.takeWhile fun c => c ≠ '@'
  if user.length = addr.length then "seu email"
  else
    String.ofList (user.head?.getD '*' :: "***@".toList ++ addr.toList.drop (user.length + 1))

/-- `f"{n:06d}"`. -/
def sixDigits (n : Nat) : String :=
  String.ofList (List.replicate (6 - (toString n).length) '0') ++ toString n

def refuseIf (condition : Bool) (exc : Exc) : Route Unit :=
  if condition then throw exc else pure ()

def hashed (settings : Settings) (secret : String) : Route String := do
  let salt ← Task.await Eff.salt
  match settings.pwd.hash salt secret with
  | some h => pure h
  | none => throw (.valueError "password")

def forgot (settings : Settings) (request : Client) : Route Reply := do
  let allowed ← Task.await (Eff.throttle .resetRequests (clientIp request) 600 3)
  refuseIf (!allowed)
    (.appHTTPException "RATE_LIMITED" "muitas solicitações; aguarde alguns minutos" 429)
  let addr := if settings.resetEmailTo ≠ "" then settings.resetEmailTo else settings.smtpUser
  refuseIf (!emailEnabled settings || addr = "") (.appHTTPException "EMAIL_NOT_CONFIGURED"
    "redefinição por email ainda não está configurada" 503)
  let n ← Task.await (Eff.randbelow 1000000)
  let olds ← Task.await (Eff.selectUnused settings.adminUsername)
  let now ← Task.await Eff.utcnow
  let codeHash ← hashed settings (sixDigits n)
  Task.await (Eff.commitCode (olds.map fun old => (old.1, now))
    { username := settings.adminUsername, codeHash, createdAt := now
      expiresAt := now + 60 * settings.resetCodeTtlMinutes })
  let sent ← Task.await (Eff.sendEmail addr (sixDigits n))
  refuseIf (!sent) (.appHTTPException "EMAIL_SEND_FAILED"
    "não foi possível enviar o email; verifique a configuração SMTP" 502)
  Task.await (Eff.audit "auth.reset_requested")
  pure (.sent (maskEmail addr))

def commitPassword (entry : Option Claimed) (insert : Bool) (passwordHash : String) :
    Route Unit := do
  let stored ← Task.await (Eff.commitPassword entry insert passwordHash)
  refuseIf (!stored) (.integrityError "admin_credentials.username")

def seedAdminCredential (settings : Settings) : Route Unit :=
  if settings.normUsername settings.adminUsername = "" then pure ()
  else do
    let existing ← Task.await Eff.selectCredential
    if existing.isSome || settings.adminPasswordHash = "" then pure ()
    else commitPassword none true settings.adminPasswordHash

/-- `entry` is what the session changed in a code's row before. -/
def setAdminPassword (settings : Settings) (entry : Option Claimed) (newPassword : String) :
    Route Unit := do
  let cred ← Task.await Eff.selectCredential
  let newHash ← hashed settings newPassword
  commitPassword entry cred.isNone newHash

def invalidCode : Exc := .appHTTPException "INVALID_CODE" "código inválido ou expirado" 400

def reset (settings : Settings) (code newPassword : String) (request : Client) : Route Reply := do
  let allowed ← Task.await (Eff.throttle .resetAttempts (clientIp request) 600 10)
  refuseIf (!allowed)
    (.appHTTPException "RATE_LIMITED" "muitas tentativas; aguarde alguns minutos" 429)
  refuseIf ((strip newPassword).length < 8) (.appHTTPException "WEAK_PASSWORD"
    "a nova senha precisa ter ao menos 8 caracteres" 400)
  let now ← Task.await Eff.utcnow
  let entry ← Task.await (Eff.selectLatest settings.adminUsername now)
  match entry with
  | none => throw invalidCode
  | some (c, row) =>
    let attempts := row.attempts + 1
    if 6 < attempts then
      Task.await (Eff.commitAttempt ⟨c, attempts, some now⟩)
      throw invalidCode
    else
      let valid ← Task.await (Eff.verify c (strip code) row.codeHash)
      if valid then
        setAdminPassword settings (some ⟨c, attempts, some now⟩) newPassword
        Task.await (Eff.audit "auth.password_reset")
        pure .ok
      else
        Task.await (Eff.commitAttempt ⟨c, attempts, none⟩)
        Task.await (Eff.audit "auth.reset_failed")
        throw invalidCode

def requireAdmin (authenticated : Bool) : Route Unit :=
  refuseIf (!authenticated) (.httpException 401 "not_authenticated")

def changePassword (settings : Settings) (authenticated : Bool)
    (currentPassword newPassword : String) : Route Reply := do
  requireAdmin authenticated
  let valid ← verifyAdmin settings settings.adminUsername currentPassword
  refuseIf (!valid) (.appHTTPException "INVALID_CREDENTIALS" "senha atual incorreta" 401)
  refuseIf ((strip newPassword).length < 8) (.appHTTPException "WEAK_PASSWORD"
    "a nova senha precisa ter ao menos 8 caracteres" 400)
  setAdminPassword settings none newPassword
  Task.await (Eff.audit "auth.password_changed")
  pure .ok

inductive Request where
  | login (username password : String) (client : Client)
  | forgot (client : Client)
  | reset (code newPassword : String) (client : Client)
  /-- `authenticated` is what the session cookie says -/
  | changePassword (authenticated : Bool) (currentPassword newPassword : String)

def handle (settings : Settings) : Request → Route Reply
  | .login username password client => login settings username password client
  | .forgot client => forgot settings client
  | .reset code newPassword client => reset settings code newPassword client
  | .changePassword authenticated currentPassword newPassword =>
    changePassword settings authenticated currentPassword newPassword

/-- The coroutine of one request. -/
def serve (settings : Settings) (r : Request) : Prog Eff Ans (Except Exc Reply) :=
  (handle settings r ()).bind fun out => .ret out.1

end Clusteration.Auth
