import Clusteration.Panel.Routes

open Async

namespace Clusteration.Front

abbrev ExposureId := Nat

abbrev SessionId := Nat

/-- A row of `vm_exposures`. -/
structure VMExposure where
  vmId : VmId
  slug : String
  port : Nat
  enabled : Bool := true
  deriving DecidableEq, Repr

inductive TerminalSessionStatus where
  | pending
  | connected
  | closed
  | expired
  | error
  deriving DecidableEq, Repr

/-- A row of `terminal_sessions`. -/
structure TerminalSession where
  vmId : VmId
  status : TerminalSessionStatus := .pending
  expiresAt : Nat
  closedAt : Option Nat := none
  deriving DecidableEq, Repr

/-- A session a socket may claim. -/
def TerminalSessionStatus.open : TerminalSessionStatus → Bool
  | pending | connected => true
  | closed | expired | error => false

/-- The settings these routes read. -/
structure Settings where
  exposureBaseDomain : String := "apps.exemplo.internal"
  exposureProxySecret : String := ""
  terminalSessionTtlSeconds : Int := 300

/-- How the two copying tasks of a terminal end: one of them returns with a reason, or raises. -/
inductive PumpEnd where
  | done (reason : String)
  | timeout
  | error

/-- The reason the handler gives for closing the terminal, as long as it can tell the browser. -/
def PumpEnd.closeReason : PumpEnd → String
  | done reason => reason
  | timeout => "inactivity_timeout"
  | error => "ssh_error"

/-- The awaits of these routes. A sleep and the refresh of a row nobody reads again are left out. -/
inductive Eff where
  | getVM (v : VmId)
  | selectSlug (slug : String)
  /-- `select(VMExposure).where(slug == slug, enabled)` -/
  | selectEnabledSlug (slug : String)
  /-- `db.add(exposure); db.commit()`; it fails on the unique slug -/
  | insertExposure (row : VMExposure)
  | getExposure (x : ExposureId)
  | deleteExposure (x : ExposureId)
  | utcnow
  | insertSession (row : TerminalSession)
  | getSession (sid : SessionId)
  /-- `db.commit()` of a session row's changed columns -/
  | commitSession (sid : SessionId) (status : Option TerminalSessionStatus) (closedAt : Option Nat)
  /-- `update(TerminalSession).where(id == sid, status in (pending, connected))`: did it change a
  row? The row is locked until the commit. -/
  | claim (sid : SessionId)
  | commitClaim (sid : SessionId)
  | refresh (sid : SessionId)
  /-- the messages to the socket; they fail when the peer has gone -/
  | accept (sid : SessionId)
  | sendText (type value : String)
  | closeSocket (code : Nat)
  | connect (ip : String)
  | createProcess
  | pump
  /-- `TerminalProcess.close` -/
  | closeConnection (conn : ConnId)

abbrev Ans : Eff → Type
  | .getVM _ => Option VM
  | .selectSlug _ => Option VMExposure
  | .selectEnabledSlug _ => Option VMExposure
  | .insertExposure _ => Option ExposureId
  | .getExposure _ => Option VMExposure
  | .deleteExposure _ => Unit
  | .utcnow => Nat
  | .insertSession _ => SessionId
  | .getSession _ => Option TerminalSession
  | .commitSession _ _ _ => Unit
  | .claim _ => Bool
  | .commitClaim _ => Unit
  | .refresh _ => Option TerminalSession
  | .accept _ => Bool
  | .sendText _ _ => Bool
  | .closeSocket _ => Bool
  | .connect _ => Option ConnId
  | .createProcess => Bool
  | .pump => PumpEnd
  | .closeConnection _ => Unit

abbrev Route (α : Type) := Task Eff Ans Unit Exc α

inductive Reply where
  | exposure (x : ExposureId)
  | noContent
  | upstream (dials : List String)
  | session (sid : SessionId)
  | closed
  deriving DecidableEq

def refuseIf (condition : Bool) (exc : Exc) : Route Unit :=
  if condition then throw exc else pure ()

def getLiveVm (v : VmId) : Route VM := do
  let vm ← Task.await (Eff.getVM v)
  match vm with
  | some vm =>
    if vm.deletedAt = none then pure vm
    else throw (.appHTTPException "VM_NOT_FOUND" "VM não encontrada" 404)
  | none => throw (.appHTTPException "VM_NOT_FOUND" "VM não encontrada" 404)

/-- The pattern of `ExposureCreate.slug`. -/
def isSlug (s : String) : Bool :=
  let cs := s.toList
  let alnum (c : Char) : Bool := c.isLower || c.isDigit
  1 ≤ cs.length && cs.length ≤ 63 && cs.all (fun c => alnum c || c = '-') &&
    cs.head?.any alnum && cs.getLast?.any alnum

structure ExposureCreate where
  slug : String
  port : Nat
  slug_valid : isSlug slug = true
  port_valid : 1 ≤ port ∧ port ≤ 65535

def slugTaken : Exc := .appHTTPException "EXPOSURE_SLUG_TAKEN" "slug já está em uso" 409

def createExposure (v : VmId) (payload : ExposureCreate) : Route Reply := do
  let _ ← getLiveVm v
  let existing ← Task.await (Eff.selectSlug payload.slug)
  refuseIf existing.isSome slugTaken
  let x ← Task.await (Eff.insertExposure { vmId := v, slug := payload.slug, port := payload.port })
  match x with
  | some x => pure (.exposure x)
  | none => throw (.integrityError "vm_exposures.slug")

def deleteExposure (v : VmId) (x : ExposureId) : Route Reply := do
  let _ ← getLiveVm v
  let exposure ← Task.await (Eff.getExposure x)
  match exposure with
  | some exposure =>
    if exposure.vmId = v then
      Task.await (Eff.deleteExposure x)
      pure .noContent
    else pure .noContent
  | none => pure .noContent

/-- The slug of a `Host` header under the base domain. -/
def hostSlug (settings : Settings) (host : String) : Option String :=
  let normalized := normalizeIdentifier (String.ofList (host.toList.takeWhile fun c => c ≠ ':'))
  let suffix := '.' :: settings.exposureBaseDomain.toList.map lowerChar
  if suffix.isSuffixOf normalized.toList then
    some (String.ofList (normalized.toList.take (normalized.length - suffix.length)))
  else none

def exposureUpstream (settings : Settings) (host : String) (xProxySecret : Option String) :
    Route Reply :=
  if settings.exposureProxySecret = "" || xProxySecret ≠ some settings.exposureProxySecret then
    pure (.upstream [])
  else match hostSlug settings host with
    | none => pure (.upstream [])
    | some slug => do
      let exposure ← Task.await (Eff.selectEnabledSlug slug)
      match exposure with
      | none => pure (.upstream [])
      | some exposure => do
        let vm ← Task.await (Eff.getVM exposure.vmId)
        match vm with
        | none => pure (.upstream [])
        | some vm =>
          let ip := vm.ipAddress.getD ""
          if vm.deletedAt ≠ none || ip = "" then pure (.upstream [])
          else pure (.upstream [ip ++ ":" ++ toString exposure.port])

def createTerminalSession (settings : Settings) (v : VmId) : Route Reply := do
  let vm ← getLiveVm v
  refuseIf (vm.status ≠ .running || vm.sshStatus ≠ .ready)
    (.appHTTPException "TERMINAL_NOT_READY" "terminal ainda não está pronto" 409)
  let now ← Task.await Eff.utcnow
  let ttl := (max 60 settings.terminalSessionTtlSeconds).toNat
  let sid ← Task.await (Eff.insertSession { vmId := v, expiresAt := now + ttl })
  pure (.session sid)

/-- The VM may have a terminal. -/
def VM.terminalReady (vm : VM) : Bool :=
  vm.deletedAt.isNone && vm.ipAddress.getD "" ≠ "" && vm.status = .running && vm.sshStatus = .ready

/-- `none`: the socket is refused. A session id that is no UUID is `none` as well. -/
def validateAndClaimSession : Option SessionId → Route (Option (SessionId × TerminalSession × VM))
  | none => pure none
  | some sid => do
    let ts ← Task.await (Eff.getSession sid)
    match ts with
    | none => pure none
    | some ts =>
      if !ts.status.open then pure none
      else do
        let now ← Task.await Eff.utcnow
        if ts.expiresAt ≤ now then
          Task.await (Eff.commitSession sid (some .expired) none)
          pure none
        else do
          let vm ← Task.await (Eff.getVM ts.vmId)
          match vm with
          | none => pure none
          | some vm =>
            if !VM.terminalReady vm then pure none
            else do
              let claimed ← Task.await (Eff.claim sid)
              if !claimed then pure none
              else do
                Task.await (Eff.commitClaim sid)
                let ts ← Task.await (Eff.refresh sid)
                match ts with
                | none => throw (.runtimeError "InvalidRequestError")
                | some ts => pure (some (sid, ts, vm))

def orGone (sent : Bool) : Route Unit := refuseIf (!sent) (.runtimeError "websocket")

def sendText (type value : String) : Route Unit := do
  let sent ← Task.await (Eff.sendText type value)
  orGone sent

/-- `open_terminal` and the copying tasks: the terminal to close, if there is one, and the reason. -/
def converse (ip : String) : Route (Option ConnId × String) := do
  let term ← openTerminal (Task.await (Eff.connect ip)) (Task.await Eff.createProcess)
  match term with
  | some conn => do
    let reason ← tryCatch
      (do
        sendText "status" "connected"
        let ended ← Task.await Eff.pump
        match ended with
        | .done _ | .timeout => pure ended.closeReason
        | .error => throw (.runtimeError "ssh_error"))
      fun _ => do
        let _ ← Task.await (Eff.sendText "error" "erro ao conectar no terminal")
        pure "ssh_error"
    pure (some conn, reason)
  | none => do
    let _ ← Task.await (Eff.sendText "error" "erro ao conectar no terminal")
    pure (none, "ssh_error")

/-- `if term is not None: await term.close()`. -/
def closeTerm : Option ConnId → Route Unit
  | some conn => Task.await (Eff.closeConnection conn)
  | none => pure ()

def terminalWebsocket (sessionId : Option SessionId) : Route Reply := do
  let claimed ← validateAndClaimSession sessionId
  match claimed with
  | none =>
    let _ ← Task.await (Eff.closeSocket 4401)
    pure .closed
  | some (sid, ts, vm) => do
    let accepted ← Task.await (Eff.accept sid)
    orGone accepted
    sendText "status" "connecting"
    let ended ← converse (vm.ipAddress.getD "")
    closeTerm ended.1
    let now ← Task.await Eff.utcnow
    let status := if ts.status = .closed then none else some TerminalSessionStatus.closed
    Task.await (Eff.commitSession sid status (some now))
    let told ← Task.await (Eff.sendText "close" ended.2)
    if told then
      let _ ← Task.await (Eff.closeSocket 1000)
      pure .closed
    else pure .closed

inductive Request where
  | createExposure (v : VmId) (payload : ExposureCreate)
  | deleteExposure (v : VmId) (x : ExposureId)
  | exposureUpstream (host : String) (xProxySecret : Option String)
  | createTerminalSession (v : VmId)
  | terminalWs (sessionId : Option SessionId)

def handle (settings : Settings) : Request → Route Reply
  | .createExposure v payload => createExposure v payload
  | .deleteExposure v x => deleteExposure v x
  | .exposureUpstream host xProxySecret => exposureUpstream settings host xProxySecret
  | .createTerminalSession v => createTerminalSession settings v
  | .terminalWs sessionId => terminalWebsocket sessionId

/-- The coroutine of one request. -/
def serve (settings : Settings) (r : Request) : Prog Eff Ans (Except Exc Reply) :=
  (handle settings r ()).bind fun out => .ret out.1

end Clusteration.Front
