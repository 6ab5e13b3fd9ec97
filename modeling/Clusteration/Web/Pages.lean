import Clusteration.Framework.Markup
import Clusteration.Panel.Entities

open Markup Page

namespace Clusteration.Web

/-- What the browser makes of dates and objects. -/
structure Browser where
  /-- `new Date(date).toLocaleString()` -/
  toLocaleString : String → String
  /-- `JSON.stringify` -/
  stringify : Dict → String
  /-- `String` of a member that every object has, like `constructor` -/
  inherited : String → Option String

def escChar (c : Char) : List Char :=
  if c = '&' then "&amp;".toList
  else if c = '<' then "&lt;".toList
  else if c = '>' then "&gt;".toList
  else if c = '"' then "&quot;".toList
  else if c = '\'' then "&#39;".toList
  else [c]

/-- `esc`, of a value that is not null. -/
def esc (value : String) : String := String.ofList (value.toList.flatMap escChar)

/-- A value that `||` and `?` take for true. -/
def truthy (value : Option String) : Bool := value.getD "" ≠ ""

/-- `value || other` -/
def orElse (value : Option String) (other : String) : String :=
  if truthy value then value.getD "" else other

/-- The text of a UUID. -/
def Uuid := { s : String // s.toList.all fun c => c.isAlphanum || c = '-' }

structure VMActions where
  canStart : Bool
  canStop : Bool
  canReboot : Bool
  canTerminal : Bool
  canDelete : Bool
  canReinstall : Bool
  canRecheck : Bool

/-- The fields of a `VMOut` that the table shows. -/
structure VMOut where
  id : Uuid
  hostname : String
  template : String
  cpu : Int
  memoryMb : Int
  diskGb : Int
  status : VMStatus
  sshStatus : SSHStatus
  ipAddress : Option String
  actions : VMActions
  hasProxmoxVm : Bool
  lastError : Option String
  lastErrorAt : Option String
  lastErrorJobType : Option String

def statusValue : VMStatus → String
  | .creating => "creating"
  | .provisioning => "provisioning"
  | .stopped => "stopped"
  | .starting => "starting"
  | .running => "running"
  | .stopping => "stopping"
  | .rebooting => "rebooting"
  | .deleting => "deleting"
  | .deleted => "deleted"
  | .error => "error"

/-- `statusLabel`; every status is in `STATUS_LABEL`. -/
def statusLabel : VMStatus → String
  | .creating => "criando"
  | .provisioning => "provisionando"
  | .stopped => "parada"
  | .starting => "ligando"
  | .running => "ativa"
  | .stopping => "desligando"
  | .rebooting => "reiniciando"
  | .deleting => "excluindo"
  | .deleted => "excluída"
  | .error => "erro"

def sshValue : SSHStatus → String
  | .pending => "pending"
  | .ready => "ready"
  | .failed => "failed"

def sshBadge : SSHStatus → String
  | .ready => "badge-running"
  | .failed => "badge-failed"
  | .pending => "badge-pending"

def VMOut.canRetryCreate (vm : VMOut) : Bool :=
  vm.status = .error && !vm.hasProxmoxVm && vm.actions.canReinstall

def vmErrorText (browser : Browser) (vm : VMOut) : String :=
  let parts := [vm.lastError.getD ""] ++
    (if truthy vm.lastErrorJobType then [vm.lastErrorJobType.getD ""] else []) ++
    (if truthy vm.lastErrorAt then [browser.toLocaleString (vm.lastErrorAt.getD "")] else [])
  " · ".intercalate (parts.filter (· ≠ ""))

/-- A row of the table and the browser that shows it. -/
structure Row where
  browser : Browser
  vm : VMOut

def recovery : Page Row :=
  seq [
    .lit "\n",
    .lit "      <div class=\"vm-recovery\">\n",
    .lit "        <strong>Provisionamento anterior falhou",
    .lit " antes de criar VMID.</strong>\n",
    .lit "        <span>Use Tentar criar para",
    .lit " reenfileirar com o backend atual, ou Remover",
    .lit " para limpar o registro.</span>\n",
    .lit "        <div>\n",
    .lit "          <button class=\"danger-button\"",
    .lit " data-reinstall=\"",
    .hole fun d => d.vm.id.1,
    .lit "\" data-hostname=\"",
    .hole fun d => esc d.vm.hostname,
    .lit "\" data-template=\"",
    .hole fun d => esc d.vm.template,
    .lit "\" data-has-proxmox=\"0\">Tentar criar</button>\n",
    .lit "          <button class=\"ghost-button\"",
    .lit " data-delete=\"",
    .hole fun d => d.vm.id.1,
    .lit "\" data-hostname=\"",
    .hole fun d => esc d.vm.hostname,
    .lit "\" data-has-proxmox=\"0\">Remover</button>\n",
    .lit "        </div>\n",
    .lit "      </div>\n",
    .lit "    "]

def errorBox : Page Row :=
  seq [
    .lit "<div class=\"vm-error\" title=\"",
    .hole fun d => esc (vmErrorText d.browser d.vm),
    .lit "\">⚠ ",
    .hole fun d => esc (vmErrorText d.browser d.vm),
    .lit "</div>"]

def recheckButton : Page Row :=
  seq [
    .lit "<button class=\"ghost-button\" data-recheck=\"",
    .hole fun d => d.vm.id.1,
    .lit "\">Re-checar SSH</button>"]

/-- The row behind the cell of the host name. -/
def vmRowCells : Page Row :=
  seq [
    .lit "</td>\n",
    .lit "      <td data-label=\"Status\">",
    .lit "<span class=\"badge badge-",
    .hole fun d => statusValue d.vm.status,
    .lit "\">",
    .hole fun d => statusLabel d.vm.status,
    .lit "</span></td>\n",
    .lit "      <td data-label=\"SSH\"><span class=\"badge ",
    .hole fun d => sshBadge d.vm.sshStatus,
    .lit "\">",
    .hole fun d => esc (sshValue d.vm.sshStatus),
    .lit "</span></td>\n",
    .lit "      <td data-label=\"IP\">",
    .hole fun d => orElse (some (esc (d.vm.ipAddress.getD ""))) "—",
    .lit "</td>\n",
    .lit "      <td data-label=\"Template\">",
    .hole fun d => esc d.vm.template,
    .lit "</td>\n",
    .lit "      <td data-label=\"Recursos\">",
    .hole fun d => toString d.vm.cpu,
    .lit " CPU · ",
    .hole fun d => toString d.vm.memoryMb,
    .lit " MB · ",
    .hole fun d => toString d.vm.diskGb,
    .lit " GB</td>\n",
    .lit "      <td class=\"actions\" data-label=\"Ações\">\n",
    .lit "        <button class=\"ghost-button\"",
    .lit " data-action=\"start\" data-id=\"",
    .hole fun d => d.vm.id.1,
    .lit "\" ",
    .cond (fun d => d.vm.actions.canStart) (.lit "") (.lit "disabled"),
    .lit ">Ligar</button>\n",
    .lit "        <button class=\"ghost-button\"",
    .lit " data-action=\"stop\" data-id=\"",
    .hole fun d => d.vm.id.1,
    .lit "\" ",
    .cond (fun d => d.vm.actions.canStop) (.lit "") (.lit "disabled"),
    .lit ">Desligar</button>\n",
    .lit "        <button class=\"ghost-button\"",
    .lit " data-action=\"reboot\" data-id=\"",
    .hole fun d => d.vm.id.1,
    .lit "\" ",
    .cond (fun d => d.vm.actions.canReboot) (.lit "") (.lit "disabled"),
    .lit ">Reiniciar</button>\n",
    .lit "        ",
    .cond (fun d => d.vm.actions.canRecheck) recheckButton (.lit ""),
    .lit "\n",
    .lit "        <button class=\"primary-button\"",
    .lit " data-terminal=\"",
    .hole fun d => d.vm.id.1,
    .lit "\" data-hostname=\"",
    .hole fun d => esc d.vm.hostname,
    .lit "\" ",
    .cond (fun d => d.vm.actions.canTerminal) (.lit "") (.lit "disabled"),
    .lit ">Terminal</button>\n",
    .lit "        <button class=\"danger-button\"",
    .lit " data-reinstall=\"",
    .hole fun d => d.vm.id.1,
    .lit "\" data-hostname=\"",
    .hole fun d => esc d.vm.hostname,
    .lit "\" data-template=\"",
    .hole fun d => esc d.vm.template,
    .lit "\" data-has-proxmox=\"",
    .hole fun d => if d.vm.hasProxmoxVm then "1" else "0",
    .lit "\" ",
    .cond (fun d => d.vm.actions.canReinstall) (.lit "") (.lit "disabled"),
    .lit ">",
    .hole fun d => if d.vm.hasProxmoxVm then "Reinstalar" else "Tentar criar",
    .lit "</button>\n",
    .lit "        <button class=\"danger-button\"",
    .lit " data-delete=\"",
    .hole fun d => d.vm.id.1,
    .lit "\" data-hostname=\"",
    .hole fun d => esc d.vm.hostname,
    .lit "\" data-has-proxmox=\"",
    .hole fun d => if d.vm.hasProxmoxVm then "1" else "0",
    .lit "\" ",
    .cond (fun d => d.vm.actions.canDelete) (.lit "") (.lit "disabled"),
    .lit ">",
    .hole fun d => if d.vm.hasProxmoxVm then "Excluir" else "Remover",
    .lit "</button>\n",
    .lit "      </td>\n",
    .lit "    </tr>\n",
    .lit "  "]

/-- The row up to the error box. -/
def vmRowHostname : Page Row :=
  seq [
    .lit "\n",
    .lit "    <tr>\n",
    .lit "      <td data-label=\"Hostname\"><strong>",
    .hole fun d => esc d.vm.hostname,
    .lit "</strong>"]

def vmRow : Page Row :=
  seq [
    vmRowHostname,
    .cond (fun d => truthy d.vm.lastError) errorBox (.lit ""),
    .cond (fun d => d.vm.canRetryCreate) recovery (.lit ""),
    vmRowCells]

def vmTableHead : Page (Browser × List VMOut) :=
  seq [
    .lit "\n",
    .lit "    <section class=\"card\">\n",
    .lit "      <div class=\"card-title\">",
    .lit "<h2>Inventário de VMs</h2><span class=\"pill\">",
    .hole fun d => toString d.2.length,
    .lit " recursos</span></div>\n",
    .lit "      <div class=\"table-wrap\">\n",
    .lit "        <table class=\"table\">\n",
    .lit "          <thead><tr><th>Hostname</th>",
    .lit "<th>Status</th><th>SSH</th><th>IP</th>",
    .lit "<th>Template</th><th>Recursos</th><th>Ações",
    .lit "</th></tr></thead>\n",
    .lit "          <tbody>"]

def vmTableFoot : Page (Browser × List VMOut) :=
  seq [
    .lit "</tbody>\n",
    .lit "        </table>\n",
    .lit "      </div>\n",
    .lit "    </section>\n",
    .lit "  "]

def noVms : Page (Browser × List VMOut) :=
  .lit "<tr><td colspan=\"7\" class=\"empty\">Nenhuma VM criada ainda.</td></tr>"

def vmTablePage : Page (Browser × List VMOut) :=
  seq [
    vmTableHead,
    .cond (fun d => d.2.isEmpty)
      noVms (.each (fun d => d.2.map fun vm => ⟨d.1, vm⟩) vmRow),
    vmTableFoot]

def vmTable (browser : Browser) (vms : List VMOut) : String := vmTablePage.fill (browser, vms)

/-- The fields of an audit event that the page shows. -/
structure AuditOut where
  action : String
  actor : Option String
  sourceIp : Option String
  targetType : Option String
  targetLabel : Option String
  detail : Dict
  createdAt : Option String

def auditLabels : List (String × String) :=
  [("vm.create", "Criou VM"), ("vm.delete", "Excluiu VM"), ("vm.start", "Ligou VM"),
    ("vm.stop", "Desligou VM"), ("vm.reboot", "Reiniciou VM"), ("auth.login", "Login"),
    ("auth.login_failed", "Login falhou"), ("auth.login_blocked", "Login bloqueado"),
    ("auth.logout", "Logout")]

def auditLabel (browser : Browser) (a : String) : String :=
  orElse (auditLabels.lookup a <|> browser.inherited a) a

def auditBadge (a : String) : String :=
  if a = "vm.delete" ∨ a = "auth.login_failed" ∨ a = "auth.login_blocked" then "badge-error"
  else if a = "vm.create" then "badge-running"
  else ""

def AuditOut.when (browser : Browser) (e : AuditOut) : String :=
  if truthy e.createdAt then browser.toLocaleString (e.createdAt.getD "") else "—"

def AuditOut.target (e : AuditOut) : String :=
  if truthy e.targetLabel then esc (e.targetLabel.getD "")
  else if truthy e.targetType then esc (e.targetType.getD "")
  else "—"

def AuditOut.details (browser : Browser) (e : AuditOut) : String :=
  if e.detail.isEmpty then "—" else esc (browser.stringify e.detail)

def auditRowPage : Page (Browser × AuditOut) :=
  seq [
    .lit "<tr>\n",
    .lit "    <td data-label=\"Quando\">",
    .hole fun d => esc (d.2.when d.1),
    .lit "</td>\n",
    .lit "    <td data-label=\"Ação\"><span class=\"badge ",
    .hole fun d => auditBadge d.2.action,
    .lit "\">",
    .hole fun d => esc (auditLabel d.1 d.2.action),
    .lit "</span></td>\n",
    .lit "    <td data-label=\"Alvo\"><strong>",
    .hole fun d => d.2.target,
    .lit "</strong></td>\n",
    .lit "    <td data-label=\"Usuário\">",
    .hole fun d => esc (orElse d.2.actor "—"),
    .lit "</td>\n",
    .lit "    <td data-label=\"Origem\">",
    .hole fun d => esc (orElse d.2.sourceIp "—"),
    .lit "</td>\n",
    .lit "    <td data-label=\"Detalhes\">",
    .lit "<code style=\"font-size:11px;",
    .lit " word-break:break-all\">",
    .hole fun d => d.2.details d.1,
    .lit "</code></td>\n",
    .lit "  </tr>"]

def auditRow (browser : Browser) (e : AuditOut) : String := auditRowPage.fill (browser, e)

/-- The parameters of the URL that `renderTerminal` puts into the page or asks for. -/
structure TerminalParams where
  vm : Option String
  host : Option String

def terminalStart : Page TerminalParams :=
  seq [
    .lit "\n",
    .lit "    <section class=\"term-workspace\"",
    .lit " id=\"term-workspace\">\n",
    .lit "      <header class=\"term-bar\">\n",
    .lit "        <div class=\"term-bar-left\">\n",
    .lit "          <button class=\"term-btn\"",
    .lit " id=\"term-back\" title=\"Voltar ao painel\">‹",
    .lit " Painel</button>\n",
    .lit "          <span class=\"term-host\">"]

def terminalEnd : Page TerminalParams :=
  seq [
    .lit "</span>\n",
    .lit "        </div>\n",
    .lit "        <div class=\"term-tabs\" id=\"term-tabs\">",
    .lit "</div>\n",
    .lit "        <div class=\"term-bar-right\">\n",
    .lit "          <button class=\"term-btn\"",
    .lit " id=\"term-newtab\" title=\"Nova aba\"",
    .cond (fun p => truthy p.vm) (.lit "") (.lit " disabled"),
    .lit ">+ Aba</button>\n",
    .lit "          <button class=\"term-btn\"",
    .lit " id=\"term-full\" title=\"Tela cheia\">⛶ Tela cheia",
    .lit "</button>\n",
    .lit "        </div>\n",
    .lit "      </header>\n",
    .lit "      <div class=\"term-stage\" id=\"term-stage\">",
    .lit "</div>\n",
    .lit "    </section>\n",
    .lit "  "]

def terminalPage : Page TerminalParams :=
  seq [
    terminalStart,
    .hole fun p => orElse p.host "VM",
    terminalEnd]

/-- `renderTerminal`, the page it puts into `app.innerHTML`. -/
def renderTerminal (params : TerminalParams) : String := terminalPage.fill params

end Clusteration.Web
