import Clusteration.Panel.Routes

open Async

namespace Clusteration

/-- An entry of `template_results`. -/
structure TemplateResult where
  os : String
  vmid : Int
  node : String
  diskGb : Option Int
  deriving DecidableEq

/-- An entry of `checks`. -/
structure Check where
  name : String
  ok : Bool
  message : String
  items : List TemplateResult := []
  deriving DecidableEq

structure Diagnostics where
  ok : Bool
  checks : List Check
  setupHint : Option String

def proxmoxSetupHint : String :=
  "No shell do Proxmox, use roles built-in para evitar privilégio inválido: " ++
  "pveum user add panel@pve || true; " ++
  "pveum aclmod / -user panel@pve -role PVEVMAdmin; " ++
  "pveum aclmod /storage/local-lvm -user panel@pve -role PVEDatastoreAdmin; " ++
  "pveum aclmod /storage/local -user panel@pve -role PVEDatastoreAdmin; " ++
  "pveum user token add panel@pve clusteration --privsep 0"

/-- A handler that keeps `checks`. -/
abbrev Diagnosing (α : Type) := Task Eff Ans (List Check) Exc α

/-- `storage_checks`, its entries in the order they were added. -/
abbrev StorageChecks := List (String × Check)

def storageKey (settings : Settings) (node : String) : String :=
  node ++ "/" ++ settings.proxmoxDefaultStorage

/-- What the token may do with the storage of a node. -/
def storageCheck {S : Type} (settings : Settings) (node : String) : Client S Check :=
  let name := "storage:" ++ storageKey settings node
  exceptProxmox
    (do
      let _ ← ProxmoxClient.request none (.storageStatus node settings.proxmoxDefaultStorage)
      pure { name, ok := true, message := "storage acessível pelo token" })
    fun exc => pure { name, ok := false, message := exc.str }

def checkStorage (settings : Settings) (node : String) (checks : StorageChecks) :
    Diagnosing StorageChecks :=
  let key := storageKey settings node
  if (checks.lookup key).isSome then pure checks
  else do
    let check ← storageCheck settings node
    pure (checks ++ [(key, check)])

/-- The loop over the templates. -/
def checkTemplates (settings : Settings) :
    List Template → StorageChecks → List TemplateResult → Diagnosing (StorageChecks × List TemplateResult)
  | [], checks, results => pure (checks, results)
  | template :: rest, checks, results => do
    let node ← ProxmoxClient.resolveTemplateNode none (template.node settings)
      template.proxmoxTemplateVmid
    let diskGb ← ProxmoxClient.vmDiskSizeGb none node template.proxmoxTemplateVmid
    let checks ← checkStorage settings node checks
    checkTemplates settings rest checks
      (results ++ [{ os := template.os, vmid := template.proxmoxTemplateVmid, node, diskGb }])

/-- `checks.extend`. -/
def addChecks (checks : List Check) : Diagnosing Unit := Task.assign (· ++ checks)

/-- The body of the `try` statement. -/
def collectChecks (settings : Settings) (templates : List Template) : Diagnosing Unit := do
  let nextId ← ProxmoxClient.nextId none
  addChecks [{ name := "nextid", ok := true, message := s!"Proxmox API OK; próximo VMID {nextId}" }]
  let (storageChecks, templateResults) ← checkTemplates settings templates [] []
  addChecks (storageChecks.map Prod.snd)
  addChecks
    [{ name := "templates", ok := true
       message := s!"{templateResults.length} templates resolvidos", items := templateResults }]

/-- Its `except` clauses. -/
def proxmoxFailed : Exc → Diagnosing Unit
  | .proxmoxAuthError m => addChecks [{ name := "proxmox-auth", ok := false, message := m }]
  | .proxmoxError m | .proxmoxTaskError m | .proxmoxTimeoutError m =>
    addChecks [{ name := "proxmox-api", ok := false, message := m }]
  | exc => throw exc

def checkProxmox (settings : Settings) (templates : List Template) : Diagnosing Unit :=
  tryCatch (collectChecks settings templates) proxmoxFailed

/-- `return` with the hint of a failed diagnosis. -/
def failed (checks : List Check) : Diagnostics := ⟨false, checks, some proxmoxSetupHint⟩

/-- The templates to look at, or why there are none. `rows` is the table. -/
def diagnosed (rows : List Template) (templateOs : Option String) : Except Check (List Template) :=
  let selected : Except Check (List Template) := match templateOs with
    | some os =>
      if os = "" then .ok (rows.mergeSort fun t t' => t.os ≤ t'.os)
      else
        let os := normalizeIdentifier os
        match rows.find? fun t => t.os = os with
        | some template => .ok [template]
        | none =>
          .error { name := "template", ok := false, message := s!"template {os} não encontrado" }
    | none => .ok (rows.mergeSort fun t t' => t.os ≤ t'.os)
  match selected with
  | .ok [] => .error { name := "templates", ok := false, message := "nenhum template configurado" }
  | selected => selected

def proxmoxDiagnostics (settings : Settings) (rows : List Template) (templateOs : Option String) :
    Diagnosing Diagnostics :=
  let missing := missingRuntimeSettings settings
  if !missing.isEmpty then
    pure (failed [{ name := "runtime", ok := false
                    message := "variáveis ausentes: " ++ ", ".intercalate missing }])
  else do
    addChecks [{ name := "runtime", ok := true, message := "variáveis obrigatórias presentes" }]
    match diagnosed rows templateOs with
    | .error check =>
      let checks ← Task.session
      pure (failed (checks ++ [check]))
    | .ok templates =>
      checkProxmox settings templates
      let checks ← Task.session
      let ok := checks.all Check.ok
      pure { ok, checks, setupHint := if ok then none else some proxmoxSetupHint }

end Clusteration
