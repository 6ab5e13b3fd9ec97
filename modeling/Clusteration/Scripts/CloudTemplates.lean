import Mathlib.Logic.Function.Basic
import Clusteration.Framework.Coroutine
import Clusteration.Framework.Reach
import Clusteration.Panel.Json

open Async Transition

namespace Clusteration.Scripts

/-- The environment of the script, after its defaults. -/
structure TemplateEnv where
  storage : String := "local-lvm"
  bridge : String := "vmbr0"
  workdir : String := "/var/lib/vz/template/clusteration-cloud"
  replaceExisting : String := "0"
  skipExisting : String := "1"
  templateFilter : String := ""
  debianVmid : String := "9000"
  ubuntuVmid : String := "9001"
  fedoraVmid : String := "9002"
  hermesVmid : String := "9010"
  openclawVmid : String := "9011"
  claudeVmid : String := "9012"
  debianUrl : String :=
    "https://cloud.debian.org/images/cloud/trixie/latest/debian-13-genericcloud-amd64.qcow2"
  ubuntuUrl : String :=
    "https://cloud-images.ubuntu.com/releases/resolute/release/ubuntu-26.04-server-cloudimg-amd64.img"
  fedoraVersion : String := "44"
  fedoraImageRelease : String := "1.7"
  fedoraUrl : String :=
    s!"https://download.fedoraproject.org/pub/fedora/linux/releases/{fedoraVersion}/Cloud/x86_64/images/"
      ++ s!"Fedora-Cloud-Base-Generic-{fedoraVersion}-{fedoraImageRelease}.x86_64.qcow2"
  aiImageSize : String := "16G"
  hermesInstallCmd : String := "curl -fsSL https://ollama.com/install.sh | sh"
  hermesModel : String := "hermes3"
  openclawInstallCmd : String := "npm install -g openclaw@latest"
  claudeInstallCmd : String := "npm install -g @anthropic-ai/claude-code@latest"

/-- The commands the script runs. -/
inductive Cmd where
  /-- `id -u` -/
  | id
  /-- `command -v name` -/
  | which (name : String)
  /-- `[[ -f path ]]` -/
  | isFile (path : String)
  /-- a command that has nothing to do with the guests of the node -/
  | tool (argv : List String)
  | status (vmid : String)
  | stop (vmid : String)
  | destroy (vmid : String)
  | create (vmid : String) (options : List String)
  | importdisk (vmid image storage : String)
  /-- `qm config` -/
  | config (vmid : String)
  /-- `qm set` -/
  | set (vmid : String) (options : List String)
  /-- `qm template` -/
  | template (vmid : String)
  deriving DecidableEq

/-- The guest a `qm` command names. -/
def Cmd.vmid : Cmd → Option String
  | status v | stop v | destroy v | create v _ | importdisk v _ _ | config v | set v _ | template v =>
    some v
  | _ => none

/-- The guest a command changes. -/
def Cmd.changes : Cmd → Option String
  | stop v | destroy v | importdisk v _ _ | set v _ | template v => some v
  | _ => none

/-- What a command ends with. -/
structure Reply where
  status : Nat
  output : List String := []

/-- A part of the script. What it raises is the status the script exits with. -/
abbrev Script (α : Type) := Task Cmd (fun _ => Reply) Unit Nat α

/-- A command whose status is looked at, so that `set -e` does not apply. -/
def run (c : Cmd) : Script Nat := do
  let r ← Task.await c
  pure r.status

/-- A command under `set -e`. -/
def must (c : Cmd) : Script Unit := do
  let r ← Task.await c
  if r.status = 0 then pure () else throw r.status

def echo (text : String) : Script Unit := must (.tool ["echo", text])

/-- `command -v name` -/
def has (name : String) : Script Bool := do
  let st ← run (.which name)
  pure (st = 0)

def need (name : String) : Script Unit := do
  if ← has name then pure ()
  else do
    echo s!"missing required command: {name}"
    throw 1

/-- `${s##*c}` -/
def afterLast (c : Char) (s : String) : String :=
  if s.toList.contains c then String.ofList (s.toList.reverse.takeWhile (· ≠ c)).reverse else s

def dirname (path : String) : String :=
  if path.toList.contains '/' then
    let dir := ((path.toList.reverse.dropWhile (· ≠ '/')).dropWhile (· = '/')).reverse
    if dir = [] then "/" else String.ofList dir
  else "."

def download (url dest : String) : Script Unit := do
  must (.tool ["mkdir", "-p", dirname dest])
  let cached ← run (.isFile dest)
  if cached = 0 then echo s!"using cached image: {dest}"
  else do
    echo s!"downloading {url}"
    let tmp := s!"{dest}.tmp"
    if ← has "curl" then must (.tool ["curl", "-fL", url, "-o", tmp])
    else must (.tool ["wget", "-O", tmp, url])
    must (.tool ["mv", tmp, dest])

def vmidExists (vmid : String) : Script Bool := do
  let st ← run (.status vmid)
  pure (st = 0)

def TemplateEnv.selected (env : TemplateEnv) (name : String) : Bool :=
  env.templateFilter = "" || contains s!",{env.templateFilter}," s!",{name},"

def skipExistingBuild (env : TemplateEnv) (vmid name : String) : Script Bool := do
  if ← vmidExists vmid then
    if env.replaceExisting ≠ "1" && env.skipExisting = "1" then do
      let _ ← run (.tool ["echo", s!"VMID {vmid} ({name}) already exists; skipping"])
      pure true
    else pure false
  else pure false

/-- The status of `prepare_vmid`. It is called as a condition, so that `set -e` does not apply in it. -/
def prepareVmid (env : TemplateEnv) (vmid : String) : Script Nat := do
  if ← vmidExists vmid then
    if env.replaceExisting = "1" then do
      let _ ← run (.tool ["echo", s!"destroying existing VMID {vmid}"])
      let _ ← run (.stop vmid)
      run (.destroy vmid)
    else if env.skipExisting = "1" then do
      let _ ← run (.tool ["echo", s!"VMID {vmid} already exists; skipping"])
      pure 1
    else do
      let _ ← run (.tool
        ["echo", s!"VMID {vmid} already exists; set REPLACE_EXISTING=1 to rebuild it"])
      throw 1
  else pure 0

/-- `virt-customize -a image --run-command ..` -/
def virtCustomize (image : String) (commands : List String) : Script Unit :=
  must (.tool (["virt-customize", "-a", image] ++ commands.flatMap fun c => ["--run-command", c]))

def customizeCommon (image family : String) : Script Unit := do
  if ← has "virt-customize" then
    virtCustomize image
      ["if command -v apt-get >/dev/null 2>&1; then apt-get clean && apt-get update && "
        ++ "DEBIAN_FRONTEND=noninteractive apt-get install -y qemu-guest-agent openssh-server cloud-init "
        ++ "curl git ca-certificates python3 python3-pip python3-venv nodejs npm && apt-get clean; fi",
       "if command -v dnf >/dev/null 2>&1; then dnf install -y qemu-guest-agent openssh-server "
        ++ "cloud-init curl git ca-certificates python3 python3-pip nodejs npm && dnf clean all; fi",
       "systemctl enable qemu-guest-agent >/dev/null 2>&1 || true",
       "systemctl enable ssh >/dev/null 2>&1 || systemctl enable sshd >/dev/null 2>&1 || true",
       s!"echo clusteration-template-{family} >/etc/clusteration-template"]
  else do
    echo s!"virt-customize not found; skipping offline package injection for {image}"
    echo "install libguestfs-tools on the Proxmox node for fully prebuilt images"

def expandCloudImage (env : TemplateEnv) (source image : String) : Script Unit := do
  let resize ← has "virt-resize"
  let img ← if resize then has "qemu-img" else pure false
  if img then do
    must (.tool ["rm", "-f", image])
    must (.tool ["qemu-img", "create", "-f", "qcow2", image, env.aiImageSize])
    must (.tool ["virt-resize", "--expand", "/dev/sda1", source, image])
  else do
    echo "virt-resize/qemu-img not found; copying image without offline resize"
    must (.tool ["cp", "-f", source, image])

/-- The commands of a bundle in `customize_ai`. -/
def TemplateEnv.bundle (env : TemplateEnv) : String → Option (List String)
  | "hermes" => some
      [env.hermesInstallCmd,
       "mkdir -p /opt/clusteration && printf '%s\\n' "
        ++ s!"'HERMES_MODEL={env.hermesModel}' >/opt/clusteration/ai.env",
       "apt-get clean >/dev/null 2>&1 || true"]
  | "openclaw" => some
      [env.openclawInstallCmd, "npm cache clean --force >/dev/null 2>&1 || true",
       "apt-get clean >/dev/null 2>&1 || true"]
  | "claude" => some
      [env.claudeInstallCmd, "npm cache clean --force >/dev/null 2>&1 || true",
       "apt-get clean >/dev/null 2>&1 || true"]
  | _ => none

def customizeAi (env : TemplateEnv) (image bundle : String) : Script Unit := do
  customizeCommon image bundle
  if ← has "virt-customize" then
    match env.bundle bundle with
    | some commands => virtCustomize image commands
    | none => pure ()
  else pure ()

/-- `awk '/^unused0:/{print $2}'` in a command substitution -/
def unusedDisk (lines : List String) : String :=
  let field (line : String) : String :=
    ((line.splitToList fun c => c = ' ' || c = '\t').filter fun f => f ≠ "").getD 1 ""
  let printed := "\n".intercalate ((lines.filter fun line => line.startsWith "unused0:").map field)
  String.ofList (printed.toList.reverse.dropWhile (· = '\n')).reverse

/-- The options of `qm create`. -/
def TemplateEnv.createOptions (env : TemplateEnv) (name osType : String) : List String :=
  ["--name", name, "--memory", "2048", "--cores", "2", "--net0", s!"virtio,bridge={env.bridge}",
   "--ostype", osType, "--scsihw", "virtio-scsi-pci", "--agent", "enabled=1",
   "--serial0", "socket", "--vga", "serial0"]

/-- `create_template`, once the VMID is free. -/
def makeTemplate (env : TemplateEnv) (vmid name image osType : String) : Script Unit := do
  echo s!"creating template {name} ({vmid})"
  must (.create vmid (env.createOptions name osType))
  must (.importdisk vmid image env.storage)
  -- `set -o pipefail`: a failure of `qm config` is one of the assignment
  let config ← Task.await (Cmd.config vmid)
  if config.status = 0 then do
    let diskRef := unusedDisk config.output
    if diskRef = "" then do
      echo s!"could not find imported disk for VMID {vmid}"
      throw 1
    else do
      must (.set vmid ["--scsi0", diskRef])
      must (.set vmid ["--ide2", s!"{env.storage}:cloudinit"])
      must (.set vmid ["--boot", "c", "--bootdisk", "scsi0"])
      must (.set vmid ["--ipconfig0", "ip=dhcp"])
      must (.set vmid ["--ciuser", "root"])
      must (.template vmid)
  else throw config.status

def createTemplate (env : TemplateEnv) (vmid name image : String) : Script Unit := do
  let st ← prepareVmid env vmid
  if st = 0 then makeTemplate env vmid name image "l26" else pure ()

def buildBase (env : TemplateEnv) (os vmid name url : String) : Script Unit := do
  if env.selected os then do
    if ← skipExistingBuild env vmid name then pure ()
    else do
      let ext := afterLast '.' url
      let source := s!"{env.workdir}/{os}.{ext}"
      let image := s!"{env.workdir}/{os}-custom.{ext}"
      download url source
      must (.tool ["cp", "-f", source, image])
      customizeCommon image os
      createTemplate env vmid name image
  else echo s!"skipping {os}; not selected by TEMPLATE_FILTER"

def buildAi (env : TemplateEnv) (bundle vmid name : String) : Script Unit := do
  if env.selected bundle then do
    if ← skipExistingBuild env vmid name then pure ()
    else do
      let source := s!"{env.workdir}/ubuntu.img"
      let image := s!"{env.workdir}/{bundle}-custom.qcow2"
      download env.ubuntuUrl source
      expandCloudImage env source image
      customizeAi env image bundle
      createTemplate env vmid name image
  else echo s!"skipping {bundle}; not selected by TEMPLATE_FILTER"

def buildTemplates (env : TemplateEnv) : Script Unit := do
  buildBase env "debian" env.debianVmid "debian-13-cloudinit-template" env.debianUrl
  buildBase env "ubuntu" env.ubuntuVmid "ubuntu-2604-cloudinit-template" env.ubuntuUrl
  buildBase env "fedora" env.fedoraVmid "fedora-44-cloudinit-template" env.fedoraUrl
  buildAi env "hermes" env.hermesVmid "hermes-ai-template"
  buildAi env "openclaw" env.openclawVmid "openclaw-ai-template"
  buildAi env "claude" env.claudeVmid "claude-cli-template"

def main (env : TemplateEnv) : Script Unit := do
  let uid ← Task.await Cmd.id
  if uid.output = ["0"] then do
    need "qm"
    need "awk"
    if ← has "curl" then pure () else need "wget"
    must (.tool ["mkdir", "-p", env.workdir])
    buildTemplates env
  else do
    echo "run as root on a Proxmox node"
    throw 1

/-- A guest somebody else has made, or one of the script, with the commands that succeeded on it. -/
inductive Guest where
  | other
  | mine (done : List Cmd)
  deriving DecidableEq

structure Build where
  guests : String → Option Guest
  /-- the VMIDs that `qm status` found, and those that `qm template` ended with -/
  settled : List String := []
  /-- the VMIDs at which others have removed, replaced or changed a guest of the script -/
  meddled : List String := []
  script : Prog Cmd (fun _ => Reply) (Except Nat Unit × Unit)

/-- Somebody else makes, removes or changes a guest; or the command of the script ends. `half`: a
`qm create` or `qm destroy` that failed has done its work all the same. -/
inductive BuildLabel where
  | others (vmid : String) (there : Bool)
  | script (reply : Reply) (half : Bool)

/-- What a command does to the guests; `none` if it cannot end like this. `qm status` finds only a guest
that is there, and `qm create` takes only a VMID that is free. -/
def Cmd.act (c : Cmd) (r : Reply) (half : Bool) (guests : String → Option Guest) :
    Option (String → Option Guest) :=
  match c with
  | .status v => if r.status = 0 && (guests v).isNone then none else some guests
  | .create v _ => match guests v with
    | some _ => if r.status = 0 then none else some guests
    | none =>
      if r.status = 0 then some (Function.update guests v (some (.mine [c])))
      else if half then some (Function.update guests v (some (.mine [])))
      else some guests
  | .destroy v =>
    if r.status = 0 || half then some (Function.update guests v none) else some guests
  | .importdisk v _ _ | .set v _ | .template v => match guests v with
    | some (.mine done) =>
      if r.status = 0 then some (Function.update guests v (some (.mine (done ++ [c]))))
      else some guests
    | _ => some guests
  | _ => some guests

/-- The VMID a command settles. -/
def Cmd.settles : Cmd → Option String
  | status v | template v => some v
  | _ => none

/-- Others have had their way with this VMID. -/
def Build.disturbed (s : Build) (v : String) (there : Bool) : Build :=
  { s with
    guests := Function.update s.guests v (if there then some .other else none)
    meddled := match s.guests v with
      | some (.mine _) => v :: s.meddled
      | _ => s.meddled }

def Build.step (s : Build) : BuildLabel → Option Build
  | .others v there => some (s.disturbed v there)
  | .script r half => match s.script with
    | .ret _ => none
    | .await c k => (c.act r half s.guests).map fun guests =>
      { s with
        guests
        settled := (if r.status = 0 then c.settles.toList else []) ++ s.settled
        script := k r }

/-- The states of the runs of the script, from any guests of others. -/
def Build.Reachable (env : TemplateEnv) : Build → Prop :=
  Reach (fun s l s' => s.step l = some s') (fun _ _ _ => True) fun s =>
    s.settled = [] ∧ s.meddled = [] ∧ s.script = main env () ∧
      ∀ v, s.guests v = none ∨ s.guests v = some .other

/-- The run of these labels. -/
def Build.run (s : Build) : List BuildLabel → Option Build
  | [] => some s
  | l :: ls => (s.step l).bind fun s' => s'.run ls

theorem Build.Reachable.run {env : TemplateEnv} {s s' : Build} {ls : List BuildLabel}
    (h : Build.Reachable env s) (hrun : s.run ls = some s') : Build.Reachable env s' := by
  induction ls generalizing s with
  | nil =>
    cases hrun
    exact h
  | cons l ls ih =>
    simp only [Build.run, Option.bind_eq_some_iff] at hrun
    obtain ⟨s₁, hstep, hrest⟩ := hrun
    exact ih (.next h hstep trivial) hrest

end Clusteration.Scripts
