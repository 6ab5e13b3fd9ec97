import Mathlib.Algebra.Group.Int.Defs
import Mathlib.Algebra.Group.Nat.Defs
import Clusteration.Panel.Entities

open Unicode

namespace Clusteration

inductive PowerAction where
  | start | shutdown | reboot | stop
  deriving DecidableEq, Repr

def PowerAction.value : PowerAction → String
  | start => "start"
  | shutdown => "shutdown"
  | reboot => "reboot"
  | stop => "stop"

/-- The form `provision_vm_from_template` puts on a guest's config. -/
structure CloudInit where
  ciuser : String
  cipassword : String
  sshkeys : String
  ipconfig0 : String
  nameserver : String
  cores : Int
  memory : Int
  onboot : Int
  deriving DecidableEq, Repr

/-- The requests the panel sends to the Proxmox API. -/
inductive Req where
  | nextId
  | clusterResources
  | vmConfig (node : String) (vmid : Int)
  | statusCurrent (node : String) (vmid : Int)
  | taskStatus (node upid : String)
  | networkInterfaces (node : String) (vmid : Int)
  | execStatus (node : String) (vmid : Int) (pid : Json)
  | storageStatus (node storage : String)
  | clone (node : String) (templateVmid newid : Int) (name : String)
  | setConfig (node : String) (vmid : Int) (data : CloudInit)
  | resize (node : String) (vmid : Int) (disk size : String)
  | power (node : String) (vmid : Int) (action : PowerAction)
  | exec (node : String) (vmid : Int) (script : String)
  | destroy (node : String) (vmid : Int)

namespace Req

def method : Req → String
  | clone .. | power .. | exec .. => "POST"
  | setConfig .. | resize .. => "PUT"
  | destroy .. => "DELETE"
  | _ => "GET"

/-- `urllib.parse.quote(s, safe='')`. -/
def quote (s : String) : String :=
  let hex (n : Nat) : Char := ("0123456789ABCDEF".toList)[n]?.getD '0'
  String.ofList <| s.toUTF8.toList.flatMap fun b =>
    let c := Char.ofNat b.toNat
    if b.toNat < 128 && (c.isAlphanum || c = '_' || c = '.' || c = '-' || c = '~') then [c]
    else ['%', hex (b.toNat / 16), hex (b.toNat % 16)]

def path : Req → String
  | nextId => "/cluster/nextid"
  | clusterResources => "/cluster/resources"
  | vmConfig node vmid | setConfig node vmid _ => s!"/nodes/{node}/qemu/{vmid}/config"
  | statusCurrent node vmid => s!"/nodes/{node}/qemu/{vmid}/status/current"
  | taskStatus node upid => s!"/nodes/{node}/tasks/{quote upid}/status"
  | networkInterfaces node vmid => s!"/nodes/{node}/qemu/{vmid}/agent/network-get-interfaces"
  | execStatus node vmid _ => s!"/nodes/{node}/qemu/{vmid}/agent/exec-status"
  | storageStatus node storage => s!"/nodes/{node}/storage/{storage}/status"
  | clone node templateVmid _ _ => s!"/nodes/{node}/qemu/{templateVmid}/clone"
  | resize node vmid _ _ => s!"/nodes/{node}/qemu/{vmid}/resize"
  | power node vmid action => s!"/nodes/{node}/qemu/{vmid}/status/{action.value}"
  | exec node vmid _ => s!"/nodes/{node}/qemu/{vmid}/agent/exec"
  | destroy node vmid => s!"/nodes/{node}/qemu/{vmid}"

/-- Requests that only read. -/
def isGet : Req → Bool
  | nextId | clusterResources | vmConfig .. | statusCurrent .. | taskStatus ..
  | networkInterfaces .. | execStatus .. | storageStatus .. => true
  | _ => false

/-- The VMID of the guest a state-changing request acts on. A clone acts on no existing guest. -/
def target : Req → Option Int
  | setConfig _ n _ | resize _ n _ _ | power _ n _ | exec _ n _ | destroy _ n => some n
  | _ => none

/-- Requests that boot the guest they act on. -/
def boots : Req → Bool
  | power _ _ .start | power _ _ .reboot => true
  | _ => false

/-- Requests that give the guest they act on a machine-id of its own. -/
def renews : Req → Bool
  | exec .. => true
  | _ => false

end Req

/-- An HTTP body: its text, and what `json.loads` makes of it. -/
structure Body where
  text : String := ""
  json : Option Json := none

/-- How one `httpx` request ends. -/
inductive HttpOutcome where
  | response (status : Nat) (body : Body)
  | connectError
  | timeoutException
  | transport (name : String)

/-- The `last_exc` of `ProxmoxClient._request`. -/
inductive Failure where
  | connectError
  | timeoutException
  | status (code : Nat) (body : Body)

def retryStatuses : List Nat := [429, 500, 502, 503, 504]

namespace Failure

/-- The loop goes on after this failure unless it was the last attempt. -/
def retryable : Failure → Bool
  | connectError | timeoutException => true
  | status code _ => retryStatuses.contains code

/-- The detail of an HTTP error: `message` and `errors` of a JSON object, else the text. -/
def detail (body : Body) : String :=
  let raw := match body.json with
    | some (.obj d) =>
      let message := Dict.get d "message"
      let errors := Dict.get d "errors"
      if errors.truthy && message.truthy then message.pyStr ++ ": " ++ errors.pyStr
      else if message.truthy then message.pyStr
      else errors.strOr
    | _ => strip body.text
  strip (raw.map fun c => if c = '\n' then ' ' else c)

/-- `sanitize_proxmox_error`. -/
def sanitize : Failure → String
  | connectError =>
    "não foi possível conectar ao Proxmox; verifique PROXMOX_HOST, rede e firewall"
  | timeoutException =>
    "Proxmox não respondeu dentro do tempo limite; verifique API, rede e carga do node"
  | status code body =>
    let d := detail body
    if d = "" then s!"Proxmox respondeu HTTP {code}"
    else s!"Proxmox respondeu HTTP {code}: " ++ String.ofList (d.toList.take 300)

/-- The exception `_request` ends with once it gives up. -/
def exc (req : Req) : Failure → Exc
  | f@(status code _) =>
    if code = 401 || code = 403 then
      .proxmoxAuthError s!"Proxmox recusou {req.method} {req.path}: {f.sanitize}"
    else .proxmoxError f.sanitize
  | f => .proxmoxError f.sanitize

end Failure

/-- What one attempt of `_request` comes to. -/
inductive Attempt where
  | data (j : Json)
  | raised (x : Exc)
  | failed (f : Failure)

def HttpOutcome.attempt : HttpOutcome → Attempt
  | connectError => .failed .connectError
  | timeoutException => .failed .timeoutException
  | transport name => .raised (.transport name)
  | response status body =>
    if retryStatuses.contains status then .failed (.status status body)
    else if !(200 ≤ status && status ≤ 299) then .failed (.status status body)
    else match body.json with
      | none => .raised (.valueError "Expecting value: line 1 column 1 (char 0)")
      | some (.obj d) => .data (Dict.get d "data")
      | some j => .raised (.attributeError s!"'{j.typeName}' object has no attribute 'get'")

/-- `parse_first_ipv4`: the inner loop, over the addresses of one interface. -/
def firstAddress : List Json → Option String
  | [] => none
  | .obj addr :: rest =>
    match Dict.get addr "ip-address-type" with
    | .str "ipv4" =>
      let ip := strip (match addr.lookup "ip-address" with
        | none => ""
        | some x => x.pyStr)
      if ip ≠ "" ∧ !(ip.startsWith "127.") then some ip else firstAddress rest
    | _ => firstAddress rest
  | _ :: rest => firstAddress rest

/-- The outer loop, over the interfaces. Loopback interfaces are skipped. -/
def firstIpv4 : List Json → Except Exc (Option String)
  | [] => .ok none
  | .obj iface :: rest =>
    let name := (match iface.lookup "name" with
      | none => ""
      | some x => x.pyStr).toLower
    if name.startsWith "lo" then firstIpv4 rest
    else match Dict.get iface "ip-addresses" with
      | .arr addrs => match firstAddress addrs with
        | some ip => .ok (some ip)
        | none => firstIpv4 rest
      | x => if x.truthy && ["int", "float", "bool"].contains x.typeName then
          .error (.typeError s!"'{x.typeName}' object is not iterable")
        else firstIpv4 rest
  | _ :: rest => firstIpv4 rest

/-- `parse_first_ipv4`. -/
def parseFirstIpv4 (data : Json) : Except Exc (Option String) :=
  let interfaces := match data with
    | .obj d => Dict.get d "result"
    | x => x
  match interfaces with
  | .arr items => firstIpv4 items
  | _ => .ok none

/-- `is_template_resource` and `is_template_config`. -/
def isTemplate (d : Dict) : Bool := ["1", "true", "yes"].contains ((Dict.get d "template").strOr).toLower

/-- The loop of `find_vm_resource` over the entries of `/cluster/resources`. -/
def findResource (vmid : Int) : List Json → Except Exc (Option Dict)
  | [] => .ok none
  | .obj d :: rest =>
    match (Dict.get d "vmid").toInt with
    | .ok n => if n = vmid then .ok (some d) else findResource vmid rest
    | .error (.overflowError m) => .error (.overflowError m)
    | .error _ => findResource vmid rest
  | x :: _ => .error (.attributeError s!"'{x.typeName}' object has no attribute 'get'")

/-- How the quotients of the disk sizes are read: as Python's doubles, or as exact numbers. -/
inductive Arithmetic where
  | double
  | exact
  deriving DecidableEq

/-- The whole number next to `num / den`; halfway between two of them, the even one. -/
def roundEven (num den : Nat) : Nat :=
  if 2 * (num % den) < den then num / den
  else if den < 2 * (num % den) then num / den + 1
  else num / den + num / den % 2

namespace Arithmetic

/-- The quotient rounds to infinity. -/
def tooLarge (num den : Nat) : Arithmetic → Bool
  | double => (2 ^ 1024 - 2 ^ 970) * den ≤ num
  | exact => false

/-- `math.ceil(num / den)`. A double has 53 binary digits; below one it has finer ones than here, but
its ceiling is one or zero there all the same. -/
def ceil (num den : Nat) : Arithmetic → Nat
  | double =>
    let e := Nat.log2 (num / den)
    if e ≤ 52 then (roundEven (num * 2 ^ (52 - e)) den + 2 ^ (52 - e) - 1) / 2 ^ (52 - e)
    else roundEven num (den * 2 ^ (e - 52)) * 2 ^ (e - 52)
  | exact => (num + den - 1) / den

/-- `max(1, math.ceil(num / den))`. -/
def ceilGb (num den : Nat) (arithmetic : Arithmetic) : Int := max 1 (arithmetic.ceil num den)

end Arithmetic

/-- `disk_size_gb_from_resource`. -/
def diskSizeGbFromResource (resource : Option Dict) (arithmetic : Arithmetic := .double) :
    Except Exc (Option Int) :=
  match resource with
  | none => .ok none
  | some d => match (Dict.get d "maxdisk").toInt with
    | .ok bytes =>
      if bytes ≤ 0 then .ok none
      else if arithmetic.tooLarge bytes.toNat (1024 ^ 3) then
        .error (.overflowError "integer division result too large for a float")
      else .ok (some (arithmetic.ceilGb bytes.toNat (1024 ^ 3)))
    | .error (.overflowError m) => .error (.overflowError m)
    | .error _ => .ok none

/-- `(\d+(?:\.\d+)?)([KMGT])(?:i?B)?(?:,|$)` at the head of a text, under `re.IGNORECASE`: the
amount as a quotient of whole numbers, and the letter of the unit. -/
def matchSize (cs : List Char) : Option (Nat × Nat × Char) :=
  let (whole, rest) := cs.span isDecimal
  let (frac, rest) := match rest with
    | '.' :: more =>
      let (frac, after) := more.span isDecimal
      if frac.isEmpty then ([], rest) else (frac, after)
    | _ => ([], rest)
  let ended (xs : List Char) : Bool := xs = [] || xs = ['\n'] || xs.head? = some ','
  match rest with
  | [] => none
  | u :: tail =>
    let bytes : List Char → Bool
      | b :: t => b.toUpper = 'B' && ended t
      | [] => false
    let ibytes : List Char → Bool
      | i :: t => ['i', 'I', '\u0130', '\u0131'].contains i && bytes t
      | [] => false
    if !whole.isEmpty && (['K', 'M', 'G', 'T'].contains u.toUpper || u = '\u212a') &&
        (ended tail || bytes tail || ibytes tail) then
      some ((whole ++ frac).foldl (fun n c => n * 10 + (digitValue c).getD 0) 0,
        10 ^ frac.length, u.toUpper)
    else none

/-- The letters `size=` under `re.IGNORECASE`, which also lets the long s stand for an s and the
dotted and dotless Turkish letters for an i. -/
def isSizeKey : List Char → Bool
  | [s, i, z, e, q] => ['s', 'S', '\u017f'].contains s &&
      ['i', 'I', '\u0130', '\u0131'].contains i && z.toUpper = 'Z' && e.toUpper = 'E' && q = '='
  | _ => false

/-- The leftmost match of the size pattern; it starts the text or follows a comma. -/
def searchSize (start : Bool) : List Char → Option (Nat × Nat × Char)
  | [] => none
  | c :: cs =>
    let here := if start && isSizeKey ((c :: cs).take 5) then matchSize ((c :: cs).drop 5) else none
    match here with
    | some m => some m
    | none => searchSize (c = ',') cs

/-- `parse_disk_size_gb`. -/
def parseDiskSizeGb (value : String) (arithmetic : Arithmetic := .double) : Except Exc (Option Int) :=
  match searchSize true value.toList with
  | none => .ok none
  | some (amount, scale, unit) =>
    let factor : Option (Nat × Nat) := match unit with
      | 'K' => some (1, 1024 * 1024)
      | 'M' => some (1, 1024)
      | 'G' => some (1, 1)
      | 'T' => some (1024, 1)
      | _ => none
    match factor with
    | some (num, den) =>
      if arithmetic.tooLarge (amount * num) scale then
        .error (.overflowError "cannot convert float infinity to integer")
      else .ok (some (arithmetic.ceilGb (amount * num) (scale * den)))
    | none => .error (.keyError (String.singleton unit))

end Clusteration
