import Clusteration.Panel.ProxmoxClient

namespace Clusteration

/-- `int` takes it. -/
def Json.whole : Json → Bool
  | .int _ | .bool _ | .float _ (.finite _ _) => true
  | .str text => (readInt text).isSome
  | _ => false

def Json.infinite : Json → Bool
  | .float _ .inf => true
  | _ => false

/-- An object whose VMID is not an infinity. -/
def legible : Json → Bool
  | .obj d => !(Dict.get d "vmid").infinite
  | _ => false

/-- The entry is an object with this VMID. -/
def lists (vmid : Int) : Json → Bool
  | .obj d => match (Dict.get d "vmid").toInt with
    | .ok n => n = vmid
    | .error _ => false
  | _ => false

/-- The entries before the first one with the VMID are legible. -/
def listingReadable (vmid : Int) (items : List Json) : Bool :=
  (items.takeWhile fun item => !lists vmid item).all legible

/-- The size is no infinity, nor too many bytes for a quotient of doubles. -/
def maxdiskReadable (d : Dict) : Bool :=
  !(Dict.get d "maxdisk").infinite && match (Dict.get d "maxdisk").toInt with
    | .ok bytes => bytes ≤ 0 || !Arithmetic.double.tooLarge bytes.toNat (1024 ^ 3)
    | .error _ => true

/-- The size in the option, if it has one, has an ASCII unit and is in the range of doubles. -/
def optionReadable (value : String) : Bool :=
  match searchSize true value.toList with
  | some (amount, scale, unit) =>
    ['K', 'M', 'G', 'T'].contains unit &&
      !Arithmetic.double.tooLarge (amount * if unit = 'T' then 1024 else 1) scale
  | none => true

/-- The interface is one whose addresses `parse_first_ipv4` looks at. -/
def isLooked (iface : Dict) : Bool :=
  !((match iface.lookup "name" with
    | none => ""
    | some x => x.pyStr).toLower.startsWith "lo")

/-- The interface is looked at and has an address. -/
def hasIpv4 : Json → Bool
  | .obj iface => isLooked iface && match Dict.get iface "ip-addresses" with
    | .arr addrs => (firstAddress addrs).isSome
    | _ => false
  | _ => false

/-- The interface is not looked at, or its addresses are nothing Python refuses to go through. -/
def interfaceReadable : Json → Bool
  | .obj iface => !isLooked iface || match Dict.get iface "ip-addresses" with
    | .int n => n = 0
    | .float _ (.finite num _) => num = 0
    | .float _ _ => false
    | .bool b => !b
    | _ => true
  | _ => true

def interfacesReadable (data : Json) : Bool :=
  match (match data with
    | .obj d => Dict.get d "result"
    | x => x) with
  | .arr items => (items.takeWhile fun item => !hasIpv4 item).all interfaceReadable
  | _ => true

theorem toInt_isOk (x : Json) : x.toInt.isOk = x.whole := by
  cases x with
  | str text =>
    rw [Json.toInt, Json.whole]
    cases readInt text with
    | none => rfl
    | some n => rfl
  | float text value => cases value <;> rfl
  | _ => rfl

/-- Only an infinity overflows in `int`. -/
theorem toInt_overflow (x : Json) : (∃ m, x.toInt = .error (.overflowError m)) ↔ x.infinite = true := by
  cases x with
  | str text =>
    have hx : (Json.str text).infinite = false := rfl
    rw [Json.toInt, hx]
    cases readInt text with
    | none => simp
    | some n => simp
  | float text value => cases value <;> simp [Json.toInt, Json.infinite]
  | _ => simp [Json.toInt, Json.infinite]

theorem not_infinite {x : Json} (h : ∀ m, x.toInt ≠ .error (.overflowError m)) :
    x.infinite = false := by
  rw [Bool.eq_false_iff]
  intro hx
  obtain ⟨m, hm⟩ := (toInt_overflow x).mpr hx
  exact h m hm

theorem toInt_not_proxmox {x : Json} {e : Exc} (h : x.toInt = .error e) : e.isProxmoxError = false := by
  cases x with
  | str text =>
    rw [Json.toInt] at h
    split at h
    · cases h
    · cases h
      rfl
  | float text value =>
    cases value with
    | finite num den => cases h
    | inf =>
      cases h
      rfl
    | nan =>
      cases h
      rfl
  | int n => cases h
  | bool b => cases h
  | _ =>
    cases h
    rfl

theorem listingReadable_skip {vmid : Int} {item : Json} {rest : List Json}
    (h : lists vmid item = false) :
    listingReadable vmid (item :: rest) = (legible item && listingReadable vmid rest) := by
  rw [listingReadable, List.takeWhile_cons_of_pos (by simp [h]), List.all_cons]
  rfl

theorem findResource_isOk (vmid : Int) (items : List Json) :
    (findResource vmid items).isOk = listingReadable vmid items := by
  induction items with
  | nil => rfl
  | cons item rest ih =>
    cases item with
    | obj d =>
      rw [findResource]
      cases hi : (Dict.get d "vmid").toInt with
      | ok n =>
        have hfinite : legible (.obj d) = true := by
          rw [legible, not_infinite (by simp [hi])]
          rfl
        by_cases hn : n = vmid
        · have hlists : lists vmid (.obj d) = true := by simp [lists, hi, hn]
          simp [listingReadable, hlists, hn, Except.isOk, Except.toBool]
        · rw [listingReadable_skip (by simp [lists, hi, hn]), hfinite]
          simpa [hn] using ih
      | error x =>
        rw [listingReadable_skip (by simp [lists, hi])]
        cases x with
        | overflowError m =>
          have hinf : (Dict.get d "vmid").infinite = true := (toInt_overflow _).mp ⟨m, hi⟩
          simp [legible, hinf, Except.isOk, Except.toBool]
        | _ =>
          have hfinite : (Dict.get d "vmid").infinite = false := not_infinite (by simp [hi])
          simpa [legible, hfinite] using ih
    | _ =>
      rw [listingReadable_skip rfl]
      rfl

/-- What the loop of `find_vm_resource` finds is the first entry with the VMID. -/
theorem findResource_find {vmid : Int} {items : List Json} {found : Option Dict}
    (h : findResource vmid items = .ok found) : items.find? (lists vmid) = found.map Json.obj := by
  induction items with
  | nil =>
    cases h
    rfl
  | cons item rest ih =>
    cases item with
    | obj d =>
      rw [findResource] at h
      split at h
      · next n hi =>
        split at h
        · next hn =>
          cases h
          exact List.find?_cons_of_pos (by simp [lists, hi, hn])
        · next hn =>
          rw [List.find?_cons_of_neg (by simp [lists, hi, hn])]
          exact ih h
      · cases h
      · next hi =>
        rw [List.find?_cons_of_neg (by simp [lists, hi])]
        exact ih h
    | _ => cases h

theorem findResource_readable {vmid : Int} {items : List Json} (h : listingReadable vmid items = true) :
    ∃ found, findResource vmid items = .ok found ∧ items.find? (lists vmid) = found.map Json.obj := by
  rw [← findResource_isOk] at h
  cases hf : findResource vmid items with
  | ok found => exact ⟨found, rfl, findResource_find hf⟩
  | error x =>
    rw [hf] at h
    cases h

theorem diskSizeGbFromResource_isOk (d : Dict) :
    (diskSizeGbFromResource (some d)).isOk = maxdiskReadable d := by
  rw [diskSizeGbFromResource, maxdiskReadable]
  cases hi : (Dict.get d "maxdisk").toInt with
  | ok bytes =>
    rw [not_infinite (by simp [hi])]
    dsimp only
    by_cases hb : bytes ≤ 0
    · rw [if_pos hb, decide_eq_true hb]
      rfl
    · rw [if_neg hb, decide_eq_false hb]
      cases Arithmetic.double.tooLarge bytes.toNat (1024 ^ 3) with
      | true => rfl
      | false => rfl
  | error x =>
    cases x with
    | overflowError m =>
      rw [(toInt_overflow _).mp ⟨m, hi⟩]
      rfl
    | _ =>
      rw [not_infinite (by simp [hi])]
      rfl

theorem diskSizeGbFromResource_not_proxmox {resource : Option Dict} {x : Exc}
    (h : diskSizeGbFromResource resource = .error x) : x.isProxmoxError = false := by
  rw [diskSizeGbFromResource.eq_def] at h
  split at h
  · cases h
  · split at h
    · split at h
      · cases h
      · split at h
        · cases h
          rfl
        · cases h
    · cases h
      rfl
    · cases h

theorem isOk_unless {α : Type} (b : Bool) (x : Exc) (a : α) :
    (if b = true then Except.error x else Except.ok a : Except Exc α).isOk = !b := by
  cases b with
  | true => rfl
  | false => rfl

theorem parseDiskSizeGb_isOk (value : String) :
    (parseDiskSizeGb value).isOk = optionReadable value := by
  rw [parseDiskSizeGb, optionReadable]
  cases searchSize true value.toList with
  | none => rfl
  | some found =>
    obtain ⟨amount, scale, unit⟩ := found
    dsimp only
    by_cases hu : unit ∈ ['K', 'M', 'G', 'T']
    · have hunit : ['K', 'M', 'G', 'T'].contains unit = true := by simpa using hu
      rw [hunit, Bool.true_and]
      simp only [List.mem_cons, List.not_mem_nil, or_false] at hu
      obtain rfl | rfl | rfl | rfl := hu
      · exact isOk_unless _ _ _
      · exact isOk_unless _ _ _
      · exact isOk_unless _ _ _
      · exact isOk_unless _ _ _
    · have hunit : ['K', 'M', 'G', 'T'].contains unit = false := by simpa using hu
      rw [hunit, Bool.false_and]
      simp only [List.mem_cons, List.not_mem_nil, or_false, not_or] at hu
      obtain ⟨hK, hM, hG, hT⟩ := hu
      split
      · next h =>
        split at h
        · exact absurd rfl hK
        · exact absurd rfl hM
        · exact absurd rfl hG
        · exact absurd rfl hT
        · cases h
      · rfl

theorem parseDiskSizeGb_not_proxmox {value : String} {x : Exc} (h : parseDiskSizeGb value = .error x) :
    x.isProxmoxError = false := by
  rw [parseDiskSizeGb] at h
  split at h
  · cases h
  · dsimp only at h
    split at h
    · split at h
      · cases h
        rfl
      · cases h
    · cases h
      rfl

theorem firstIpv4_unlooked {iface : Dict} {rest : List Json} (h : isLooked iface = false) :
    firstIpv4 (.obj iface :: rest) = firstIpv4 rest := by
  rw [isLooked, Bool.not_eq_false'] at h
  rw [firstIpv4]
  exact if_pos h

theorem firstIpv4_looked {iface : Dict} {rest : List Json} (h : isLooked iface = true) :
    firstIpv4 (.obj iface :: rest) = match Dict.get iface "ip-addresses" with
      | .arr addrs => match firstAddress addrs with
        | some ip => .ok (some ip)
        | none => firstIpv4 rest
      | x => if x.truthy && ["int", "float", "bool"].contains x.typeName then
          .error (.typeError s!"'{x.typeName}' object is not iterable")
        else firstIpv4 rest := by
  rw [isLooked, Bool.not_eq_true'] at h
  rw [firstIpv4]
  exact if_neg (Bool.eq_false_iff.mp h)

theorem firstIpv4_isOk (items : List Json) :
    (firstIpv4 items).isOk = (items.takeWhile fun item => !hasIpv4 item).all interfaceReadable := by
  induction items with
  | nil => rfl
  | cons item rest ih =>
    cases item with
    | obj iface =>
      cases hl : isLooked iface with
      | false =>
        rw [firstIpv4_unlooked hl, ih, List.takeWhile_cons_of_pos (by simp [hasIpv4, hl]),
          List.all_cons]
        simp [interfaceReadable, hl]
      | true =>
        rw [firstIpv4_looked hl]
        cases ha : Dict.get iface "ip-addresses" with
        | arr addrs =>
          dsimp only
          cases hf : firstAddress addrs with
          | some ip =>
            rw [List.takeWhile_cons_of_neg (by simp [hasIpv4, hl, ha, hf])]
            rfl
          | none =>
            rw [List.takeWhile_cons_of_pos (by simp [hasIpv4, hl, ha, hf]), List.all_cons, ← ih]
            simp [interfaceReadable, ha]
        | int n =>
          rw [List.takeWhile_cons_of_pos (by simp [hasIpv4, ha]), List.all_cons, ← ih]
          by_cases hn : n = 0
          · simp [interfaceReadable, ha, hn, Json.truthy]
          · simp [interfaceReadable, hl, ha, hn, Json.truthy, Json.typeName, Except.isOk, Except.toBool]
        | float text value =>
          rw [List.takeWhile_cons_of_pos (by simp [hasIpv4, ha]), List.all_cons, ← ih]
          cases value with
          | finite num den =>
            by_cases hn : num = 0
            · simp [interfaceReadable, ha, hn, Json.truthy]
            · simp [interfaceReadable, hl, ha, hn, Json.truthy, Json.typeName, Except.isOk, Except.toBool]
          | _ => simp [interfaceReadable, hl, ha, Json.truthy, Json.typeName, Except.isOk, Except.toBool]
        | bool b =>
          rw [List.takeWhile_cons_of_pos (by simp [hasIpv4, ha]), List.all_cons, ← ih]
          cases b <;>
            simp [interfaceReadable, hl, ha, Json.truthy, Json.typeName, Except.isOk, Except.toBool]
        | _ =>
          rw [List.takeWhile_cons_of_pos (by simp [hasIpv4, ha]), List.all_cons, ← ih]
          simp [interfaceReadable, ha, Json.typeName]
    | _ =>
      rw [List.takeWhile_cons_of_pos rfl, List.all_cons]
      exact ih

theorem firstIpv4_not_proxmox {items : List Json} {x : Exc} (h : firstIpv4 items = .error x) :
    x.isProxmoxError = false := by
  induction items with
  | nil => cases h
  | cons item rest ih =>
    cases item with
    | obj iface =>
      cases hl : isLooked iface with
      | false =>
        rw [firstIpv4_unlooked hl] at h
        exact ih h
      | true =>
        rw [firstIpv4_looked hl] at h
        split at h
        · split at h
          · cases h
          · exact ih h
        · split at h
          · cases h
            rfl
          · exact ih h
    | _ => exact ih h

theorem parseFirstIpv4_not_proxmox {data : Json} {x : Exc} (h : parseFirstIpv4 data = .error x) :
    x.isProxmoxError = false := by
  cases data with
  | arr items => exact firstIpv4_not_proxmox h
  | obj d =>
    rw [parseFirstIpv4] at h
    cases hr : Dict.get d "result" with
    | arr items =>
      rw [hr] at h
      exact firstIpv4_not_proxmox h
    | _ =>
      rw [hr] at h
      cases h
  | _ => cases h

theorem parseFirstIpv4_isOk (data : Json) : (parseFirstIpv4 data).isOk = interfacesReadable data := by
  cases data with
  | arr items => exact firstIpv4_isOk items
  | obj d =>
    rw [parseFirstIpv4, interfacesReadable]
    cases Dict.get d "result" with
    | arr items => exact firstIpv4_isOk items
    | _ => rfl
  | _ => rfl

end Clusteration
