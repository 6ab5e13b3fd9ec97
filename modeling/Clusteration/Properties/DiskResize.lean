import Mathlib
import Clusteration.Panel.Lifecycle
import Clusteration.Protocol.Answers
import Clusteration.Protocol.Destroy
import Clusteration.Protocol.Readable
import Clusteration.Properties.DiskSizes

open Async Task

namespace Clusteration

/-- What the two reads of `vm_disk_size_gb` have come to: the size of the disk, or an exception that
the client does not catch. -/
inductive SizeRead where
  | unknown | known | broken
  deriving DecidableEq

/-- The disk of a guest, and the resizes sent for it, each with the GiB it asked for and the bytes
the disk had then. -/
structure GuestDisk where
  bytes : Int
  read : SizeRead := .unknown
  resizes : List (Int × Int) := []

def GuestDisk.told (disk : GuestDisk) (legible : Bool) : GuestDisk :=
  { disk with read := if legible then .known else .broken }

/-- The bytes `vm_disk_size_gb` reads from the listing. -/
def listedBytes (vmid : Int) (items : List Json) : Option Int :=
  match items.find? (lists vmid) with
  | some (.obj resource) => match (Dict.get resource "maxdisk").toInt with
    | .ok bytes => if bytes ≤ 0 then none else some bytes
    | .error _ => none
  | _ => none

/-- The option gives the disk this many bytes. -/
def OptionGives (value : String) (bytes : Int) : Prop :=
  ∃ amount scale u, searchSize true value.toList = some (amount, scale, SizeUnit.letter u) ∧
    (amount * u.bytes : Int) = bytes * scale

/-- The listing holds what the scan for the VMID does not get past: an entry before the one sought
that is no object or has an infinite VMID, or an infinite size of the one sought. -/
def listingBreaks (vmid : Int) (items : List Json) : Bool :=
  !listingReadable vmid items || match items.find? (lists vmid) with
    | some (.obj resource) => (Dict.get resource "maxdisk").infinite
    | _ => false

/-- What Proxmox keeps to: a size it reports is the real one, and a resize that succeeds sets the
size it asks for. Any read may fail, break off, come back unreadable or leave the size out, and any
resize may fail, with or without effect. -/
inductive Keeps (vmid : Int) : GuestDisk → (e : Eff) → Ans e → GuestDisk → Prop
  | failed (disk : GuestDisk) (caller : Option Caller) {req : Req} {out : HttpOutcome} {f : Failure} :
      req.isGet = true → out.attempt = .failed f → Keeps vmid disk (.http caller req) out disk
  | raised (disk : GuestDisk) (caller : Option Caller) {req : Req} {out : HttpOutcome} {x : Exc} :
      req.isGet = true → out.attempt = .raised x →
      Keeps vmid disk (.http caller req) out (disk.told false)
  | garbled (disk : GuestDisk) (caller : Option Caller) {out : HttpOutcome} {d : Json} :
      out.attempt = .data d → listingBreaks vmid (ProxmoxClient.asList d) = true →
      Keeps vmid disk (.http caller .clusterResources) out (disk.told false)
  | unlisted (disk : GuestDisk) (caller : Option Caller) {out : HttpOutcome} {d : Json} :
      out.attempt = .data d → listingBreaks vmid (ProxmoxClient.asList d) = false →
      listedBytes vmid (ProxmoxClient.asList d) = none →
      Keeps vmid disk (.http caller .clusterResources) out disk
  | listed (disk : GuestDisk) (caller : Option Caller) {out : HttpOutcome} {d : Json} :
      out.attempt = .data d → listingBreaks vmid (ProxmoxClient.asList d) = false →
      listedBytes vmid (ProxmoxClient.asList d) = some disk.bytes →
      Keeps vmid disk (.http caller .clusterResources) out
        (disk.told (!Arithmetic.double.tooLarge disk.bytes.toNat (1024 ^ 3)))
  | unconfigured (disk : GuestDisk) (caller : Option Caller) (node : String) (n : Int)
      {out : HttpOutcome} {d : Json} : out.attempt = .data d →
      searchSize true (Dict.get (ProxmoxClient.asDict d) "scsi0").strOr.toList = none →
      Keeps vmid disk (.http caller (.vmConfig node n)) out disk
  | configured (disk : GuestDisk) (caller : Option Caller) (node : String) (n : Int)
      {out : HttpOutcome} {d : Json} : out.attempt = .data d →
      OptionGives (Dict.get (ProxmoxClient.asDict d) "scsi0").strOr disk.bytes →
      Keeps vmid disk (.http caller (.vmConfig node n)) out
        (disk.told (optionReadable (Dict.get (ProxmoxClient.asDict d) "scsi0").strOr))
  | misconfigured (disk : GuestDisk) (caller : Option Caller) (node : String) (n : Int)
      {out : HttpOutcome} {d : Json} {amount scale : Nat} {unit : Char} : out.attempt = .data d →
      searchSize true (Dict.get (ProxmoxClient.asDict d) "scsi0").strOr.toList =
        some (amount, scale, unit) → ['K', 'M', 'G', 'T'].contains unit = false →
      Keeps vmid disk (.http caller (.vmConfig node n)) out (disk.told false)
  | resize (disk : GuestDisk) (caller : Option Caller) (node : String) (n : Int) (name size : String)
      {gb : Int} {out : HttpOutcome} {applied : Bool} : size = s!"{gb}G" →
      (∀ d, out.attempt = .data d → applied = true) →
      Keeps vmid disk (.http caller (.resize node n name size)) out
        { disk with
          bytes := if applied then gb * 1024 ^ 3 else disk.bytes
          resizes := (gb, disk.bytes) :: disk.resizes }
  | other (disk : GuestDisk) {e : Eff} (r : Ans e) : (∀ caller req, e ≠ .http caller req) →
      Keeps vmid disk e r disk

/-- The size `vm_disk_size_gb` makes of a disk with this many bytes. -/
def gbOf (bytes : Int) : Int := Arithmetic.double.ceilGb bytes.toNat (1024 ^ 3)

/-- A resize was skipped, and the job says so. -/
def Skipped (phase : String) (s : Session) : Prop :=
  s.job.metadata.operation = some s!"{phase}:resize-skip" ∧ s.job.metadata.warning.isSome = true

/-- No resize asked for less than the disk had, and without a warning the disk has the GiB requested. -/
def Kept (requestedGb : Int) (phase : String) (out : Except Exc Unit × Session) (disk : GuestDisk) :
    Prop :=
  (∀ r ∈ disk.resizes, r.2 ≤ r.1 * 1024 ^ 3) ∧
  (out.1 = .ok () → ¬Skipped phase out.2 → requestedGb * 1024 ^ 3 ≤ disk.bytes)

/-- The requested GiB and the bytes the disk has agree with each other, given what was read. -/
def DiskFits (bytes requestedGb : Int) : SizeRead → Prop
  | .unknown => bytes ≤ requestedGb * 1024 ^ 3
  | .known => (gbOf bytes < requestedGb → bytes ≤ requestedGb * 1024 ^ 3) ∧
      (requestedGb = gbOf bytes → requestedGb * 1024 ^ 3 ≤ bytes)
  | .broken => True

section Reads
variable {S : Type} {vmid : Int} {caller : Option Caller} {s : S} {disk : GuestDisk}

theorem gbOf_option {value : String} {bytes : Int} (h : OptionGives value bytes) (hb : 0 < bytes) :
    parseDiskSizeGb value = if optionReadable value then .ok (some (gbOf bytes)) else
      .error (.overflowError "cannot convert float infinity to integer") := by
  obtain ⟨amount, scale, u, hsearch, hsize⟩ := h
  have hscale : 0 < scale := searchSize_scale hsearch
  have hletter : ['K', 'M', 'G', 'T'].contains u.letter = true := by
    cases u <;> rfl
  have hfactor : (if u.letter = 'T' then 1024 else 1) = u.factor.1 := by
    cases u <;> rfl
  have hcross : amount * u.factor.1 * 1024 ^ 3 = bytes.toNat * (scale * u.factor.2) := by
    have hnat : amount * u.bytes = bytes.toNat * scale := by
      have hbytes : (bytes.toNat : Int) = bytes := Int.toNat_of_nonneg (by omega)
      rw [← hbytes] at hsize
      exact_mod_cast hsize
    rw [Nat.mul_assoc, u.factor_bytes, ← Nat.mul_assoc, hnat, Nat.mul_assoc]
  have hceil := ceil_double_cross (Nat.mul_pos hscale u.factor_pos) (show 0 < 1024 ^ 3 by omega) hcross
  have hread : optionReadable value =
      !Arithmetic.double.tooLarge (amount * u.factor.1) scale := by
    rw [optionReadable, hsearch]
    dsimp only
    rw [hletter, hfactor, Bool.true_and]
  rw [parseDiskSizeGb_found hsearch, hread, gbOf, Arithmetic.ceilGb, Arithmetic.ceilGb, hceil]
  cases Arithmetic.double.tooLarge (amount * u.factor.1) scale with
  | true => rfl
  | false => rfl

theorem parseDiskSizeGb_unit {value : String} {amount scale : Nat} {unit : Char}
    (hsearch : searchSize true value.toList = some (amount, scale, unit))
    (hunit : ['K', 'M', 'G', 'T'].contains unit = false) :
    ∃ x, parseDiskSizeGb value = .error x ∧ x.isProxmoxError = false := by
  have hbad : (parseDiskSizeGb value).isOk = false := by
    rw [parseDiskSizeGb_isOk, optionReadable, hsearch]
    dsimp only
    rw [hunit, Bool.false_and]
  cases hparse : parseDiskSizeGb value with
  | ok gb =>
    rw [hparse] at hbad
    cases hbad
  | error x => exact ⟨x, rfl, parseDiskSizeGb_not_proxmox hparse⟩

/-- How the scan of the listing goes. -/
theorem listing_scan (vmid : Int) (items : List Json) :
    (∃ x, findResource vmid items = .error x ∧ listingBreaks vmid items = true) ∨
    (∃ resource m, findResource vmid items = .ok resource ∧ listingBreaks vmid items = true ∧
      diskSizeGbFromResource resource = .error (.overflowError m)) ∨
    ∃ resource, findResource vmid items = .ok resource ∧ listingBreaks vmid items = false ∧
      diskSizeGbFromResource resource = match listedBytes vmid items with
        | none => .ok none
        | some bytes => if Arithmetic.double.tooLarge bytes.toNat (1024 ^ 3) then
            .error (.overflowError "integer division result too large for a float")
          else .ok (some (gbOf bytes)) := by
  cases hread : listingReadable vmid items with
  | false =>
    have hbad : (findResource vmid items).isOk = false := by rw [findResource_isOk, hread]
    cases hfind : findResource vmid items with
    | ok resource =>
      rw [hfind] at hbad
      cases hbad
    | error x => exact Or.inl ⟨x, rfl, by rw [listingBreaks, hread]; rfl⟩
  | true =>
    obtain ⟨resource, hfind, hfirst⟩ := findResource_readable hread
    refine Or.inr ?_
    cases resource with
    | none =>
      refine Or.inr ⟨none, hfind, by simp [listingBreaks, hread, hfirst], ?_⟩
      simp [listedBytes, hfirst, diskSizeGbFromResource]
    | some resource =>
      have hbreaks : listingBreaks vmid items = (Dict.get resource "maxdisk").infinite := by
        simp [listingBreaks, hread, hfirst]
      cases hi : (Dict.get resource "maxdisk").toInt with
      | ok bytes =>
        have hlisted : listedBytes vmid items = if bytes ≤ 0 then none else some bytes := by
          simp [listedBytes, hfirst, hi]
        refine Or.inr ⟨some resource, hfind, hbreaks.trans (not_infinite (by simp [hi])), ?_⟩
        by_cases hb : bytes ≤ 0
        · simp [diskSizeGbFromResource, hi, hlisted, hb]
        · simp [diskSizeGbFromResource, hi, hlisted, hb, gbOf]
      | error x =>
        have hlisted : listedBytes vmid items = none := by simp [listedBytes, hfirst, hi]
        cases x with
        | overflowError m =>
          refine Or.inl ⟨some resource, m, hfind, hbreaks.trans ((toInt_overflow _).mp ⟨m, hi⟩), ?_⟩
          simp [diskSizeGbFromResource, hi]
        | _ =>
          refine Or.inr ⟨some resource, hfind, hbreaks.trans (not_infinite (by simp [hi])), ?_⟩
          simp [diskSizeGbFromResource, hi, hlisted]

/-- The answers `cluster_resources` can get here. -/
theorem Keeps.listing {disk' : GuestDisk} {out : HttpOutcome}
    (h : Keeps vmid disk (.http caller .clusterResources) out disk') :
    (∃ f, out.attempt = .failed f ∧ disk' = disk) ∨
    (∃ x, out.attempt = .raised x ∧ disk' = disk.told false) ∨
    ∃ d, out.attempt = .data d ∧
      ((∃ x, findResource vmid (ProxmoxClient.asList d) = .error x ∧ disk' = disk.told false) ∨
      ∃ resource, findResource vmid (ProxmoxClient.asList d) = .ok resource ∧
        ((diskSizeGbFromResource resource = .ok none ∧ disk' = disk) ∨
        (diskSizeGbFromResource resource = .ok (some (gbOf disk.bytes)) ∧ disk' = disk.told true) ∨
        ∃ x, diskSizeGbFromResource resource = .error x ∧ disk' = disk.told false)) := by
  cases h with
  | failed caller hget hf => exact Or.inl ⟨_, hf, rfl⟩
  | raised caller hget hx => exact Or.inr (Or.inl ⟨_, hx, rfl⟩)
  | @garbled _ _ d hd hbreaks =>
    refine Or.inr (Or.inr ⟨d, hd, ?_⟩)
    obtain ⟨x, hfind, -⟩ | ⟨resource, m, hfind, -, hsize⟩ | ⟨resource, -, hsound, -⟩ :=
      listing_scan vmid (ProxmoxClient.asList d)
    · exact Or.inl ⟨x, hfind, rfl⟩
    · exact Or.inr ⟨resource, hfind, Or.inr (Or.inr ⟨_, hsize, rfl⟩)⟩
    · rw [hbreaks] at hsound
      cases hsound
  | @unlisted _ _ d hd hsound hnone =>
    refine Or.inr (Or.inr ⟨d, hd, Or.inr ?_⟩)
    obtain ⟨x, -, hbreaks⟩ | ⟨resource, m, -, hbreaks, -⟩ | ⟨resource, hfind, -, hsize⟩ :=
      listing_scan vmid (ProxmoxClient.asList d)
    · rw [hbreaks] at hsound
      cases hsound
    · rw [hbreaks] at hsound
      cases hsound
    · rw [hnone] at hsize
      exact ⟨resource, hfind, Or.inl ⟨hsize, rfl⟩⟩
  | @listed _ _ d hd hsound hbytes =>
    refine Or.inr (Or.inr ⟨d, hd, Or.inr ?_⟩)
    obtain ⟨x, -, hbreaks⟩ | ⟨resource, m, -, hbreaks, -⟩ | ⟨resource, hfind, -, hsize⟩ :=
      listing_scan vmid (ProxmoxClient.asList d)
    · rw [hbreaks] at hsound
      cases hsound
    · rw [hbreaks] at hsound
      cases hsound
    · rw [hbytes] at hsize
      dsimp only at hsize
      refine ⟨resource, hfind, Or.inr ?_⟩
      cases hlarge : Arithmetic.double.tooLarge disk.bytes.toNat (1024 ^ 3) with
      | true =>
        rw [hlarge, if_pos rfl] at hsize
        exact Or.inr ⟨_, hsize, rfl⟩
      | false =>
        rw [hlarge, if_neg Bool.false_ne_true] at hsize
        exact Or.inl ⟨hsize, rfl⟩
  | other r hother => exact absurd rfl (hother _ _)

theorem Keeps.config {disk' : GuestDisk} {node : String} {n : Int} {out : HttpOutcome}
    (hb : 0 < disk.bytes) (h : Keeps vmid disk (.http caller (.vmConfig node n)) out disk') :
    (∃ f, out.attempt = .failed f ∧ disk' = disk) ∨
    (∃ x, out.attempt = .raised x ∧ disk' = disk.told false) ∨
    ∃ d, out.attempt = .data d ∧
      ((parseDiskSizeGb (Dict.get (ProxmoxClient.asDict d) "scsi0").strOr = .ok none ∧ disk' = disk) ∨
      (parseDiskSizeGb (Dict.get (ProxmoxClient.asDict d) "scsi0").strOr =
          .ok (some (gbOf disk.bytes)) ∧ disk' = disk.told true) ∨
      ∃ x, parseDiskSizeGb (Dict.get (ProxmoxClient.asDict d) "scsi0").strOr = .error x ∧
        disk' = disk.told false) := by
  cases h with
  | failed caller hget hf => exact Or.inl ⟨_, hf, rfl⟩
  | raised caller hget hx => exact Or.inr (Or.inl ⟨_, hx, rfl⟩)
  | @unconfigured _ _ _ _ d hd hsearch =>
    refine Or.inr (Or.inr ⟨d, hd, Or.inl ⟨?_, rfl⟩⟩)
    rw [parseDiskSizeGb, hsearch]
  | @configured _ _ _ _ d hd hsize =>
    refine Or.inr (Or.inr ⟨d, hd, Or.inr ?_⟩)
    rw [gbOf_option hsize hb]
    cases optionReadable (Dict.get (ProxmoxClient.asDict d) "scsi0").strOr with
    | true => exact Or.inl ⟨rfl, rfl⟩
    | false => exact Or.inr ⟨_, rfl, rfl⟩
  | @misconfigured _ _ _ _ d _ _ _ hd hsearch hunit =>
    obtain ⟨x, hx, -⟩ := parseDiskSizeGb_unit hsearch hunit
    exact Or.inr (Or.inr ⟨d, hd, Or.inr (Or.inr ⟨x, hx, rfl⟩)⟩)
  | other r hother => exact absurd rfl (hother _ _)

/-- What the config makes of the size, once the listing has said nothing. -/
theorem configGb_each {node : String} (hb : 0 < disk.bytes) :
    Each (Keeps vmid)
      (do
        let config ← exceptProxmox (some <$> ProxmoxClient.vmConfig caller node vmid) fun _ => pure none
        match config with
        | none => pure none
        | some config => ofExcept (parseDiskSizeGb (Dict.get config "scsi0").strOr) :
        Client S (Option Int)) s disk
      (fun gb s' disk' => s' = s ∧
        ((gb = none ∧ disk' = disk) ∨ (gb = some (gbOf disk.bytes) ∧ disk' = disk.told true)))
      fun _ s' disk' => s' = s ∧ disk' = disk.told false := by
  refine each_bind (each_exceptProxmox ?_)
  change Each _ (ProxmoxClient.vmConfig caller node vmid >>= fun config => pure (some config)) _ _ _ _
  refine each_bind (each_bind (each_request (I := fun disk' => disk' = disk) ?_ rfl))
  intro disk₁ out disk' heq ha
  rw [heq] at ha
  obtain ⟨f, hf, rfl⟩ | ⟨x, hx, rfl⟩ | ⟨d, hd, hparse⟩ := ha.config hb
  · rw [hf]
    refine ⟨rfl, ?_⟩
    rw [if_pos (Failure.exc_isProxmoxError _ f)]
    exact each_pure (each_pure ⟨rfl, Or.inl ⟨rfl, rfl⟩⟩)
  · rw [hx]
    dsimp only
    rw [if_neg (by rw [out.raised_not_proxmox hx]; decide)]
    exact ⟨rfl, rfl⟩
  · rw [hd]
    refine each_pure (each_pure (each_ofExcept ?_))
    obtain ⟨hnone, rfl⟩ | ⟨hread, rfl⟩ | ⟨x, hx, rfl⟩ := hparse
    · rw [hnone]
      exact ⟨rfl, Or.inl ⟨rfl, rfl⟩⟩
    · rw [hread]
      exact ⟨rfl, Or.inr ⟨rfl, rfl⟩⟩
    · rw [hx]
      exact ⟨rfl, rfl⟩

/-- The size read, if it is read at all, is that of the disk. -/
theorem vmDiskSizeGb_each {node : String} (hb : 0 < disk.bytes) :
    Each (Keeps vmid) (ProxmoxClient.vmDiskSizeGb caller node vmid : Client S (Option Int)) s disk
      (fun gb s' disk' => s' = s ∧
        ((gb = none ∧ disk' = disk) ∨ (gb = some (gbOf disk.bytes) ∧ disk' = disk.told true)))
      fun _ s' disk' => s' = s ∧ disk' = disk.told false := by
  refine each_bind (each_exceptProxmox ?_)
  refine each_bind (each_bind (each_bind (each_request (I := fun disk' => disk' = disk) ?_ rfl)))
  intro disk₁ out disk' heq ha
  rw [heq] at ha
  obtain ⟨f, hf, rfl⟩ | ⟨x, hx, rfl⟩ | ⟨d, hd, hscan⟩ := ha.listing
  · rw [hf]
    refine ⟨rfl, ?_⟩
    rw [if_pos (Failure.exc_isProxmoxError _ f)]
    exact each_pure (configGb_each hb)
  · rw [hx]
    dsimp only
    rw [if_neg (by rw [out.raised_not_proxmox hx]; decide)]
    exact ⟨rfl, rfl⟩
  · rw [hd]
    refine each_pure ?_
    obtain ⟨x, hx, rfl⟩ | ⟨resource, hfind, hsize⟩ := hscan
    · rw [hx]
      refine each_raise ?_
      rw [if_neg (by rw [findResource_not_proxmox hx]; decide)]
      exact ⟨rfl, rfl⟩
    · rw [hfind]
      refine each_pure (each_ofExcept ?_)
      obtain ⟨hnone, rfl⟩ | ⟨hread, rfl⟩ | ⟨x, hx, rfl⟩ := hsize
      · rw [hnone]
        exact configGb_each hb
      · rw [hread]
        exact each_pure ⟨rfl, Or.inr ⟨rfl, rfl⟩⟩
      · rw [hx]
        dsimp only
        rw [if_neg (by rw [diskSizeGbFromResource_not_proxmox hx]; decide)]
        exact ⟨rfl, rfl⟩

end Reads

/-- What the attempts of a resize leave. -/
structure Resized (requestedGb : Int) (disk disk' : GuestDisk) : Prop where
  read : disk'.read = disk.read
  bytes : disk'.bytes = disk.bytes ∨ disk'.bytes = requestedGb * 1024 ^ 3
  sent : (requestedGb, disk.bytes) ∈ disk'.resizes
  all : ∀ r ∈ disk'.resizes, r.1 = requestedGb ∧ (r.2 = disk.bytes ∨ r.2 = requestedGb * 1024 ^ 3)

theorem Resized.safe {requestedGb : Int} {disk disk' : GuestDisk} (h : Resized requestedGb disk disk') :
    (∀ r ∈ disk'.resizes, r.2 ≤ r.1 * 1024 ^ 3) ↔ disk.bytes ≤ requestedGb * 1024 ^ 3 := by
  constructor
  · intro hall
    exact hall _ h.sent
  · intro hle r hr
    obtain ⟨hgb, hthen | hthen⟩ := h.all r hr
    · rw [hgb, hthen]
      exact hle
    · rw [hgb, hthen]

theorem gib_injective {a b : Int} (h : s!"{a}G" = s!"{b}G") : a = b := by
  have hlist := congrArg String.toList h
  rw [String.toList_append, String.toList_append] at hlist
  exact Int.repr_injective (String.toList_injective (List.append_cancel_right hlist))

section Run
variable {c : Caller} {phase : String} {vmid : Int} {s : Session} {disk : GuestDisk}
  {requestedGb : Int} {node name : String} {n : Int}

theorem Keeps.resized {disk₁ disk₂ : GuestDisk} {caller : Option Caller} {out : HttpOutcome}
    (hempty : disk.resizes = []) (h : disk₁ = disk ∨ Resized requestedGb disk disk₁)
    (hk : Keeps vmid disk₁ (.http caller (.resize node n name s!"{requestedGb}G")) out disk₂) :
    Resized requestedGb disk disk₂ ∧
      ∀ d, out.attempt = .data d → disk₂.bytes = requestedGb * 1024 ^ 3 := by
  cases hk with
  | failed caller hget hf => cases hget
  | raised caller hget hx => cases hget
  | other r hother => exact absurd rfl (hother _ _)
  | @resize _ _ _ _ _ gb _ applied hsize happlied =>
    obtain rfl := gib_injective hsize
    have hthen : disk₁.bytes = disk.bytes ∨ disk₁.bytes = requestedGb * 1024 ^ 3 := by
      obtain h | h := h
      · exact Or.inl (congrArg GuestDisk.bytes h)
      · exact h.bytes
    refine ⟨⟨?_, ?_, ?_, ?_⟩, ?_⟩
    · obtain rfl | h := h
      · rfl
      · exact h.read
    · cases applied with
      | true => exact Or.inr rfl
      | false => exact hthen
    · obtain rfl | h := h
      · exact List.mem_cons_self ..
      · exact List.mem_cons_of_mem _ h.sent
    · intro r hr
      obtain rfl | hr := List.mem_cons.mp hr
      · exact ⟨rfl, hthen⟩
      · obtain rfl | h := h
        · rw [hempty] at hr
          cases hr
        · exact h.all r hr
    · intro d hd
      rw [happlied d hd]
      rfl

theorem resize_each {caller : Option Caller} (hempty : disk.resizes = []) :
    Each (Keeps vmid)
      (ProxmoxClient.request caller (.resize node n name s!"{requestedGb}G") : Client Session Json) s disk
      (fun _ s' disk' => s' = s ∧ Resized requestedGb disk disk' ∧ disk'.bytes = requestedGb * 1024 ^ 3)
      fun _ s' disk' => s' = s ∧ Resized requestedGb disk disk' := by
  refine each_request (I := fun disk' => disk' = disk ∨ Resized requestedGb disk disk') ?_ (Or.inl rfl)
  intro disk₁ out disk₂ h hk
  obtain ⟨hresized, hdone⟩ := hk.resized hempty h
  cases hatt : out.attempt with
  | data d => exact ⟨rfl, hresized, hdone d hatt⟩
  | raised x => exact ⟨rfl, hresized⟩
  | failed f => exact ⟨Or.inr hresized, rfl, hresized⟩

theorem setJobMeta_each {patch : JobMeta} {Q : Unit → Session → GuestDisk → Prop}
    {F : Exc → Session → GuestDisk → Prop}
    (hQ : ∀ s', s'.vm = s.vm → s'.job.metadata = s.job.metadata.merge patch → Q () s' disk) :
    Each (Keeps vmid) (setJobMeta c patch) s disk Q F := by
  refine each_bind (each_assign (each_bind (each_session (each_bind (each_await fun _ disk' ha => ?_)))))
  cases ha with
  | other => exact each_assign (hQ _ rfl rfl)

theorem skipped_warning {before : JobMeta} {text : String} (h : s.job.metadata = before.merge
    { operation := some s!"{phase}:resize-skip", warning := some text }) : Skipped phase s := by
  rw [Skipped, h]
  exact ⟨rfl, rfl⟩

theorem skipped_check (h : s.job.metadata.operation = some s!"{phase}:resize-check") :
    ¬Skipped phase s := by
  rintro ⟨hskip, _⟩
  have htext := congrArg String.toList (Option.some.inj (h.symm.trans hskip))
  rw [String.toList_append, String.toList_append] at htext
  have hend := List.append_cancel_left htext
  revert hend
  decide

/-- Once a resize has been sent, only its size matters. -/
theorem Resized.kept {disk' : GuestDisk} {out : Except Exc Unit × Session}
    (h : Resized requestedGb disk disk')
    (hdone : out.1 = .ok () → ¬Skipped phase out.2 → requestedGb * 1024 ^ 3 ≤ disk'.bytes) :
    Kept requestedGb phase out disk' ↔ disk.bytes ≤ requestedGb * 1024 ^ 3 := by
  rw [← h.safe]
  exact ⟨fun hk => hk.1, fun hs => ⟨hs, hdone⟩⟩

theorem ensureDiskSize_each (hb : 0 < disk.bytes) (hread : disk.read = .unknown)
    (hempty : disk.resizes = []) :
    Each (Keeps vmid) (ensureDiskSize c vmid phase) s disk
      (fun _ s' disk' => Kept s.vm.diskGb phase (.ok (), s') disk' ↔
        DiskFits disk.bytes s.vm.diskGb disk'.read)
      fun x s' disk' => Kept s.vm.diskGb phase (.error x, s') disk' ↔
        DiskFits disk.bytes s.vm.diskGb disk'.read := by
  refine each_bind (setJobMeta_each fun s₁ hvm hmeta => ?_)
  refine each_bind (each_bind (each_session (each_pure ?_)))
  rw [hvm]
  refine each_bind (each_mono (vmDiskSizeGb_each hb) ?_ ?_)
  · rintro gb s₂ disk₁ ⟨rfl, ⟨rfl, rfl⟩ | ⟨rfl, rfl⟩⟩
    · -- nothing is known of the size
      have hfits : ∀ {disk' : GuestDisk}, Resized s.vm.diskGb disk₁ disk' →
          (DiskFits disk₁.bytes s.vm.diskGb disk'.read ↔ disk₁.bytes ≤ s.vm.diskGb * 1024 ^ 3) := by
        intro disk' h
        rw [h.read, hread]
        exact Iff.rfl
      refine each_bind (each_exceptProxmox (each_bind (each_mono (resize_each hempty) ?_ ?_)))
      · rintro _ s₃ disk₂ ⟨rfl, hr, hdone⟩
        refine each_pure (setJobMeta_each fun s₄ _ _ => ?_)
        rw [hfits hr]
        exact hr.kept fun _ _ => le_of_eq hdone.symm
      · rintro x s₃ disk₂ ⟨rfl, hr⟩
        split
        · refine each_pure (setJobMeta_each fun s₄ _ hskip => ?_)
          rw [hfits hr]
          exact hr.kept fun _ hnot => absurd (skipped_warning hskip) hnot
        · rw [hfits hr]
          exact hr.kept fun h => nomatch h
    · have hnone : ∀ r ∈ (disk.told true).resizes, r.2 ≤ r.1 * 1024 ^ 3 := by
        intro r hr
        have hr : r ∈ disk.resizes := hr
        rw [hempty] at hr
        cases hr
      dsimp only
      split
      · next hle =>
        split
        · next hlt =>
          -- the disk is larger than requested, and the job says so
          refine each_bind (each_assign (setJobMeta_each fun s₃ _ hskip => ?_))
          have hkept : DiskFits disk.bytes s.vm.diskGb .known :=
            ⟨fun hgt => by omega, fun heq => by omega⟩
          exact iff_of_true ⟨hnone, fun _ hnot => absurd (skipped_warning hskip) hnot⟩ hkept
        · next hlt =>
          have heq : s.vm.diskGb = gbOf disk.bytes := by omega
          have hcheck : ¬Skipped phase s₂ := by
            apply skipped_check
            rw [hmeta]
            rfl
          refine each_pure ⟨?_, ?_⟩
          · intro hk
            exact ⟨fun hgt => by omega, fun _ => hk.2 rfl hcheck⟩
          · intro hf
            exact ⟨hnone, fun _ _ => hf.2 heq⟩
      · next hlt =>
        have hfits : ∀ {disk' : GuestDisk}, Resized s.vm.diskGb (disk.told true) disk' →
            (DiskFits disk.bytes s.vm.diskGb disk'.read ↔ disk.bytes ≤ s.vm.diskGb * 1024 ^ 3) := by
          intro disk' h
          rw [h.read]
          refine ⟨fun hf => hf.1 (by omega), fun hle => ⟨fun _ => hle, fun heq => ?_⟩⟩
          omega
        have hempty' : (disk.told true).resizes = [] := hempty
        refine each_bind (each_mono (resize_each hempty') ?_ ?_)
        · rintro _ s₃ disk₂ ⟨rfl, hr, hdone⟩
          refine setJobMeta_each fun s₄ _ _ => ?_
          rw [hfits hr]
          exact hr.kept fun _ _ => le_of_eq hdone.symm
        · rintro x s₃ disk₂ ⟨rfl, hr⟩
          rw [hfits hr]
          exact hr.kept fun h => nomatch h
  · rintro x s₂ disk₁ ⟨rfl, rfl⟩
    refine iff_of_true ⟨?_, fun h => nomatch h⟩ trivial
    intro r hr
    have hr : r ∈ disk.resizes := hr
    rw [hempty] at hr
    cases hr

end Run

/-- Whatever Proxmox answers, `ensure_disk_size` never sends a resize to less than the disk has, and
leaves the GiB requested or a warning, exactly when the disk and the request agree. -/
theorem ensureDiskSize_kept_iff (c : Caller) (vmid : Int) (phase : String) (s : Session) (bytes : Int)
    (hb : 0 < bytes) (out : Except Exc Unit × Session) (disk : GuestDisk)
    (h : (ensureDiskSize c vmid phase s).Ends (Keeps vmid) { bytes } out disk) :
    Kept s.vm.diskGb phase out disk ↔ DiskFits bytes s.vm.diskGb disk.read := by
  have hpos : 0 < ({ bytes } : GuestDisk).bytes := hb
  have hout := ensureDiskSize_each hpos rfl rfl out disk h
  obtain ⟨r, s'⟩ := out
  cases r with
  | ok u => exact hout
  | error x => exact hout

/-- A disk of less than 8 PiB whose size was read only disagrees with the request when it has a
fraction of the last GiB requested. -/
theorem diskFits_known_iff {bytes requestedGb : Int} (hb : 0 < bytes) (hlt : bytes < 2 ^ 53) :
    DiskFits bytes requestedGb .known ↔
      ¬((requestedGb - 1) * 1024 ^ 3 < bytes ∧ bytes < requestedGb * 1024 ^ 3) := by
  obtain ⟨gb, hgb, hleast⟩ := ceilGb_exact_isLeast bytes.toNat (show 0 < 1024 ^ 3 by omega)
  have hceil : gbOf bytes = gb := by
    rw [gbOf, ← hgb, Arithmetic.ceilGb, Arithmetic.ceilGb, ceil_double_bytes (by omega)]
  have hholds : bytes ≤ gb * 1024 ^ 3 := by
    have h := hleast.1.2
    omega
  have htight : ∀ k : Int, bytes ≤ k * 1024 ^ 3 → gb ≤ k := by
    intro k hk
    have hmem : k.toNat ∈ {k : Nat | 1 ≤ k ∧ bytes.toNat ≤ k * 1024 ^ 3} := ⟨by omega, by omega⟩
    have h := hleast.2 hmem
    omega
  rw [DiskFits, hceil]
  constructor
  · rintro ⟨_, hexact⟩ ⟨hmore, hless⟩
    have hle := htight requestedGb (le_of_lt hless)
    have hge : requestedGb ≤ gb := by omega
    have := hexact (by omega)
    omega
  · intro hnot
    refine ⟨fun hgt => by omega, fun heq => ?_⟩
    by_contra hless
    have hle : bytes ≤ (requestedGb - 1) * 1024 ^ 3 := by omega
    have := htight _ hle
    omega

def newVm : Session where
  job0 := { type := .createVm }
  job := { type := .createVm }
  vm0 := { hostname := "a", template := "debian" }
  vm := { hostname := "a", template := "debian" }

/-- What is left of the disk by a run in which Proxmox refuses the two reads and the resize. -/
def refusedDisk (bytes : Int) : GuestDisk := { bytes, resizes := [(12, bytes)] }

theorem refused_ends (bytes : Int) : ∃ s', (ensureDiskSize ⟨0, 0⟩ 101 "create" newVm).Ends (Keeps 101)
    { bytes } (.ok (), s') (refusedDisk bytes) := by
  have hcommit : ∀ (disk : GuestDisk) (f : Flush), Keeps 101 disk (.commit f) () disk :=
    fun disk f => .other (e := .commit f) disk () fun _ _ h => nomatch h
  have hresize : Keeps 101 { bytes } (.http (some ⟨0, 0⟩) (.resize "pve1" 101 "scsi0" s!"{(12 : Int)}G"))
      (.response 403 {}) (refusedDisk bytes) :=
    @Keeps.resize _ _ _ _ _ _ _ _ _ false rfl fun _ h => nomatch h
  apply Exists.intro
  apply Prog.Ends.await (hcommit _ _)
  apply Prog.Ends.await (r := .response 403 {}) (.failed _ _ rfl rfl)
  apply Prog.Ends.await (r := .response 403 {}) (.failed _ _ rfl rfl)
  apply Prog.Ends.await hresize
  apply Prog.Ends.await (hcommit _ _)
  exact .ret _ _

/-- On a disk of 12 GiB nothing is lost by it. -/
theorem ensureDiskSize_kept_iff_refused : ∃ s',
    Kept 12 "create" (.ok (), s') (refusedDisk (12 * 1024 ^ 3)) := by
  obtain ⟨s', h⟩ := refused_ends (12 * 1024 ^ 3)
  have hfits : DiskFits (12 * 1024 ^ 3) 12 .unknown := Int.le_refl _
  exact ⟨s', (ensureDiskSize_kept_iff ⟨0, 0⟩ 101 "create" newVm _ (by decide) _ _ h).mpr hfits⟩

/-- On a disk of 16 GiB it is an attempt to shrink. -/
theorem ensureDiskSize_shrinks :
    ¬∀ (c : Caller) (vmid : Int) (phase : String) (s : Session) (bytes : Int)
        (out : Except Exc Unit × Session) (disk : GuestDisk), 0 < bytes →
      (ensureDiskSize c vmid phase s).Ends (Keeps vmid) { bytes } out disk →
        Kept s.vm.diskGb phase out disk := by
  intro h
  obtain ⟨s', hrun⟩ := refused_ends (16 * 1024 ^ 3)
  have hkept := h _ _ _ _ _ _ _ (by decide) hrun
  have hsent := hkept.1 (12, 16 * 1024 ^ 3) (List.mem_singleton_self _)
  revert hsent
  decide

end Clusteration
