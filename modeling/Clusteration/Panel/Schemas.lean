import Clusteration.Panel.Json

open Unicode

namespace Clusteration

/-- `str.lower` of one character. The Kelvin sign is the only one outside ASCII that has an ASCII
letter as its lower case, and no identifier of the panel has others. -/
def lowerChar (c : Char) : Char := if c = '\u212a' then 'k' else c.toLower

/-- `normalize_identifiers`. -/
def normalizeIdentifier (value : String) : String :=
  String.ofList ((stripChars value.toList).map lowerChar)

/-- The pattern of `VMCreate.hostname`, on what `normalize_identifiers` leaves. -/
def isHostname (s : String) : Bool :=
  let cs := s.toList
  1 ≤ cs.length && cs.length ≤ 128 && cs.all (fun c => c.isAlphanum || c = '-') &&
    cs.head?.any Char.isAlphanum && cs.getLast?.any Char.isAlphanum

def isRootPassword (s : String) : Bool := 8 ≤ s.length && s.length ≤ 256

/-- No letter of the text is a capital. -/
def isLowercase (s : String) : Bool := s.toList.all fun c => !c.isUpper

theorem isUpper_iff (c : Char) : c.isUpper = true ↔ 65 ≤ c.val.toNat ∧ c.val.toNat ≤ 90 := by
  have hrange : c.isUpper = decide ((65 : UInt32) ≤ c.val ∧ c.val ≤ 90) := rfl
  simp [hrange, UInt32.le_iff_toNat_le]

theorem toLower_of_not_isUpper {c : Char} (h : c.isUpper = false) : c.toLower = c := by
  have hn : ¬ (c.val ≥ 'A'.val ∧ c.val ≤ 'Z'.val) := by
    intro hc
    have hup : c.isUpper = true := (isUpper_iff c).mpr hc
    rw [hup] at h
    cases h
  unfold Char.toLower
  rw [dif_neg hn]

theorem isUpper_toLower (c : Char) : c.toLower.isUpper = false := by
  rw [Bool.eq_false_iff, Ne, isUpper_iff]
  unfold Char.toLower
  split
  · next h =>
    simp only [ge_iff_le, UInt32.le_iff_toNat_le, UInt32.toNat_add] at h ⊢
    have hA : 'A'.val.toNat = 65 := rfl
    have hZ : 'Z'.val.toNat = 90 := rfl
    have hd : ('a'.val - 'A'.val).toNat = 32 := rfl
    omega
  · next h =>
    intro hc
    exact h hc

theorem toLower_of_isLowercase {s : String} (h : isLowercase s = true) : s.toLower = s := by
  have hmap : s.toList.map Char.toLower = s.toList.map id := by
    apply List.map_congr_left
    intro c hc
    apply toLower_of_not_isUpper
    simpa using List.all_eq_true.mp h c hc
  have hlower : s.toLower = s.map Char.toLower := rfl
  apply String.toList_injective
  rw [hlower, String.toList_map, hmap, List.map_id]

theorem isAlphanum_ascii {c : Char} (h : c.isAlphanum = true) : c.toNat < 128 := by
  have hsplit : c.isAlphanum = ((c.isUpper || c.isLower) || c.isDigit) := rfl
  have hlower : c.isLower = (decide ((97 : UInt32) ≤ c.val) && decide (c.val ≤ 122)) := rfl
  have hdigit : c.isDigit = (decide ((48 : UInt32) ≤ c.val) && decide (c.val ≤ 57)) := rfl
  have hval : c.toNat = c.val.toNat := rfl
  simp only [hsplit, hlower, hdigit, Bool.or_eq_true, isUpper_iff, Bool.and_eq_true,
    decide_eq_true_eq, UInt32.le_iff_toNat_le, UInt32.reduceToNat] at h
  rcases h with (h | h) | h
  · omega
  · omega
  · omega

/-- What holds of the 128 ASCII characters. -/
theorem of_ascii {c : Char} {P : Char → Prop} (h : ∀ n < 128, P (Char.ofNat n))
    (hc : c.toNat < 128) : P c := by
  have hp := h c.toNat hc
  rwa [Char.ofNat_toNat] at hp

theorem toLower_eq_or_ascii (c : Char) : c.toLower = c ∨ c.toNat < 128 := by
  cases hc : c.isUpper with
  | true =>
    right
    have hrange := (isUpper_iff c).mp hc
    have hval : c.toNat = c.val.toNat := rfl
    omega
  | false => exact .inl (toLower_of_not_isUpper hc)

theorem isUpper_lowerChar (c : Char) : (lowerChar c).isUpper = false := by
  unfold lowerChar
  split
  · decide
  · exact isUpper_toLower c

theorem lowerChar_of_not_isUpper {c : Char} (hk : c ≠ '\u212a') (h : c.isUpper = false) :
    lowerChar c = c := by
  rw [lowerChar, if_neg hk, toLower_of_not_isUpper h]

theorem isLowercase_normalizeIdentifier (value : String) :
    isLowercase (normalizeIdentifier value) = true := by
  simp [isLowercase, normalizeIdentifier, isUpper_lowerChar]

theorem lowerChar_ne (c : Char) : lowerChar c ≠ '\u212a' := by
  unfold lowerChar
  split
  · decide
  · next hk =>
    rcases toLower_eq_or_ascii c with h | h
    · rwa [h]
    · exact of_ascii (P := fun c => c.toLower ≠ '\u212a') (by decide +kernel) h

theorem isSpace_toLower (c : Char) : isSpace c.toLower = isSpace c := by
  rcases toLower_eq_or_ascii c with h | h
  · rw [h]
  · exact of_ascii (P := fun c => isSpace c.toLower = isSpace c) (by decide +kernel) h

theorem isSpace_lowerChar (c : Char) : isSpace (lowerChar c) = isSpace c := by
  unfold lowerChar
  split
  · next hk =>
    rw [hk]
    decide
  · exact isSpace_toLower c

theorem normalizeIdentifier_normalizeIdentifier (value : String) :
    normalizeIdentifier (normalizeIdentifier value) = normalizeIdentifier value := by
  have hchar : lowerChar ∘ lowerChar = lowerChar :=
    funext fun c => lowerChar_of_not_isUpper (lowerChar_ne c) (isUpper_lowerChar c)
  simp only [normalizeIdentifier, String.toList_ofList, stripChars_map isSpace_lowerChar,
    stripChars_stripChars, List.map_map, hchar]

theorem hostname_no_space {c : Char} (h : (c.isAlphanum || c = '-') = true) :
    isSpace c = false ∧ c ≠ '\u212a' := by
  have hascii : c.toNat < 128 := by
    rcases Bool.or_eq_true _ _ ▸ h with h | h
    · exact isAlphanum_ascii h
    · rw [of_decide_eq_true h]
      decide
  exact of_ascii (P := fun c => (c.isAlphanum || c = '-') = true →
    isSpace c = false ∧ c ≠ '\u212a') (by decide +kernel) hascii h

theorem normalizeIdentifier_hostname {s : String} (h : isHostname s = true)
    (hlower : isLowercase s = true) : normalizeIdentifier s = s := by
  have hchar : ∀ c ∈ s.toList, (c.isAlphanum || c = '-') = true := by
    simp only [isHostname, Bool.and_eq_true] at h
    exact List.all_eq_true.mp h.1.1.2
  have hspace : stripChars s.toList = s.toList :=
    stripChars_of_no_space fun c hc => (hostname_no_space (hchar c hc)).1
  have hmap : s.toList.map lowerChar = s.toList.map id := by
    apply List.map_congr_left
    intro c hc
    have hl := List.all_eq_true.mp hlower c hc
    exact lowerChar_of_not_isUpper (hostname_no_space (hchar c hc)).2 (by simpa using hl)
  rw [normalizeIdentifier, hspace, hmap, List.map_id, String.ofList_toList]

structure VMCreate where
  hostname : String
  template : String
  size : String := "small"
  diskGb : Int := 12
  rootPassword : String
  hostname_valid : isHostname hostname = true
  hostname_lower : isLowercase hostname = true
  rootPassword_valid : isRootPassword rootPassword = true

/-- The validation of the body of `POST /vms`. -/
def VMCreate.validate (hostname template size : String) (diskGb : Int) (rootPassword : String) :
    Option VMCreate :=
  if h : isHostname (normalizeIdentifier hostname) = true ∧ isRootPassword rootPassword = true then
    some
      { hostname := normalizeIdentifier hostname, template := normalizeIdentifier template
        size := normalizeIdentifier size, diskGb, rootPassword
        hostname_valid := h.1, hostname_lower := isLowercase_normalizeIdentifier hostname
        rootPassword_valid := h.2 }
  else none

/-- The bodies that pass are those whose template and size are normalized. -/
theorem VMCreate.validate_iff (payload : VMCreate) :
    (∃ hostname template size diskGb rootPassword,
      VMCreate.validate hostname template size diskGb rootPassword = some payload) ↔
    normalizeIdentifier payload.template = payload.template ∧
      normalizeIdentifier payload.size = payload.size := by
  constructor
  · rintro ⟨hostname, template, size, diskGb, rootPassword, h⟩
    rw [validate, Option.dite_none_right_eq_some] at h
    obtain ⟨_, h⟩ := h
    obtain rfl := Option.some.inj h
    exact ⟨normalizeIdentifier_normalizeIdentifier _, normalizeIdentifier_normalizeIdentifier _⟩
  · rintro ⟨htemplate, hsize⟩
    refine ⟨payload.hostname, payload.template, payload.size, payload.diskGb,
      payload.rootPassword, ?_⟩
    have hhost := normalizeIdentifier_hostname payload.hostname_valid payload.hostname_lower
    have hvalid : isHostname (normalizeIdentifier payload.hostname) = true := by
      rw [hhost]
      exact payload.hostname_valid
    rw [validate, dif_pos ⟨hvalid, payload.rootPassword_valid⟩]
    cases payload
    simp only at hhost htemplate hsize ⊢
    simp only [hhost, htemplate, hsize]

structure ReinstallVM where
  confirmHostname : String
  template : Option String := none
  rootPassword : String
  rootPassword_valid : isRootPassword rootPassword = true

end Clusteration
