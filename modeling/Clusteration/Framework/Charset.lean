import Mathlib.Data.List.Basic

namespace Charset

abbrev Bytes := List UInt8

def isAscii (bytes : Bytes) : Bool := bytes.all fun b => b.toNat < 128

def decodeLatin1 (bytes : Bytes) : List Char := bytes.map Char.ofUInt8

def decodeAscii (bytes : Bytes) : Option (List Char) :=
  if isAscii bytes then some (decodeLatin1 bytes) else none

def decodeUtf8 (bytes : Bytes) : Option (List Char) :=
  (String.fromUTF8? bytes.toByteArray).map String.toList

/-- A character beyond the 256 of Latin-1 has no code. -/
def encodeLatin1 : List Char → Option Bytes
  | [] => some []
  | c :: text =>
    if c.toNat < 256 then (encodeLatin1 text).map (UInt8.ofNat c.toNat :: ·) else none

theorem toNat_ofUInt8 (b : UInt8) : (Char.ofUInt8 b).toNat = b.toNat := rfl

theorem encodeLatin1_eq_some {text : List Char} {bytes : Bytes} :
    encodeLatin1 text = some bytes ↔ text = decodeLatin1 bytes := by
  induction text generalizing bytes with
  | nil => cases bytes <;> simp [encodeLatin1, decodeLatin1]
  | cons c text ih =>
    unfold encodeLatin1
    constructor
    · intro h
      split at h
      · next hc =>
        obtain ⟨rest, hrest, rfl⟩ := Option.map_eq_some_iff.mp h
        have hchar : c = Char.ofUInt8 (UInt8.ofNat c.toNat) := by
          apply Char.toNat_inj.mp
          rw [toNat_ofUInt8, UInt8.toNat_ofNat', Nat.mod_eq_of_lt hc]
        rw [ih.mp hrest]
        exact congrArg (· :: decodeLatin1 rest) hchar
      · cases h
    · intro h
      cases bytes with
      | nil => cases h
      | cons b bytes =>
        obtain ⟨rfl, htext⟩ : c = Char.ofUInt8 b ∧ text = decodeLatin1 bytes := by
          simpa [decodeLatin1] using h
        rw [toNat_ofUInt8, if_pos b.toNat_lt, ih.mpr htext]
        simp

theorem encodeLatin1_decodeLatin1 (bytes : Bytes) :
    encodeLatin1 (decodeLatin1 bytes) = some bytes :=
  encodeLatin1_eq_some.mpr rfl

theorem encodeLatin1_decodeAscii {bytes : Bytes} {text : List Char}
    (h : decodeAscii bytes = some text) : encodeLatin1 text = some bytes := by
  unfold decodeAscii at h
  split at h
  · injection h with h
    rw [← h, encodeLatin1_decodeLatin1]
  · cases h

theorem decodeUtf8_eq_some {bytes : Bytes} {text : List Char} (h : decodeUtf8 bytes = some text) :
    text.flatMap String.utf8EncodeChar = bytes := by
  obtain ⟨s, hs, rfl⟩ := Option.map_eq_some_iff.mp h
  have harray : s.toByteArray = bytes.toByteArray := by
    unfold String.fromUTF8? at hs
    split at hs
    · injection hs with hs
      rw [← hs]
      rfl
    · cases hs
  have hencode : s.toList.utf8Encode = bytes.toByteArray := by
    rw [← harray, ← String.toByteArray_ofList, String.ofList_toList]
  have hdata : (s.toList.flatMap String.utf8EncodeChar).toByteArray.data = bytes.toByteArray.data :=
    congrArg ByteArray.data hencode
  simpa using hdata

theorem utf8EncodeChar_of_lt {c : Char} (h : c.toNat < 128) :
    String.utf8EncodeChar c = [UInt8.ofNat c.toNat] := by
  have hsize : c.utf8Size = 1 := by
    rw [Char.utf8Size_eq_one_iff, UInt32.le_iff_toNat_le]
    have hval : c.toNat = c.val.toNat := rfl
    have hbound : (127 : UInt32).toNat = 127 := rfl
    omega
  rw [String.utf8EncodeChar_eq_singleton hsize]
  rfl

theorem lt_of_length_flatMap_le {text : List Char}
    (h : (text.flatMap String.utf8EncodeChar).length ≤ text.length) : ∀ c ∈ text, c.toNat < 128 := by
  have hpos : ∀ l : List Char, l.length ≤ (l.flatMap String.utf8EncodeChar).length := by
    intro l
    induction l with
    | nil => simp
    | cons c l ih =>
      have hc := Char.utf8Size_pos c
      simp only [List.flatMap_cons, List.length_append, List.length_cons, String.length_utf8EncodeChar]
      omega
  induction text with
  | nil => simp
  | cons c text ih =>
    have hc := Char.utf8Size_pos c
    have htext := hpos text
    simp only [List.flatMap_cons, List.length_append, List.length_cons,
      String.length_utf8EncodeChar] at h
    have hsize : c.utf8Size = 1 := by omega
    rw [Char.utf8Size_eq_one_iff, UInt32.le_iff_toNat_le] at hsize
    have hval : c.toNat = c.val.toNat := rfl
    have hbound : (127 : UInt32).toNat = 127 := rfl
    intro d hd
    rcases List.mem_cons.mp hd with rfl | hd
    · omega
    · exact ih (by omega) d hd

theorem flatMap_decodeLatin1 {bytes : Bytes} (h : isAscii bytes = true) :
    (decodeLatin1 bytes).flatMap String.utf8EncodeChar = bytes := by
  induction bytes with
  | nil => rfl
  | cons b bytes ih =>
    simp only [isAscii, List.all_cons, Bool.and_eq_true, decide_eq_true_eq] at h
    have hb : String.utf8EncodeChar (Char.ofUInt8 b) = [b] := by
      rw [utf8EncodeChar_of_lt (c := Char.ofUInt8 b) h.1, toNat_ofUInt8, UInt8.ofNat_toNat]
    have hrest := ih h.2
    unfold decodeLatin1 at hrest ⊢
    rw [List.map_cons, List.flatMap_cons, hb, hrest]
    rfl

theorem flatMap_utf8EncodeChar_inj {text text' : List Char}
    (h : text.flatMap String.utf8EncodeChar = text'.flatMap String.utf8EncodeChar) :
    text = text' := by
  have hencode : text.utf8Encode = text'.utf8Encode := congrArg List.toByteArray h
  rw [← String.toByteArray_ofList, ← String.toByteArray_ofList, String.toByteArray_inj] at hencode
  exact String.ofList_injective hencode

/-- A text read as UTF-8 is written back as Latin-1 just when it is ASCII. -/
theorem encodeLatin1_decodeUtf8_iff {bytes : Bytes} {text : List Char}
    (h : decodeUtf8 bytes = some text) :
    encodeLatin1 text = some bytes ↔ isAscii bytes = true := by
  have hbytes := decodeUtf8_eq_some h
  rw [encodeLatin1_eq_some]
  constructor
  · intro htext
    have hlength : text.length = bytes.length := by rw [htext, decodeLatin1, List.length_map]
    have hle : (text.flatMap String.utf8EncodeChar).length ≤ text.length := by
      rw [hbytes]
      exact Nat.le_of_eq hlength.symm
    have hsmall := lt_of_length_flatMap_le hle
    apply List.all_eq_true.mpr
    intro b hb
    have hmem : Char.ofUInt8 b ∈ text := by
      rw [htext]
      exact List.mem_map_of_mem hb
    exact decide_eq_true (hsmall _ hmem)
  · intro hascii
    apply flatMap_utf8EncodeChar_inj
    rw [hbytes, flatMap_decodeLatin1 hascii]

end Charset
