import Mathlib.Data.List.TakeDrop
import Mathlib.Data.List.TakeWhile
import Mathlib.Order.Bounds.Basic
import Clusteration.Panel.Http

open Unicode

namespace Clusteration

/-- The units of the sizes in a drive option. -/
inductive SizeUnit where
  | kib | mib | gib | tib
  deriving DecidableEq, Repr

namespace SizeUnit

def letter : SizeUnit → Char
  | kib => 'K'
  | mib => 'M'
  | gib => 'G'
  | tib => 'T'

def bytes : SizeUnit → Nat
  | kib => 1024
  | mib => 1024 ^ 2
  | gib => 1024 ^ 3
  | tib => 1024 ^ 4

/-- The factor of `parse_disk_size_gb`, as a quotient. -/
def factor : SizeUnit → Nat × Nat
  | kib => (1, 1024 * 1024)
  | mib => (1, 1024)
  | gib => (1, 1)
  | tib => (1024, 1)

theorem factor_bytes (u : SizeUnit) : u.factor.1 * 1024 ^ 3 = u.bytes * u.factor.2 := by
  cases u <;> rfl

theorem factor_pos (u : SizeUnit) : 0 < u.factor.2 := by
  cases u <;> decide

end SizeUnit

theorem roundEven_mul (num den : Nat) {c : Nat} (hc : 0 < c) :
    roundEven (num * c) (den * c) = roundEven num den := by
  have hlt : ∀ a b : Nat, a * c < b * c ↔ a < b := fun a b => Nat.mul_lt_mul_right hc
  rw [roundEven, roundEven, Nat.mul_div_mul_right _ _ hc, Nat.mul_mod_mul_right, ← Nat.mul_assoc]
  simp only [hlt]

theorem roundEven_dvd (num : Nat) {den : Nat} (hden : 0 < den) : roundEven (num * den) den = num := by
  rw [roundEven, Nat.mul_mod_left, if_pos (by omega), Nat.mul_div_cancel _ hden]

theorem ceil_double_mul (num den : Nat) {c : Nat} (hc : 0 < c) :
    Arithmetic.double.ceil (num * c) (den * c) = Arithmetic.double.ceil num den := by
  rw [Arithmetic.ceil, Arithmetic.ceil, Nat.mul_div_mul_right _ _ hc]
  have hup : ∀ k, roundEven (num * c * k) (den * c) = roundEven (num * k) den := by
    intro k
    rw [Nat.mul_right_comm, roundEven_mul _ _ hc]
  have hdown : ∀ k, roundEven (num * c) (den * c * k) = roundEven num (den * k) := by
    intro k
    rw [Nat.mul_right_comm, roundEven_mul _ _ hc]
  simp only [hup, hdown]

/-- Only the quotient matters. -/
theorem ceil_double_cross {num den num' den' : Nat} (hden : 0 < den) (hden' : 0 < den')
    (h : num * den' = num' * den) :
    Arithmetic.double.ceil num den = Arithmetic.double.ceil num' den' := by
  rw [← ceil_double_mul num den hden', h, Nat.mul_comm den, ceil_double_mul num' den' hden]

theorem ceil_exact_le {num den k : Nat} (hden : 0 < den) :
    Arithmetic.exact.ceil num den ≤ k ↔ num ≤ k * den := by
  rw [Arithmetic.ceil, Nat.div_le_iff_le_mul_add_pred hden, Nat.mul_comm k den]
  omega

theorem ceil_exact_mul (num : Nat) {den c : Nat} (hden : 0 < den) (hc : 0 < c) :
    Arithmetic.exact.ceil (num * c) (den * c) = Arithmetic.exact.ceil num den := by
  have hle : ∀ k, Arithmetic.exact.ceil (num * c) (den * c) ≤ k ↔ Arithmetic.exact.ceil num den ≤ k := by
    intro k
    rw [ceil_exact_le (Nat.mul_pos hden hc), ceil_exact_le hden, ← Nat.mul_assoc,
      Nat.mul_le_mul_right_iff hc]
  exact Nat.le_antisymm ((hle _).mpr (Nat.le_refl _)) ((hle _).mp (Nat.le_refl _))

/-- The quotient of a number of bytes with 53 binary digits at most is itself a double. -/
theorem ceil_double_bytes {bytes : Nat} (h : bytes < 2 ^ 53) :
    Arithmetic.double.ceil bytes (1024 ^ 3) = Arithmetic.exact.ceil bytes (1024 ^ 3) := by
  have hlog : Nat.log2 (bytes / 1024 ^ 3) ≤ 22 := by
    have hlt : bytes / 1024 ^ 3 < 2 ^ 23 := Nat.div_lt_of_lt_mul (by omega)
    by_cases hzero : bytes / 1024 ^ 3 = 0
    · rw [hzero]
      decide
    · exact Nat.le_of_lt_succ ((Nat.log2_lt hzero).mpr hlt)
  obtain ⟨k, hk⟩ := Nat.exists_eq_add_of_le hlog
  have hunit : 2 ^ (52 - Nat.log2 (bytes / 1024 ^ 3)) = 2 ^ k * 1024 ^ 3 := by
    have hexp : 52 - Nat.log2 (bytes / 1024 ^ 3) = k + 30 := by omega
    have hgib : 2 ^ 30 = 1024 ^ 3 := rfl
    rw [hexp, Nat.pow_add, hgib]
  have hpos : 0 < 2 ^ k := Nat.pos_of_ne_zero (by simp)
  rw [Arithmetic.ceil, if_pos (by omega), hunit, ← Nat.mul_assoc, roundEven_dvd _ (by omega),
    ← ceil_exact_mul bytes (by omega) hpos, Arithmetic.ceil, Nat.mul_comm (1024 ^ 3)]

/-- The letters of a unit under `re.IGNORECASE`. -/
def isUnit (u : Char) : Bool := ['K', 'M', 'G', 'T'].contains u.toUpper || u = '\u212a'

/-- `(?:i?B)?` under `re.IGNORECASE`. -/
def isByteSuffix : List Char → Bool
  | [] => true
  | [b] => b.toUpper = 'B'
  | [i, b] => ['i', 'I', '\u0130', '\u0131'].contains i && b.toUpper = 'B'
  | _ => false

/-- The field is `size=`, an amount and a unit, up to the case of the letters. -/
def ReadsAsSize (field : List Char) : Prop :=
  ∃ key whole frac unit suffix, field = key ++ whole ++ frac ++ unit :: suffix ∧
    isSizeKey key = true ∧ whole ≠ [] ∧ (∀ c ∈ whole, isDecimal c = true) ∧
    (frac = [] ∨ ∃ ds, ds ≠ [] ∧ frac = '.' :: ds ∧ ∀ c ∈ ds, isDecimal c = true) ∧
    isUnit unit = true ∧ isByteSuffix suffix = true

/-- `(?:,|$)`. -/
def endsField (xs : List Char) : Bool := xs = [] || xs = ['\n'] || xs.head? = some ','

/-- `(?:i?B)?(?:,|$)` at the head of a text. -/
def closes (tail : List Char) : Bool :=
  endsField tail ||
  (match tail with
    | b :: t => b.toUpper = 'B' && endsField t
    | [] => false) ||
  (match tail with
    | i :: t => ['i', 'I', '\u0130', '\u0131'].contains i &&
      (match t with
        | b :: t => b.toUpper = 'B' && endsField t
        | [] => false)
    | [] => false)

/-- The digits of `(?:\.\d+)?`, and what follows them. -/
def fraction (rest : List Char) : List Char × List Char :=
  match rest with
  | '.' :: more =>
    if (more.takeWhile isDecimal).isEmpty then ([], rest)
    else (more.takeWhile isDecimal, more.dropWhile isDecimal)
  | _ => ([], rest)

theorem matchSize_eq (cs : List Char) : matchSize cs =
    match (fraction (cs.dropWhile isDecimal)).2 with
    | [] => none
    | u :: tail =>
      if !(cs.takeWhile isDecimal).isEmpty && isUnit u && closes tail then
        some (((cs.takeWhile isDecimal) ++ (fraction (cs.dropWhile isDecimal)).1).foldl
            (fun n c => n * 10 + (digitValue c).getD 0) 0,
          10 ^ (fraction (cs.dropWhile isDecimal)).1.length, u.toUpper)
      else none := by
  unfold matchSize
  simp only [List.span_eq_takeWhile_dropWhile]
  rfl

theorem takeWhile_stop {p : Char → Bool} {c : Char} (hc : p c = false) (xs ys : List Char) :
    (xs ++ c :: ys).takeWhile p = xs.takeWhile p := by
  induction xs with
  | nil => simp [hc]
  | cons x xs ih =>
    rw [List.cons_append, List.takeWhile_cons, List.takeWhile_cons, ih]

theorem dropWhile_stop {p : Char → Bool} {c : Char} (hc : p c = false) (xs ys : List Char) :
    (xs ++ c :: ys).dropWhile p = xs.dropWhile p ++ c :: ys := by
  induction xs with
  | nil => simp [hc]
  | cons x xs ih =>
    rw [List.cons_append, List.dropWhile_cons, List.dropWhile_cons, ih]
    split
    · rfl
    · rfl

theorem endsField_field {g rest : List Char} (hg : ',' ∉ g) (h : endsField (g ++ ',' :: rest) = true) :
    g = [] := by
  cases g with
  | nil => rfl
  | cons c cs =>
    have hc : c ≠ ',' := fun hc => hg (by simp [hc])
    have hlen : cs ++ ',' :: rest ≠ [] := by simp
    simp [endsField, hc, hlen] at h

theorem bytes_field {g rest : List Char} (hg : ',' ∉ g)
    (h : (match g ++ ',' :: rest with
      | b :: t => decide (b.toUpper = 'B') && endsField t
      | [] => false) = true) : ∃ b, g = [b] ∧ b.toUpper = 'B' := by
  cases g with
  | nil => simp at h
  | cons b g =>
    obtain ⟨_, hg⟩ := not_or.mp (mt List.mem_cons.mpr hg)
    rw [List.cons_append, Bool.and_eq_true, decide_eq_true_eq] at h
    rw [endsField_field hg h.2]
    exact ⟨b, rfl, h.1⟩

theorem closes_field {g rest : List Char} (hg : ',' ∉ g) (h : closes (g ++ ',' :: rest) = true) :
    isByteSuffix g = true := by
  rw [closes.eq_def, Bool.or_eq_true, Bool.or_eq_true] at h
  obtain (h | h) | h := h
  · rw [endsField_field hg h]
    rfl
  · obtain ⟨b, rfl, hb⟩ := bytes_field hg h
    simp [isByteSuffix, hb]
  · cases g with
    | nil =>
      have hcomma : ['i', 'I', '\u0130', '\u0131'].contains ',' = false := by decide
      rw [List.nil_append] at h
      simp only [hcomma, Bool.false_and] at h
      cases h
    | cons i g =>
      obtain ⟨_, hg⟩ := not_or.mp (mt List.mem_cons.mpr hg)
      rw [List.cons_append, Bool.and_eq_true] at h
      obtain ⟨b, rfl, hb⟩ := bytes_field hg h.2
      simp only [isByteSuffix, h.1, hb, decide_true, Bool.and_self]

theorem isDecimal_comma : isDecimal ',' = false := by decide

theorem fraction_field {g rest : List Char} (hg : ',' ∉ g) :
    ∃ frac g', fraction (g ++ ',' :: rest) = (frac, g' ++ ',' :: rest) ∧
      ((frac = [] ∧ g = g') ∨
        (frac ≠ [] ∧ g = '.' :: frac ++ g' ∧ ∀ c ∈ frac, isDecimal c = true)) := by
  have hnone : ∀ xs : List Char, (∀ more, xs ≠ '.' :: more) → fraction xs = ([], xs) := by
    intro xs hxs
    rw [fraction]
    exact hxs
  cases g with
  | nil =>
    refine ⟨[], [], hnone _ ?_, Or.inl ⟨rfl, rfl⟩⟩
    intro more h
    cases h
  | cons c more =>
    by_cases hc : c = '.'
    · subst hc
      rw [List.cons_append, fraction, takeWhile_stop isDecimal_comma, dropWhile_stop isDecimal_comma]
      by_cases he : more.takeWhile isDecimal = []
      · rw [he, List.isEmpty_nil, if_pos rfl]
        exact ⟨[], '.' :: more, rfl, Or.inl ⟨rfl, rfl⟩⟩
      · have hne : (more.takeWhile isDecimal).isEmpty = false := by simpa using he
        rw [hne]
        refine ⟨_, more.dropWhile isDecimal, rfl, Or.inr ⟨he, ?_, fun c hc => List.mem_takeWhile_imp hc⟩⟩
        rw [List.cons_append, List.takeWhile_append_dropWhile]
    · refine ⟨[], c :: more, hnone _ ?_, Or.inl ⟨rfl, rfl⟩⟩
      intro more' h
      exact hc (List.cons.inj h).1

/-- A match at the head of a field is the whole field. -/
theorem matchSize_field {key g rest : List Char} {m : Nat × Nat × Char} (hkey : isSizeKey key = true)
    (hg : ',' ∉ g) (h : matchSize (g ++ ',' :: rest) = some m) : ReadsAsSize (key ++ g) := by
  rw [matchSize_eq, takeWhile_stop isDecimal_comma, dropWhile_stop isDecimal_comma] at h
  have hsplit := List.takeWhile_append_dropWhile (p := isDecimal) (l := g)
  have hdrop : ',' ∉ g.dropWhile isDecimal := fun hm => hg ((List.dropWhile_suffix _).subset hm)
  obtain ⟨frac, g', hf, hfrac⟩ := @fraction_field _ rest hdrop
  rw [hf] at h
  have hg' : ',' ∉ g' := by
    intro hm
    apply hdrop
    obtain ⟨_, heq⟩ | ⟨_, heq, _⟩ := hfrac
    · rwa [heq]
    · rw [heq]
      exact List.mem_append_right _ hm
  cases g' with
  | nil =>
    have hunit : isUnit ',' = false := by decide
    simp [hunit] at h
  | cons unit suffix =>
    rw [List.cons_append] at h
    dsimp only at h
    split at h
    · next hcond =>
      simp only [Bool.and_eq_true, Bool.not_eq_true', List.isEmpty_eq_false_iff] at hcond
      obtain ⟨⟨hwhole, hunit⟩, hcloses⟩ := hcond
      have hsuffix := closes_field (fun hm => hg' (List.mem_cons_of_mem _ hm)) hcloses
      have hdigits : ∀ c ∈ g.takeWhile isDecimal, isDecimal c = true :=
        fun c hc => List.mem_takeWhile_imp hc
      obtain ⟨_, heq⟩ | ⟨hne, heq, hdec⟩ := hfrac
      · refine ⟨key, _, [], unit, suffix, ?_, hkey, hwhole, hdigits, Or.inl rfl, hunit, hsuffix⟩
        rw [List.append_nil, List.append_assoc, ← heq, hsplit]
      · refine ⟨key, _, '.' :: frac, unit, suffix, ?_, hkey, hwhole, hdigits,
          Or.inr ⟨frac, hne, rfl, hdec⟩, hunit, hsuffix⟩
        rw [List.append_assoc, List.append_assoc, ← heq, hsplit]
    · cases h

/-- A match at the start of the text, if that is where a field starts. -/
def sizeHere (start : Bool) (cs : List Char) : Option (Nat × Nat × Char) :=
  if start && isSizeKey (cs.take 5) then matchSize (cs.drop 5) else none

theorem searchSize_cons (start : Bool) (c : Char) (cs : List Char) :
    searchSize start (c :: cs) = (sizeHere start (c :: cs)).or (searchSize (c = ',') cs) := by
  rw [searchSize, sizeHere]
  split
  · next m hm =>
    rw [hm]
    rfl
  · next hm =>
    rw [hm]
    rfl

theorem matchSize_scale {cs : List Char} {amount scale : Nat} {unit : Char}
    (h : matchSize cs = some (amount, scale, unit)) : 0 < scale := by
  rw [matchSize_eq] at h
  split at h
  · cases h
  · split at h
    · cases h
      exact Nat.pow_pos (by decide)
    · cases h

theorem searchSize_scale {start : Bool} {cs : List Char} {amount scale : Nat} {unit : Char}
    (h : searchSize start cs = some (amount, scale, unit)) : 0 < scale := by
  induction cs generalizing start with
  | nil => cases h
  | cons c cs ih =>
    rw [searchSize_cons] at h
    cases hhere : sizeHere start (c :: cs) with
    | none =>
      rw [hhere] at h
      exact ih h
    | some m =>
      rw [hhere] at h
      cases h
      rw [sizeHere] at hhere
      split at hhere
      · exact matchSize_scale hhere
      · cases hhere

theorem isSizeKey_comma {key : List Char} (h : isSizeKey key = true) : ',' ∉ key := by
  intro hm
  unfold isSizeKey at h
  split at h
  · simp only [List.mem_cons, List.not_mem_nil, or_false] at hm
    obtain rfl | rfl | rfl | rfl | rfl := hm
    · simp at h
    · simp at h
    · simp at h
    · simp at h
    · simp at h
  · cases h

theorem isSizeKey_length {key : List Char} (h : isSizeKey key = true) : key.length = 5 := by
  unfold isSizeKey at h
  split at h
  · rfl
  · cases h

/-- The search goes past a rest of a field. -/
theorem searchSize_inside {field rest : List Char} (hf : ',' ∉ field) :
    searchSize false (field ++ ',' :: rest) = searchSize true rest := by
  induction field with
  | nil => exact searchSize_cons false ',' rest
  | cons c cs ih =>
    obtain ⟨hc, hcs⟩ := not_or.mp (mt List.mem_cons.mpr hf)
    rw [List.cons_append, searchSize_cons, decide_eq_false (Ne.symm hc)]
    exact ih hcs

/-- The search goes past a field that is no size. -/
theorem searchSize_field {field rest : List Char} (hf : ',' ∉ field) (hs : ¬ReadsAsSize field) :
    searchSize true (field ++ ',' :: rest) = searchSize true rest := by
  have hnone : sizeHere true (field ++ ',' :: rest) = none := by
    by_contra hsome
    obtain ⟨m, hm⟩ := Option.ne_none_iff_exists'.mp hsome
    rw [sizeHere, Bool.true_and] at hm
    split at hm
    · next hkey =>
      have hlen : 5 ≤ field.length := by
        by_contra hshort
        -- a shorter field brings its comma into the key
        have hin : ',' ∈ (field ++ ',' :: rest).take 5 := by
          rw [List.take_append, List.take_of_length_le (by omega)]
          have hpos : 5 - field.length = (4 - field.length) + 1 := by omega
          rw [hpos, List.take_succ_cons]
          simp
        exact isSizeKey_comma hkey hin
      rw [List.take_append_of_le_length hlen] at hkey
      rw [List.drop_append_of_le_length hlen] at hm
      have hreads := matchSize_field hkey (fun h => hf (List.mem_of_mem_drop h)) hm
      rw [List.take_append_drop] at hreads
      exact hs hreads
    · cases hm
  cases field with
  | nil => rw [List.nil_append, searchSize_cons, ← List.nil_append (',' :: rest), hnone]; rfl
  | cons c cs =>
    obtain ⟨hc, hcs⟩ := not_or.mp (mt List.mem_cons.mpr hf)
    rw [List.cons_append, searchSize_cons, ← List.cons_append, hnone, decide_eq_false (Ne.symm hc)]
    exact searchSize_inside hcs

theorem searchSize_fields {fields : List (List Char)} {rest : List Char}
    (hf : ∀ field ∈ fields, ',' ∉ field ∧ ¬ReadsAsSize field) :
    searchSize true ((fields.map (· ++ [','])).flatten ++ rest) = searchSize true rest := by
  induction fields with
  | nil => rfl
  | cons field fields ih =>
    have hhead := hf field (List.mem_cons_self ..)
    rw [List.map_cons, List.flatten_cons, List.append_assoc, List.append_assoc, List.singleton_append,
      searchSize_field hhead.1 hhead.2]
    exact ih fun f hm => hf f (List.mem_cons_of_mem _ hm)

theorem digitValue_isDigit {c : Char} (h : c.isDigit = true) :
    digitValue c = some (c.toNat - '0'.toNat) := by
  simp only [Char.isDigit, Bool.and_eq_true, decide_eq_true_eq] at h
  have hlow : '0'.toNat ≤ c.toNat := h.1
  have hhigh : c.toNat ≤ '9'.toNat := h.2
  have hfind : ∀ zeros : List Nat,
      (0x30 :: zeros).find? (fun z => z ≤ c.toNat && c.toNat ≤ z + 9) = some 0x30 := by
    intro zeros
    apply List.find?_cons_of_pos
    simpa using And.intro hlow hhigh
  exact congrArg (Option.map fun z => c.toNat - z) (hfind _)

theorem digits_value (n : Nat) :
    (Nat.toDigits 10 n).foldl (fun n c => n * 10 + (digitValue c).getD 0) 0 = n := by
  have hdigit : ∀ c ∈ Nat.toDigits 10 n, c.isDigit = true :=
    fun c hc => Nat.isDigit_of_mem_toDigits (by decide) (by decide) hc
  have hstep : ∀ (ds : List Char) (acc : Nat), (∀ c ∈ ds, c.isDigit = true) →
      ds.foldl (fun n c => n * 10 + (digitValue c).getD 0) acc = Nat.ofDigitChars 10 ds acc := by
    intro ds
    induction ds with
    | nil => intro acc _; rfl
    | cons c cs ih =>
      intro acc h
      rw [List.foldl_cons, digitValue_isDigit (h c (List.mem_cons_self ..)), Option.getD_some,
        ih _ fun d hd => h d (List.mem_cons_of_mem _ hd), Nat.ofDigitChars_cons, Nat.mul_comm acc 10]
  rw [hstep _ 0 hdigit, Nat.ofDigitChars_ten_toDigits]

theorem matchSize_amount (n : Nat) (u : SizeUnit) {tail : List Char} (ht : endsField tail = true) :
    matchSize (Nat.toDigits 10 n ++ u.letter :: tail) = some (n, 1, u.letter) := by
  have hdec : ∀ c ∈ Nat.toDigits 10 n, isDecimal c = true := by
    intro c hc
    have hdigit : c.isDigit = true := Nat.isDigit_of_mem_toDigits (by decide) (by decide) hc
    rw [isDecimal, digitValue_isDigit hdigit]
    rfl
  have hunit : isUnit u.letter = true ∧ isDecimal u.letter = false ∧ u.letter.toUpper = u.letter := by
    cases u <;> decide
  have hfrac : fraction (u.letter :: tail) = ([], u.letter :: tail) := by
    cases u <;> rfl
  have hwhole : (Nat.toDigits 10 n).isEmpty = false := by simp
  have hcloses : closes tail = true := by
    rw [closes.eq_def, ht]
    rfl
  rw [matchSize_eq, takeWhile_stop hunit.2.1, dropWhile_stop hunit.2.1]
  rw [List.takeWhile_eq_self_iff.mpr hdec, List.dropWhile_eq_nil_iff.mpr hdec, List.nil_append, hfrac]
  dsimp only
  rw [hwhole, hunit.1, hcloses, List.append_nil, digits_value, hunit.2.2]
  rfl

theorem intercalate_fields (before : List (List Char)) (field : List Char) (after : List (List Char)) :
    ∃ tail, endsField tail = true ∧ [','].intercalate (before ++ field :: after) =
      (before.map (· ++ [','])).flatten ++ (field ++ tail) := by
  induction before with
  | nil =>
    cases after with
    | nil => exact ⟨[], rfl, by simp⟩
    | cons next after => exact ⟨',' :: [','].intercalate (next :: after), rfl, by simp⟩
  | cons first before ih =>
    obtain ⟨tail, htail, heq⟩ := ih
    refine ⟨tail, htail, ?_⟩
    have hne : before ++ field :: after ≠ [] := by simp
    rw [List.cons_append, List.intercalate_cons_of_ne_nil hne, heq]
    simp

/-- The field `size=` with this amount and unit. -/
def sizeField (n : Nat) (u : SizeUnit) : String := s!"size={n}{u.letter}"

theorem sizeField_toList (n : Nat) (u : SizeUnit) : (sizeField n u).toList =
    ['s', 'i', 'z', 'e', '='] ++ (Nat.toDigits 10 n ++ [u.letter]) := by
  have hletter : (toString u.letter).toList = [u.letter] := by
    cases u <;> rfl
  have hparts : sizeField n u = "size=" ++ toString n ++ toString u.letter := rfl
  have hdigits : (toString n).toList = Nat.toDigits 10 n := Nat.toList_repr
  rw [hparts, String.toList_append, String.toList_append, hletter, hdigits, List.append_assoc]
  rfl

theorem searchSize_option (n : Nat) (u : SizeUnit) (before after : List String)
    (hb : ∀ field ∈ before, ',' ∉ field.toList ∧ ¬ReadsAsSize field.toList) :
    searchSize true (",".intercalate (before ++ sizeField n u :: after)).toList =
      some (n, 1, u.letter) := by
  obtain ⟨tail, htail, heq⟩ := intercalate_fields (before.map String.toList) (sizeField n u).toList
    (after.map String.toList)
  have hfields : ∀ field ∈ before.map String.toList, ',' ∉ field ∧ ¬ReadsAsSize field := by
    intro field hm
    obtain ⟨f, hf, rfl⟩ := List.mem_map.mp hm
    exact hb f hf
  have hcomma : ",".toList = [','] := rfl
  rw [String.toList_intercalate, List.map_append, List.map_cons, hcomma, heq,
    searchSize_fields hfields, sizeField_toList, List.append_assoc, List.append_assoc,
    List.singleton_append]
  -- the size field is where the search stops
  have hhere : sizeHere true (['s', 'i', 'z', 'e', '='] ++ (Nat.toDigits 10 n ++ u.letter :: tail)) =
      some (n, 1, u.letter) := by
    have hkey : isSizeKey ['s', 'i', 'z', 'e', '='] = true := by decide
    have hrest := matchSize_amount n u htail
    change (if true && isSizeKey ['s', 'i', 'z', 'e', '='] then
      matchSize (Nat.toDigits 10 n ++ u.letter :: tail) else none) = _
    rw [hkey, hrest]
    rfl
  rw [List.cons_append, searchSize_cons, ← List.cons_append, hhere]
  rfl

/-- Over exact arithmetic, the size in GiB is the least one that holds the disk. -/
theorem ceilGb_exact_isLeast (num : Nat) {den : Nat} (hden : 0 < den) :
    ∃ gb : Nat, Arithmetic.exact.ceilGb num den = gb ∧ IsLeast {k : Nat | 1 ≤ k ∧ num ≤ k * den} gb := by
  refine ⟨max 1 (Arithmetic.exact.ceil num den), ?_, ?_, ?_⟩
  · rw [Arithmetic.ceilGb]
    omega
  · exact ⟨le_max_left _ _, (ceil_exact_le hden).mp (le_max_right _ _)⟩
  · intro k hk
    exact max_le hk.1 ((ceil_exact_le hden).mpr hk.2)

/-- The size that a match comes to. -/
theorem parseDiskSizeGb_found {value : String} {amount scale : Nat} {u : SizeUnit}
    {arithmetic : Arithmetic} (h : searchSize true value.toList = some (amount, scale, u.letter)) :
    parseDiskSizeGb value arithmetic =
      if arithmetic.tooLarge (amount * u.factor.1) scale then
        .error (.overflowError "cannot convert float infinity to integer")
      else .ok (some (arithmetic.ceilGb (amount * u.factor.1) (scale * u.factor.2))) := by
  rw [parseDiskSizeGb, h]
  cases u <;> rfl

theorem parseDiskSizeGb_option (n : Nat) (u : SizeUnit) (before after : List String)
    (hb : ∀ field ∈ before, ',' ∉ field.toList ∧ ¬ReadsAsSize field.toList) :
    ∃ gb : Nat, parseDiskSizeGb (",".intercalate (before ++ sizeField n u :: after)) .exact =
        .ok (some gb) ∧ IsLeast {k : Nat | 1 ≤ k ∧ n * u.bytes ≤ k * 1024 ^ 3} gb := by
  obtain ⟨gb, hgb, hleast⟩ := ceilGb_exact_isLeast (n * u.factor.1) u.factor_pos
  refine ⟨gb, ?_, ?_⟩
  · rw [parseDiskSizeGb_found (searchSize_option n u before after hb), Nat.one_mul, hgb]
    rfl
  · have hiff : ∀ k, n * u.bytes ≤ k * 1024 ^ 3 ↔ n * u.factor.1 ≤ k * u.factor.2 := by
      intro k
      have hscaled : n * u.factor.1 * 1024 ^ 3 = n * u.bytes * u.factor.2 := by
        rw [Nat.mul_assoc, u.factor_bytes, Nat.mul_assoc]
      rw [← Nat.mul_le_mul_right_iff u.factor_pos, ← hscaled, Nat.mul_right_comm k,
        Nat.mul_le_mul_right_iff (show 0 < 1024 ^ 3 by omega)]
    simpa only [hiff] using hleast

theorem diskSizeGbFromResource_bytes {bytes : Nat} (h : 0 < bytes) :
    ∃ gb : Nat, diskSizeGbFromResource (some [("maxdisk", .int bytes)]) .exact = .ok (some gb) ∧
      IsLeast {k : Nat | 1 ≤ k ∧ bytes ≤ k * 1024 ^ 3} gb := by
  obtain ⟨gb, hgb, hleast⟩ := ceilGb_exact_isLeast bytes (show 0 < 1024 ^ 3 by omega)
  refine ⟨gb, ?_, hleast⟩
  have hread : (Dict.get [("maxdisk", .int bytes)] "maxdisk").toInt = .ok (bytes : Int) := rfl
  rw [diskSizeGbFromResource, hread]
  dsimp only
  rw [if_neg (by omega), Int.toNat_natCast, hgb]
  rfl

/-- The size in a drive option and the same size in bytes are read alike, as the least number of GiB
that holds the disk. -/
theorem parseDiskSizeGb_eq_resource (n : Nat) (u : SizeUnit) (before after : List String) (hn : 0 < n)
    (hb : ∀ field ∈ before, ',' ∉ field.toList ∧ ¬ReadsAsSize field.toList) :
    ∃ gb : Nat, parseDiskSizeGb (",".intercalate (before ++ sizeField n u :: after)) .exact =
        .ok (some gb) ∧
      diskSizeGbFromResource (some [("maxdisk", .int (n * u.bytes))]) .exact = .ok (some gb) ∧
      IsLeast {k : Nat | 1 ≤ k ∧ n * u.bytes ≤ k * 1024 ^ 3} gb := by
  have hbytes : 0 < n * u.bytes := Nat.mul_pos hn (by cases u <;> decide)
  obtain ⟨gb, hparse, hleast⟩ := parseDiskSizeGb_option n u before after hb
  obtain ⟨gb', hresource, hleast'⟩ := diskSizeGbFromResource_bytes hbytes
  have hsame : gb = gb' := IsLeast.unique hleast hleast'
  rw [← hsame, Int.natCast_mul] at hresource
  exact ⟨gb, hparse, hresource, hleast⟩

theorem ReadsAsSize.key {field : List Char} (h : ReadsAsSize field) :
    isSizeKey (field.take 5) = true := by
  obtain ⟨key, whole, frac, unit, suffix, rfl, hkey, _⟩ := h
  rw [List.append_assoc, List.append_assoc, List.take_left' (isSizeKey_length hkey)]
  exact hkey

theorem parseDiskSizeGb_eq_resource_volume :
    ∃ gb : Nat, parseDiskSizeGb "local-lvm:vm-9001-disk-0,size=11776M,ssd=1" .exact = .ok (some gb) ∧
      diskSizeGbFromResource (some [("maxdisk", .int (11776 * 1024 ^ 2))]) .exact = .ok (some gb) ∧
      IsLeast {k : Nat | 1 ≤ k ∧ 11776 * 1024 ^ 2 ≤ k * 1024 ^ 3} gb := by
  refine parseDiskSizeGb_eq_resource 11776 .mib ["local-lvm:vm-9001-disk-0"] ["ssd=1"] (by decide) ?_
  intro field hm
  obtain rfl := List.mem_singleton.mp hm
  exact ⟨by decide, fun h => absurd h.key (by decide)⟩

/-- A field that starts with `Size=` is read as well. -/
theorem parseDiskSizeGb_ignores_case :
    ¬∀ (n : Nat) (u : SizeUnit) (before after : List String), 0 < n →
      (∀ field ∈ before ++ after, ',' ∉ field.toList ∧ ¬"size=".toList <+: field.toList) →
      parseDiskSizeGb (",".intercalate (before ++ sizeField n u :: after)) .exact =
        diskSizeGbFromResource (some [("maxdisk", .int (n * u.bytes))]) .exact := by
  intro h
  have hread := h 12 .gib ["Size=5G"] [] (by decide) (by decide)
  have hparse : parseDiskSizeGb "Size=5G,size=12G" .exact = .ok (some 5) := by rfl
  have hresource : diskSizeGbFromResource (some [("maxdisk", .int (12 * 1024 ^ 3))]) .exact =
      .ok (some 12) := by rfl
  have hsame := hparse.symm.trans (hread.trans hresource)
  cases hsame

end Clusteration
