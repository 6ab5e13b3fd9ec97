import Mathlib.Data.List.Forall2

namespace Markup

/-- Where the tokenizer is: in text, behind `<`, behind `</`, in a tag, or in one of its quoted
values. A comment or a declaration is not looked into: all that follows is `raw`. -/
inductive Mode where
  | text
  | lt
  | slash
  | tag
  | double
  | single
  | raw
  deriving DecidableEq, Repr

/-- The mode after a character, and the characters that have turned out to be markup. -/
def step (m : Mode) (c : Char) : Mode × List Char :=
  match m with
  | .text => if c = '<' then (.lt, []) else (.text, [])
  | .lt =>
    if c.isAlpha then (.tag, ['<', c])
    else if c = '/' then (.slash, [])
    else if c = '!' ∨ c = '?' then (.raw, ['<', c])
    else if c = '<' then (.lt, [])
    else (.text, [])
  | .slash =>
    if c.isAlpha then (.tag, ['<', '/', c])
    else if c = '>' then (.text, [])
    else (.raw, ['<', '/', c])
  | .tag =>
    if c = '>' then (.text, [c])
    else if c = '"' then (.double, [c])
    else if c = '\'' then (.single, [c])
    else (.tag, [c])
  | .double => if c = '"' then (.tag, [c]) else (.double, [])
  | .single => if c = '\'' then (.tag, [c]) else (.single, [])
  | .raw => (.raw, [c])

def scan (m : Mode) : List Char → Mode × List Char
  | [] => (m, [])
  | c :: cs => ((scan (step m c).1 cs).1, (step m c).2 ++ (scan (step m c).1 cs).2)

/-- The tags of a page, with the names of their attributes and the quotes around the values. -/
def marks (html : List Char) : List Char := (scan .text html).2

theorem scan_append (m : Mode) (a b : List Char) :
    scan m (a ++ b) = ((scan (scan m a).1 b).1, (scan m a).2 ++ (scan (scan m a).1 b).2) := by
  induction a generalizing m with
  | nil => simp [scan]
  | cons c a ih => simp [scan, ih]

/-- The modes in which a page has room for text. -/
def Mode.holds : Mode → Bool
  | text | double | single => true
  | lt | slash | tag | raw => false

/-- Text with none of these characters is no markup, neither outside the tags nor in a value. -/
def Inert (s : String) : Prop := ∀ c ∈ s.toList, c ≠ '<' ∧ c ≠ '"' ∧ c ≠ '\''

theorem scan_inert {m : Mode} (hm : m.holds = true) {s : String} (h : Inert s) :
    scan m s.toList = (m, []) := by
  unfold Inert at h
  generalize s.toList = cs at h
  induction cs with
  | nil => rfl
  | cons c cs ih =>
    have hc := h c List.mem_cons_self
    have hstep : step m c = (m, []) := by
      cases m <;> simp_all [Mode.holds, step]
    have hrest := ih fun d hd => h d (List.mem_cons_of_mem _ hd)
    simp [scan, hstep, hrest]

theorem Inert.append {s t : String} (hs : Inert s) (ht : Inert t) : Inert (s ++ t) := by
  intro c hc
  rw [String.toList_append] at hc
  exact (List.mem_append.mp hc).elim (hs c) (ht c)

/-- `<` before this text opens a tag or a comment; what follows the text starts with `<`. -/
def startsTag : List Char → Bool
  | [] => false
  | c :: cs => c.isAlpha || c = '!' || c = '?' || (c = '/' && cs.head? ≠ some '>')

/-- A tag or a comment is opened somewhere in the text. -/
def opensMarkup : List Char → Bool
  | [] => false
  | c :: cs => (c = '<' && startsTag cs) || opensMarkup cs

/-- The tokenizer has seen no markup, and is not about to. -/
def Quiet (r : Mode × List Char) : Prop := r.2 = [] ∧ (r.1 = .text ∨ r.1 = .lt)

theorem quiet_cons {m : Mode} {c : Char} {cs : List Char} (h : (step m c).2 = []) :
    Quiet (scan m (c :: cs)) ↔ Quiet (scan (step m c).1 cs) := by
  simp [Quiet, scan, h]

theorem not_quiet_cons {m : Mode} {c : Char} {cs : List Char} (h : (step m c).2 ≠ []) :
    ¬ Quiet (scan m (c :: cs)) := by
  intro hq
  exact h (List.append_eq_nil_iff.mp hq.1).1

/-- A `<` that starts no tag is text. -/
theorem quiet_lt_iff (cs : List Char) :
    Quiet (scan .lt cs) ↔ startsTag cs = false ∧ Quiet (scan .text cs) := by
  cases cs with
  | nil => simp [Quiet, scan, startsTag]
  | cons c cs =>
    by_cases halpha : c.isAlpha = true
    · have hstep : (step .lt c).2 ≠ [] := by simp [step, halpha]
      simp [not_quiet_cons hstep, startsTag, halpha]
    by_cases hslash : c = '/'
    · subst hslash
      have hlt : step .lt '/' = (.slash, []) := rfl
      have htext : step .text '/' = (.text, []) := rfl
      rw [quiet_cons (by rw [hlt]), quiet_cons (by rw [htext]), hlt, htext]
      cases cs with
      | nil => simp [Quiet, scan, startsTag]
      | cons c cs =>
        by_cases hgt : c = '>'
        · subst hgt
          rw [quiet_cons rfl, quiet_cons rfl]
          have hmode : (step .slash '>').1 = (step .text '>').1 := rfl
          simp [startsTag, hmode]
        · have hstep : (step .slash c).2 ≠ [] := by
            unfold step
            split_ifs <;> simp
          simp [not_quiet_cons hstep, startsTag, hgt]
    by_cases hbang : c = '!' ∨ c = '?'
    · have hstep : (step .lt c).2 ≠ [] := by simp [step, halpha, hslash, hbang]
      rcases hbang with rfl | rfl <;> simp [not_quiet_cons hstep, startsTag]
    · have hsame : step .lt c = step .text c := by simp [step, halpha, hslash, hbang]
      have hnone : (step .text c).2 = [] := by
        unfold step
        split_ifs <;> rfl
      rw [quiet_cons (hsame ▸ hnone), quiet_cons hnone, hsame]
      rw [not_or] at hbang
      simp [startsTag, halpha, hslash, hbang.1, hbang.2]

theorem quiet_text_iff (cs : List Char) : Quiet (scan .text cs) ↔ opensMarkup cs = false := by
  induction cs with
  | nil => simp [Quiet, scan, opensMarkup]
  | cons c cs ih =>
    by_cases hc : c = '<'
    · subst hc
      rw [quiet_cons rfl]
      have hmode : (step .text '<').1 = .lt := rfl
      rw [hmode, quiet_lt_iff, ih]
      simp [opensMarkup]
    · have hstep : step .text c = (.text, []) := by simp [step, hc]
      rw [quiet_cons (by rw [hstep]), hstep, ih]
      simp [opensMarkup, hc]

/-- A tag is entered, or left for raw text, only with markup seen. -/
theorem mode_of_no_marks {m : Mode} {cs : List Char} (h : (scan m cs).2 = [])
    (hm : m = .text ∨ m = .lt ∨ m = .slash) :
    (scan m cs).1 = .text ∨ (scan m cs).1 = .lt ∨ (scan m cs).1 = .slash := by
  induction cs generalizing m with
  | nil => exact hm
  | cons c cs ih =>
    obtain ⟨hstep, hrest⟩ := List.append_eq_nil_iff.mp h
    apply ih hrest
    revert hstep
    rcases hm with rfl | rfl | rfl <;> unfold step <;> dsimp only <;> split_ifs <;> simp

/-- A value in single quotes is entered by its quote. -/
theorem quote_of_single {m : Mode} {cs : List Char} (h : (scan m cs).1 = .single)
    (hm : m ≠ .single) : '\'' ∈ (scan m cs).2 := by
  induction cs generalizing m with
  | nil => exact absurd h hm
  | cons c cs ih =>
    by_cases hnext : (step m c).1 = .single
    · apply List.mem_append_left
      revert hnext hm
      cases m <;> unfold step <;> dsimp only <;> (try split_ifs) <;> simp [*]
    · exact List.mem_append_right _ (ih h hnext)

/-- The characters read that may still turn out to be markup. -/
def Mode.pending : Mode → Nat
  | text | tag | double | single | raw => 0
  | lt => 1
  | slash => 2

theorem length_marks_le (m : Mode) (cs : List Char) :
    (scan m cs).2.length ≤ cs.length + m.pending := by
  induction cs generalizing m with
  | nil => simp [scan]
  | cons c cs ih =>
    have hstep : (step m c).2.length + (step m c).1.pending ≤ 1 + m.pending := by
      generalize hr : step m c = r
      cases m <;> unfold step at hr <;> dsimp only at hr <;> (try split_ifs at hr) <;> subst hr <;>
        simp [Mode.pending]
    have hrest := ih (step m c).1
    simp only [scan, List.length_append, List.length_cons]
    omega

theorem scan_raw (cs : List Char) : scan .raw cs = (.raw, cs) := by
  induction cs with
  | nil => rfl
  | cons c cs ih =>
    have hstep : step .raw c = (.raw, [c]) := rfl
    rw [scan, hstep, ih]
    rfl

/-- The rest of a page behind text: it starts with an end tag, has no single quotes, and could not
follow a value in double quotes. -/
structure Closes (rest : List Char) : Prop where
  endTag : ∃ c, c.isAlpha = true ∧ ['<', '/', c] <+: rest
  double : ¬ (scan .double rest).2 <:+ (scan .text rest).2
  single : '\'' ∉ (scan .text rest).2

theorem Closes.lt {rest : List Char} (h : Closes rest) : (scan .lt rest).2 = (scan .text rest).2 := by
  obtain ⟨c, _, cs, rfl⟩ := h.endTag
  rfl

theorem Closes.tag {rest : List Char} (h : Closes rest) :
    (scan .tag rest).2 = (scan .text rest).2 := by
  obtain ⟨c, halpha, cs, rfl⟩ := h.endTag
  have hslash : step .slash c = (.tag, ['<', '/', c]) := by simp [step, halpha]
  have htag : step .tag c = (.tag, [c]) := by
    unfold step
    dsimp only
    split_ifs with hgt hdouble hsingle
    · subst hgt
      cases halpha
    · subst hdouble
      cases halpha
    · subst hsingle
      cases halpha
    · rfl
  have hlt : step .tag '<' = (.tag, ['<']) := rfl
  have hend : step .tag '/' = (.tag, ['/']) := rfl
  have hopen : step .text '<' = (.lt, []) := rfl
  have hclose : step .lt '/' = (.slash, []) := rfl
  simp [scan, hslash, htag, hlt, hend, hopen, hclose]

theorem Closes.slash {rest : List Char} (h : Closes rest) :
    (scan .text rest).2.length < (scan .slash rest).2.length := by
  have hle := length_marks_le .text rest
  obtain ⟨c, _, cs, rfl⟩ := h.endTag
  have hraw : step .slash '<' = (.raw, ['<', '/', '<']) := rfl
  have hlong : (scan .slash (['<', '/', c] ++ cs)).2 = ['<', '/', '<'] ++ ('/' :: c :: cs) := by
    rw [List.cons_append, scan, hraw, scan_raw]
    rfl
  rw [hlong]
  simp only [List.length_append, List.length_cons, Mode.pending] at hle ⊢
  omega

/-- Text leaves the markup of a page as it is just when it opens no tag and no comment. -/
theorem Closes.marks_iff {rest : List Char} (h : Closes rest) (cs : List Char) :
    (scan .text (cs ++ rest)).2 = (scan .text rest).2 ↔ opensMarkup cs = false := by
  rw [← quiet_text_iff, scan_append]
  dsimp only
  generalize hscan : scan .text cs = r
  obtain ⟨m, marks⟩ := r
  constructor
  · intro heq
    have hlength := congrArg List.length heq
    rw [List.length_append] at hlength
    have hnone : marks = [] → m = .text ∨ m = .lt ∨ m = .slash := by
      intro hmarks
      have hmode := @mode_of_no_marks .text cs (by rw [hscan]; exact hmarks) (Or.inl rfl)
      rwa [hscan] at hmode
    cases m with
    | text =>
      have hzero : marks.length = 0 := by dsimp only at hlength; omega
      exact ⟨List.length_eq_zero_iff.mp hzero, Or.inl rfl⟩
    | lt =>
      have hzero : marks.length = 0 := by
        have := congrArg List.length h.lt
        dsimp only at hlength
        omega
      exact ⟨List.length_eq_zero_iff.mp hzero, Or.inr rfl⟩
    | slash =>
      have := h.slash
      dsimp only at hlength
      omega
    | tag =>
      have hzero : marks.length = 0 := by
        have := congrArg List.length h.tag
        dsimp only at hlength
        omega
      have := hnone (List.length_eq_zero_iff.mp hzero)
      simp at this
    | double => exact absurd ⟨marks, heq⟩ h.double
    | single =>
      have hquote := @quote_of_single .text cs (by rw [hscan]) (by decide)
      rw [hscan] at hquote
      apply absurd _ h.single
      rw [← heq]
      exact List.mem_append_left _ hquote
    | raw =>
      have hzero : marks.length = 0 := by
        have := length_marks_le .text rest
        simp only [scan_raw] at hlength
        simp only [Mode.pending] at this
        omega
      have := hnone (List.length_eq_zero_iff.mp hzero)
      simp at this
  · rintro ⟨hmarks, hmode⟩
    dsimp only at hmarks hmode
    subst hmarks
    rcases hmode with rfl | rfl
    · rfl
    · exact h.lt

/-- A page with holes, for data of a type. -/
inductive Page : Type → Type 1 where
  | lit {D : Type} (s : String) : Page D
  | hole {D : Type} (f : D → String) : Page D
  | cat {D : Type} (a b : Page D) : Page D
  | cond {D : Type} (c : D → Bool) (a b : Page D) : Page D
  | each {D E : Type} (f : D → List E) (t : Page E) : Page D

namespace Page

def seq {D : Type} (parts : List (Page D)) : Page D := parts.foldr cat (lit "")

def fill {D : Type} : Page D → D → String
  | lit s, _ => s
  | hole f, d => f d
  | cat a b, d => a.fill d ++ b.fill d
  | cond c a b, d => if c d then a.fill d else b.fill d
  | each f t, d => String.join ((f d).map t.fill)

/-- The mode at the end of the page, if the holes are where there is room for text and the
alternatives end in the same mode. -/
def ends {D : Type} : Page D → Mode → Option Mode
  | lit s, m => some (scan m s.toList).1
  | hole _, m => if m.holds then some m else none
  | cat a b, m => (a.ends m).bind b.ends
  | cond _ a b, m => (a.ends m).bind fun m₁ => (b.ends m).bind fun m₂ =>
    if m₁ = m₂ then some m₁ else none
  | each _ t, m => (t.ends m).bind fun m₁ => if m₁ = m then some m else none

/-- What comes into the holes is inert. -/
def Safe {D : Type} : Page D → Prop
  | lit _ => True
  | hole f => ∀ d, Inert (f d)
  | cat a b => a.Safe ∧ b.Safe
  | cond _ a b => a.Safe ∧ b.Safe
  | each _ t => t.Safe

/-- The markup of the page itself. -/
def markup {D : Type} : Page D → Mode → D → List Char
  | lit s, m, _ => (scan m s.toList).2
  | hole _, _, _ => []
  | cat a b, m, d => a.markup m d ++ b.markup ((a.ends m).getD m) d
  | cond c a b, m, d => if c d then a.markup m d else b.markup m d
  | each f t, m, d => (f d).flatMap (t.markup m)

theorem ends_cat {D : Type} {a b : Page D} {m m₁ m₂ : Mode} (ha : a.ends m = some m₁)
    (hb : b.ends m₁ = some m₂) : (cat a b).ends m = some m₂ := by
  rw [ends, ha]
  exact hb

theorem ends_cond {D : Type} {c : D → Bool} {a b : Page D} {m m₁ : Mode} (ha : a.ends m = some m₁)
    (hb : b.ends m = some m₁) : (cond c a b).ends m = some m₁ := by
  rw [ends, ha, hb]
  exact if_pos rfl

theorem ends_each {D E : Type} {f : D → List E} {t : Page E} {m : Mode} (h : t.ends m = some m) :
    (each f t).ends m = some m := by
  rw [ends, h]
  exact if_pos rfl

theorem markup_cat {D : Type} {a b : Page D} {m m₁ : Mode} (h : a.ends m = some m₁) (d : D) :
    (cat a b).markup m d = a.markup m d ++ b.markup m₁ d := by
  rw [markup, h]
  rfl

theorem scan_join {E : Type} {render : E → String} {m : Mode} {marks : E → List Char}
    (h : ∀ row, scan m (render row).toList = (m, marks row)) (rows : List E) :
    scan m (String.join (rows.map render)).toList = (m, rows.flatMap marks) := by
  induction rows with
  | nil => rfl
  | cons row rows ih =>
    have hjoin : (String.join ((row :: rows).map render)).toList =
        (render row).toList ++ (String.join (rows.map render)).toList := by
      simp [String.toList_join]
    rw [hjoin, scan_append, h row, ih]
    rfl

/-- What fills the holes of a page adds no markup to it. -/
theorem scan_fill {D : Type} {t : Page D} {m m' : Mode} (h : t.ends m = some m')
    (hsafe : t.Safe) (d : D) : scan m (t.fill d).toList = (m', t.markup m d) := by
  induction t generalizing m m' with
  | lit s =>
    injection h with h
    rw [← h]
    rfl
  | hole f =>
    unfold ends at h
    split at h
    · next hm =>
      injection h with h
      rw [fill, scan_inert hm (hsafe d), h]
      rfl
    · cases h
  | cat a b iha ihb =>
    obtain ⟨m₁, ha, hb⟩ := Option.bind_eq_some_iff.mp h
    rw [fill, String.toList_append, scan_append, iha ha hsafe.1 d, ihb hb hsafe.2 d, markup, ha]
    rfl
  | cond c a b iha ihb =>
    obtain ⟨m₁, ha, h⟩ := Option.bind_eq_some_iff.mp h
    obtain ⟨m₂, hb, h⟩ := Option.bind_eq_some_iff.mp h
    split at h
    · next heq =>
      injection h with h
      subst heq h
      unfold fill markup
      split
      · exact iha ha hsafe.1 d
      · exact ihb hb hsafe.2 d
    · cases h
  | each f t ih =>
    obtain ⟨m₁, ht, h⟩ := Option.bind_eq_some_iff.mp h
    split at h
    · next heq =>
      injection h with h
      subst heq h
      unfold fill markup
      exact scan_join (fun row => ih ht hsafe row) (f d)
    · cases h

theorem marks_fill {D : Type} {t : Page D} {m : Mode} (h : t.ends .text = some m)
    (hsafe : t.Safe) (d : D) : marks (t.fill d).toList = t.markup .text d := by
  rw [marks, scan_fill h hsafe d]

end Page

end Markup
