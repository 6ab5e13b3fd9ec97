import Mathlib
import Clusteration.Front.System

open Async Unicode

namespace Clusteration.Front

/-- Letters, digits and hyphens, and the dot between labels. -/
def isNameChar (c : Char) : Bool := c.isAlphanum || c = '-' || c = '.'

/-- Dot-separated labels, none of them empty. -/
def isDomain (domain : String) : Bool :=
  let cs := domain.toList
  cs.all isNameChar && cs.head?.any (fun c => c ≠ '.') && cs.getLast?.any (fun c => c ≠ '.') &&
    !isInfix ['.', '.'] cs

def IsAscii (s : String) : Prop := ∀ c ∈ s.toList, c.toNat < 128

/-- The host without what follows its first colon and without outer whitespace, in lower case. -/
def hostName (host : String) : List Char :=
  (stripChars (host.toList.takeWhile fun c => c ≠ ':')).map Char.toLower

/-- The slug's name under the base domain, in lower case. -/
def publicName (settings : Settings) (slug : String) : List Char :=
  (slug.toList ++ '.' :: settings.exposureBaseDomain.toList).map Char.toLower

def Shared.rows (s : Shared) : List VMExposure := s.exposures.map Prod.snd

/-- With the right secret, the handler asks for one slug, and this row is the answer. -/
def Selects (settings : Settings) (s : Shared) (host : String) (row : VMExposure) : Prop :=
  ∃ slug k s', exposureUpstream settings host (some settings.exposureProxySecret) () =
    .await (.selectEnabledSlug slug) k ∧ Act s (.selectEnabledSlug slug) (some row) s'

section Characters
variable {c : Char}

theorem isNameChar_ascii (h : isNameChar c = true) : c.toNat < 128 := by
  simp only [isNameChar, Bool.or_eq_true, decide_eq_true_eq] at h
  rcases h with (h | rfl) | rfl
  · exact isAlphanum_ascii h
  · decide
  · decide

/-- The ASCII characters a name can hold, and what the lower case makes of them. -/
theorem ascii_names : ∀ n < 128,
    (isNameChar (Char.ofNat n).toLower = true →
      Char.ofNat n ≠ ':' ∧ isSpace (Char.ofNat n) = false) ∧
    (isNameChar (Char.ofNat n) = true → isNameChar (Char.ofNat n).toLower = true) ∧
    ((Char.ofNat n).toLower = '.' → Char.ofNat n = '.') ∧
    (((Char.ofNat n).isLower || (Char.ofNat n).isDigit || decide (Char.ofNat n = '-')) = true →
      (Char.ofNat n).toLower = Char.ofNat n ∧ Char.ofNat n ≠ '.') := by
  decide +kernel

/-- A character whose lower case can stand in a name is not a colon, no space, and ASCII. -/
theorem toLower_name (h : isNameChar c.toLower = true) :
    c ≠ ':' ∧ isSpace c = false ∧ c.toNat < 128 := by
  have hascii : c.toNat < 128 := by
    rcases toLower_eq_or_ascii c with hc | hc
    · rw [hc] at h
      exact isNameChar_ascii h
    · exact hc
  obtain ⟨hcolon, hspace⟩ := of_ascii (P := fun c => isNameChar c.toLower = true →
    c ≠ ':' ∧ isSpace c = false) (fun n hn => (ascii_names n hn).1) hascii h
  exact ⟨hcolon, hspace, hascii⟩

theorem isNameChar_toLower (h : isNameChar c = true) : isNameChar c.toLower = true := by
  exact of_ascii (P := fun c => isNameChar c = true → isNameChar c.toLower = true)
    (fun n hn => (ascii_names n hn).2.1) (isNameChar_ascii h) h

theorem toLower_dot (h : c.toLower = '.') : c = '.' := by
  have hname : isNameChar c.toLower = true := by
    rw [h]
    decide
  exact of_ascii (P := fun c => c.toLower = '.' → c = '.') (fun n hn => (ascii_names n hn).2.2.1)
    (toLower_name hname).2.2 h

theorem lowerChar_ascii (h : c.toNat < 128) : lowerChar c = c.toLower := by
  have hne : c ≠ '\u212a' := by
    rintro rfl
    exact absurd h (by decide)
  exact if_neg hne

end Characters

theorem mem_stripChars {cs : List Char} {c : Char} (h : c ∈ stripChars cs) : c ∈ cs := by
  have hinner : c ∈ (cs.dropWhile isSpace).reverse :=
    (List.dropWhile_suffix _).subset (List.mem_reverse.mp h)
  exact (List.dropWhile_suffix _).subset (List.mem_reverse.mp hinner)

theorem takeWhile_colon {cs : List Char} (h : ∀ c ∈ cs, c ≠ ':') (later : List Char) :
    (cs ++ ':' :: later).takeWhile (fun c => c ≠ ':') = cs := by
  induction cs with
  | nil => simp
  | cons c cs ih =>
    rw [List.cons_append, List.takeWhile_cons_of_pos (by simpa using h c List.mem_cons_self),
      ih fun d hd => h d (List.mem_cons_of_mem _ hd)]

/-- The first dot ends the first label. -/
theorem label_unique {a a' b b' : List Char} (ha : '.' ∉ a) (ha' : '.' ∉ a')
    (h : a ++ '.' :: b = a' ++ '.' :: b') : a = a' ∧ b = b' := by
  induction a generalizing a' with
  | nil =>
    cases a' with
    | nil => simpa using h
    | cons c a' =>
      simp only [List.nil_append, List.cons_append, List.cons.injEq] at h
      exact absurd (h.1 ▸ List.mem_cons_self) ha'
  | cons c a ih =>
    cases a' with
    | nil =>
      simp only [List.nil_append, List.cons_append, List.cons.injEq] at h
      exact absurd (h.1 ▸ List.mem_cons_self) ha
    | cons c' a' =>
      simp only [List.cons_append, List.cons.injEq, List.mem_cons, not_or] at h ha ha'
      obtain ⟨h₁, h₂⟩ := ih ha.2 ha'.2 h.2
      exact ⟨by rw [h.1, h₁], h₂⟩

section Slug
variable {settings : Settings} {slug host : String}

/-- A slug has no capital and no dot. -/
theorem isSlug_chars (h : isSlug slug = true) :
    slug.toList.map Char.toLower = slug.toList ∧ '.' ∉ slug.toList ∧
      ∀ c ∈ slug.toList, isNameChar c = true := by
  simp only [isSlug, Bool.and_eq_true, List.all_eq_true, decide_eq_true_eq] at h
  have hchar := h.1.1.2
  have hname : ∀ c ∈ slug.toList, isNameChar c = true := by
    intro c hc
    have hc' := hchar c hc
    simp only [Bool.or_eq_true, decide_eq_true_eq] at hc'
    rcases hc' with (hl | hd) | he
    · simp [isNameChar, Char.isAlphanum, Char.isAlpha, hl]
    · simp [isNameChar, Char.isAlphanum, hd]
    · simp [isNameChar, he]
  have hplain : ∀ c ∈ slug.toList, c.toLower = c ∧ c ≠ '.' := by
    intro c hc
    exact of_ascii (P := fun c => (c.isLower || c.isDigit || decide (c = '-')) = true →
      c.toLower = c ∧ c ≠ '.') (fun n hn => (ascii_names n hn).2.2.2) (isNameChar_ascii (hname c hc))
      (hchar c hc)
  refine ⟨?_, fun hdot => (hplain '.' hdot).2 rfl, hname⟩
  conv_rhs => rw [← List.map_id slug.toList]
  exact List.map_congr_left fun c hc => (hplain c hc).1

theorem mem_domain (h : isDomain settings.exposureBaseDomain = true) {c : Char}
    (hc : c ∈ settings.exposureBaseDomain.toList) : isNameChar c = true := by
  simp only [isDomain, Bool.and_eq_true, List.all_eq_true] at h
  exact h.1.1.1 c hc

/-- The handler finds a slug exactly under the base domain. -/
theorem hostSlug_iff (hdomain : isDomain settings.exposureBaseDomain = true) (hhost : IsAscii host) :
    hostSlug settings host = some slug ↔
      hostName host = slug.toList ++ ('.' :: settings.exposureBaseDomain.toList).map Char.toLower := by
  have hname : (normalizeIdentifier (String.ofList (host.toList.takeWhile fun c => c ≠ ':'))).toList =
      hostName host := by
    rw [normalizeIdentifier, String.toList_ofList, String.toList_ofList, hostName]
    apply List.map_congr_left
    intro c hc
    have hmem : c ∈ host.toList := (List.takeWhile_prefix _).subset (mem_stripChars hc)
    exact lowerChar_ascii (hhost c hmem)
  have hsuffix : ('.' :: settings.exposureBaseDomain.toList.map lowerChar) =
      ('.' :: settings.exposureBaseDomain.toList).map Char.toLower := by
    have hdot : Char.toLower '.' = '.' := by decide
    have hlower : settings.exposureBaseDomain.toList.map lowerChar =
        settings.exposureBaseDomain.toList.map Char.toLower := by
      apply List.map_congr_left
      intro c hc
      exact lowerChar_ascii (isNameChar_ascii (mem_domain hdomain hc))
    rw [List.map_cons, hdot, hlower]
  have hdef : hostSlug settings host =
      if (('.' :: settings.exposureBaseDomain.toList).map Char.toLower).isSuffixOf (hostName host) then
        some (String.ofList ((hostName host).take ((hostName host).length -
          (('.' :: settings.exposureBaseDomain.toList).map Char.toLower).length)))
      else none := by
    rw [← hsuffix, ← hname]
    rfl
  rw [hdef]
  generalize ('.' :: settings.exposureBaseDomain.toList).map Char.toLower = suffix
  constructor
  · intro h
    rw [Option.ite_none_right_eq_some, List.isSuffixOf_iff_suffix, Option.some.injEq] at h
    obtain ⟨⟨before, hbefore⟩, hslug⟩ := h
    rw [← hslug, String.toList_ofList, ← hbefore]
    simp
  · intro h
    rw [if_pos (by simp [h])]
    simp [h]

end Slug

section Select
variable {settings : Settings} {s : Shared} {host : String} {row : VMExposure}

theorem exposureUpstream_none (hsecret : settings.exposureProxySecret ≠ "")
    (hs : hostSlug settings host = none) :
    exposureUpstream settings host (some settings.exposureProxySecret) = pure (.upstream []) := by
  simp [exposureUpstream, hsecret, hs]

theorem exposureUpstream_some (hsecret : settings.exposureProxySecret ≠ "") {slug : String}
    (hs : hostSlug settings host = some slug) : ∃ k,
    exposureUpstream settings host (some settings.exposureProxySecret) () =
      .await (.selectEnabledSlug slug) k := by
  unfold exposureUpstream
  rw [if_neg (by simp [hsecret]), hs]
  exact ⟨_, rfl⟩

theorem selects_iff (hsecret : settings.exposureProxySecret ≠ "") : Selects settings s host row ↔
    ∃ slug, hostSlug settings host = some slug ∧ s.slug slug = some row ∧ row.enabled = true := by
  have hact : ∀ slug, (∃ s', Act s (.selectEnabledSlug slug) (some row) s') ↔
      s.slug slug = some row ∧ row.enabled = true := by
    intro slug
    constructor
    · rintro ⟨s', input, h⟩
      cases input <;> simp only [perform, reduceCtorEq, Option.some.injEq, Prod.mk.injEq] at h
      exact Option.filter_eq_some_iff.mp h.1
    · intro h
      have hfilter : (s.slug slug).filter VMExposure.enabled = some row :=
        Option.filter_eq_some_iff.mpr h
      exact ⟨s, .none, by simp only [perform, hfilter]⟩
  constructor
  · rintro ⟨slug, k, s', hfirst, h⟩
    cases hs : hostSlug settings host with
    | none =>
      rw [exposureUpstream_none hsecret hs] at hfirst
      cases hfirst
    | some slug' =>
      obtain ⟨k', hrun⟩ := exposureUpstream_some hsecret hs
      rw [hrun] at hfirst
      cases hfirst
      exact ⟨slug, rfl, (hact slug).mp ⟨s', h⟩⟩
  · rintro ⟨slug, hs, h⟩
    obtain ⟨s', ha⟩ := (hact slug).mpr h
    obtain ⟨k, hrun⟩ := exposureUpstream_some hsecret hs
    exact ⟨slug, k, s', hrun, ha⟩

/-- The row of a slug, where no two rows have one slug. -/
theorem slug_iff (hunique : (s.rows.map VMExposure.slug).Nodup) {slug : String} :
    s.slug slug = some row ↔ row ∈ s.rows ∧ row.slug = slug := by
  constructor
  · intro h
    exact ⟨List.mem_of_find?_eq_some h, by simpa using List.find?_some h⟩
  · rintro ⟨hmem, rfl⟩
    have hfound : (s.slug row.slug).isSome = true :=
      List.find?_isSome.mpr ⟨row, hmem, by simp⟩
    obtain ⟨found, hf⟩ := Option.isSome_iff_exists.mp hfound
    have hsame : found.slug = row.slug := by simpa using List.find?_some hf
    rw [hf, List.inj_on_of_nodup_map hunique (List.mem_of_find?_eq_some hf) hmem hsame]

/-- The host is the name of the row's slug, and the row is enabled. -/
theorem selects_name (hsecret : settings.exposureProxySecret ≠ "")
    (hdomain : isDomain settings.exposureBaseDomain = true)
    (hslugs : ∀ row ∈ s.rows, isSlug row.slug = true)
    (hunique : (s.rows.map VMExposure.slug).Nodup) (hhost : IsAscii host) :
    Selects settings s host row ↔ row ∈ s.rows ∧ row.enabled = true ∧
      hostName host = publicName settings row.slug := by
  have hname : row ∈ s.rows → publicName settings row.slug =
      row.slug.toList ++ ('.' :: settings.exposureBaseDomain.toList).map Char.toLower := by
    intro hmem
    rw [publicName, List.map_append, (isSlug_chars (hslugs row hmem)).1]
  rw [selects_iff hsecret]
  constructor
  · rintro ⟨slug, hs, hrow, hen⟩
    obtain ⟨hmem, rfl⟩ := (slug_iff hunique).mp hrow
    exact ⟨hmem, hen, ((hostSlug_iff hdomain hhost).mp hs).trans (hname hmem).symm⟩
  · rintro ⟨hmem, hen, hhostname⟩
    rw [hname hmem] at hhostname
    exact ⟨row.slug, (hostSlug_iff hdomain hhost).mpr hhostname, (slug_iff hunique).mpr ⟨hmem, rfl⟩,
      hen⟩

/-- The name of a slug in any case, with any port, is the name of the slug. -/
theorem hostName_of_name (hdomain : isDomain settings.exposureBaseDomain = true) {slug name : String}
    (hslug : isSlug slug = true) (hname : name.toList.map Char.toLower = publicName settings slug) :
    (IsAscii name ∧ hostName name = publicName settings slug) ∧
      ∀ port, hostName (name ++ ":" ++ port) = publicName settings slug := by
  have hchar : ∀ c ∈ name.toList, c ≠ ':' ∧ isSpace c = false ∧ c.toNat < 128 := by
    intro c hc
    apply toLower_name
    have hmem : c.toLower ∈ publicName settings slug := hname ▸ List.mem_map_of_mem hc
    obtain ⟨d, hd, hlower⟩ := List.mem_map.mp hmem
    rw [← hlower]
    apply isNameChar_toLower
    rcases List.mem_append.mp hd with hd | hd
    · exact (isSlug_chars hslug).2.2 d hd
    · rcases List.mem_cons.mp hd with rfl | hd
      · decide
      · exact mem_domain hdomain hd
  have hstrip : stripChars name.toList = name.toList :=
    stripChars_of_no_space fun c hc => (hchar c hc).2.1
  have hcolon : ∀ c ∈ name.toList, c ≠ ':' := fun c hc => (hchar c hc).1
  refine ⟨⟨fun c hc => (hchar c hc).2.2, ?_⟩, fun port => ?_⟩
  · have htake : name.toList.takeWhile (fun c => c ≠ ':') = name.toList := by
      rw [List.takeWhile_eq_self_iff]
      intro c hc
      simpa using hcolon c hc
    rw [hostName, htake, hstrip, hname]
  · have hlist : (name ++ ":" ++ port).toList = name.toList ++ ':' :: port.toList := by
      simp [String.toList_append]
    rw [hostName, hlist, takeWhile_colon hcolon, hstrip, hname]

end Select

/-- The handler selects an enabled exposure exactly at the names of its slug; so no host has two,
every enabled exposure is found in any case and at any port, and none under a name with a further
label or of another domain. -/
theorem exposureUpstream_selects {settings : Settings} {s : Shared}
    (hsecret : settings.exposureProxySecret ≠ "")
    (hdomain : isDomain settings.exposureBaseDomain = true)
    (hslugs : ∀ row ∈ s.rows, isSlug row.slug = true)
    (hunique : (s.rows.map VMExposure.slug).Nodup) :
    (∀ host row, IsAscii host → (Selects settings s host row ↔ row ∈ s.rows ∧ row.enabled = true ∧
      hostName host = publicName settings row.slug)) ∧
    (∀ host row row', Selects settings s host row → Selects settings s host row' → row = row') ∧
    (∀ row ∈ s.rows, row.enabled = true → ∀ name : String,
      name.toList.map Char.toLower = publicName settings row.slug →
      Selects settings s name row ∧
        ∀ port, IsAscii port → Selects settings s (name ++ ":" ++ port) row) ∧
    ∀ host row before domain, IsAscii host →
      hostName host = (before ++ '.' :: domain).map Char.toLower →
      ('.' ∈ before ∧ domain = settings.exposureBaseDomain.toList ∨
        '.' ∉ before ∧
          domain.map Char.toLower ≠ settings.exposureBaseDomain.toList.map Char.toLower) →
      ¬ Selects settings s host row := by
  have hname := fun (host : String) (row : VMExposure) (hhost : IsAscii host) =>
    @selects_name settings s host row hsecret hdomain hslugs hunique hhost
  refine ⟨hname, fun host row row' h h' => ?_, fun row hmem hen name hn => ?_,
    fun host row before domain hhost hh hwrong h => ?_⟩
  · obtain ⟨slug, hs, hrow, _⟩ := (selects_iff hsecret).mp h
    obtain ⟨slug', hs', hrow', _⟩ := (selects_iff hsecret).mp h'
    obtain rfl : slug = slug' := Option.some.inj (hs.symm.trans hs')
    exact Option.some.inj (hrow.symm.trans hrow')
  · obtain ⟨⟨hascii, hplain⟩, hport⟩ := hostName_of_name hdomain (hslugs row hmem) hn
    refine ⟨(hname name row hascii).mpr ⟨hmem, hen, hplain⟩, fun port hp => ?_⟩
    have hascii' : IsAscii (name ++ ":" ++ port) := by
      intro c hc
      simp only [String.toList_append, List.mem_append] at hc
      rcases hc with (hc | hc) | hc
      · exact hascii c hc
      · have hcolon : c = ':' := by simpa using hc
        subst hcolon
        decide
      · exact hp c hc
    exact (hname _ row hascii').mpr ⟨hmem, hen, hport port⟩
  · obtain ⟨hmem, _, heq⟩ := (hname host row hhost).mp h
    have hslug := isSlug_chars (hslugs row hmem)
    have hdot : Char.toLower '.' = '.' := by decide
    have hsplit : before.map Char.toLower ++ '.' :: domain.map Char.toLower =
        row.slug.toList ++ '.' :: settings.exposureBaseDomain.toList.map Char.toLower := by
      rw [hh, publicName, List.map_append, List.map_append, hslug.1, List.map_cons, List.map_cons,
        hdot] at heq
      exact heq
    rcases hwrong with ⟨hmore, rfl⟩ | ⟨hlabel, hother⟩
    · have hbefore : before.map Char.toLower = row.slug.toList := List.append_cancel_right hsplit
      apply hslug.2.1
      rw [← hbefore, ← hdot]
      exact List.mem_map_of_mem hmore
    · have hnodot : '.' ∉ before.map Char.toLower := by
        intro hm
        obtain ⟨c, hc, hlower⟩ := List.mem_map.mp hm
        rw [toLower_dot hlower] at hc
        exact hlabel hc
      exact hother (label_unique hnodot hslug.2.1 hsplit).2

/-- Two exposures, one of them disabled. -/
def hosting : Shared where
  exposures := [(0, { vmId := 0, slug := "app", port := 80 }),
    (1, { vmId := 0, slug := "old", port := 80, enabled := false })]

/-- A request to a port, with capitals in the name, finds the first. -/
theorem exposureUpstream_selects_app :
    Selects { exposureProxySecret := "secret" } hosting "App.Apps.Exemplo.Internal:8443"
      { vmId := 0, slug := "app", port := 80 } := by
  have hslugs : ∀ row ∈ hosting.rows, isSlug row.slug = true := by decide
  have hrules := @exposureUpstream_selects { exposureProxySecret := "secret" } hosting
    (by decide) (by decide +kernel) hslugs (by decide)
  have hfound := (hrules.2.2.1 { vmId := 0, slug := "app", port := 80 } (by decide) rfl
    "App.Apps.Exemplo.Internal" (by decide +kernel)).2 "8443" (by simp [IsAscii])
  exact hfound

/-- The second is never found. -/
theorem exposureUpstream_disabled : ¬ ∀ (settings : Settings) (s : Shared) (host : String)
    (row : VMExposure), settings.exposureProxySecret ≠ "" →
    isDomain settings.exposureBaseDomain = true → (∀ row ∈ s.rows, isSlug row.slug = true) →
    (s.rows.map VMExposure.slug).Nodup → IsAscii host →
    (Selects settings s host row ↔
      row ∈ s.rows ∧ hostName host = publicName settings row.slug) := by
  intro h
  have hselects := (h { exposureProxySecret := "secret" } hosting "old.apps.exemplo.internal"
    { vmId := 0, slug := "old", port := 80, enabled := false } (by decide) (by decide +kernel)
    (by decide) (by decide) (by simp [IsAscii])).mpr ⟨by decide, by decide +kernel⟩
  obtain ⟨_, _, _, hen⟩ := (selects_iff (by decide)).mp hselects
  cases hen

end Clusteration.Front
