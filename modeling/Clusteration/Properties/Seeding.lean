import Clusteration.Framework.Items
import Clusteration.Panel.Lifecycle

namespace Clusteration

/-- A dictionary has no key twice. -/
def Dict.Keyed (d : Dict) : Prop := (d.map Prod.fst).Nodup

section Dictionaries
variable {d : Dict} {key : String} {value : Json}

theorem Dict.set_eq (h : d.Keyed) : d.set key value = Items.insertWith (fun _ new => new) key value d := by
  induction d with
  | nil => rfl
  | cons item d ih =>
    have hparts : item.1 ∉ d.map Prod.fst ∧ (d.map Prod.fst).Nodup := List.nodup_cons.mp h
    by_cases hk : item.1 = key
    · subst hk
      have hrest : d.map (fun kv => if kv.1 = item.1 then (item.1, value) else kv) = d := by
        conv_rhs => rw [← List.map_id d]
        apply List.map_congr_left
        intro kv hkv
        have hne : kv.1 ≠ item.1 := fun e => hparts.1 (e ▸ List.mem_map_of_mem hkv)
        simp [hne]
      simp [Dict.set, Items.lookup_cons, Items.insertWith, hrest]
    · have hd := ih hparts.2
      simp only [Dict.set] at hd ⊢
      rw [Items.lookup_cons, if_neg (Ne.symm hk), Items.insertWith, if_neg hk, ← hd]
      split <;> simp [hk]

theorem Dict.Keyed.set (h : d.Keyed) : (d.set key value).Keyed := by
  rw [Dict.set_eq h]
  exact Items.nodup_insertWith _ key value h

theorem Dict.merge_eq (h : d.Keyed) (e : Dict) : d.merge e = Items.update d e := by
  induction e generalizing d with
  | nil => rfl
  | cons kv e ih =>
    have hnext := ih (@Dict.Keyed.set d kv.1 kv.2 h)
    rw [Dict.set_eq h] at hnext
    show (d.set kv.1 kv.2).merge e = _
    rw [Dict.set_eq h]
    exact hnext

end Dictionaries

/-- The defaults of a seeded template that has no row yet. -/
def seedDefaults (settings : Settings) (item : Template) : Dict :=
  Dict.merge [("enabled", .bool true), ("node", .str settings.proxmoxDefaultNode)] item.defaults

/-- What becomes of the row of a seeded template. -/
def seedRow (settings : Settings) (item row : Template) : Template :=
  { row with
    name := item.name
    proxmoxTemplateVmid := item.proxmoxTemplateVmid
    defaults := (Dict.merge (seedDefaults settings item) row.defaults).set "node"
      (.str settings.proxmoxDefaultNode) }

theorem seedOne_eq (settings : Settings) (rows : List Template) (item : Template) :
    seedOne settings rows item =
      if rows.any fun row => row.os = item.os then
        rows.map fun row => if row.os = item.os then seedRow settings item row else row
      else rows ++ [{ item with defaults := seedDefaults settings item }] := rfl

/-- The rows of a template. -/
def rowsOf (os : String) (rows : List Template) : List Template := rows.filter fun row => row.os = os

theorem rowsOf_single {os : String} {rows others : List Template} {row : Template}
    (hos : (rows.map Template.os).Nodup) (h : rowsOf os rows = row :: others) : others = [] := by
  have hsub : ((rowsOf os rows).map Template.os).Nodup :=
    (List.filter_sublist.map Template.os).nodup hos
  have hos' : ∀ r ∈ rowsOf os rows, r.os = os := by
    intro r hr
    exact of_decide_eq_true (List.mem_filter.mp hr).2
  rw [h] at hsub hos'
  cases others with
  | nil => rfl
  | cons other others =>
    have hsame : other.os = row.os :=
      (hos' other (by simp)).trans (hos' row List.mem_cons_self).symm
    simp [hsame] at hsub

section Round
variable {settings : Settings} {item : Template} {rows : List Template}

theorem seedDefaults_keyed : (seedDefaults settings item).Keyed := by
  have hkeyed : Dict.Keyed [("enabled", .bool true), ("node", .str settings.proxmoxDefaultNode)] := by
    simp [Dict.Keyed]
  rw [seedDefaults, Dict.merge_eq hkeyed]
  exact Items.nodup_update _ hkeyed

/-- A round changes rows of its own template only. -/
theorem seedOne_filter (p : String → Bool) (hp : p item.os = false) :
    (seedOne settings rows item).filter (fun row => p row.os) = rows.filter fun row => p row.os := by
  rw [seedOne_eq]
  split
  · rw [List.filter_map]
    have hsame : ∀ row, p (if row.os = item.os then seedRow settings item row else row).os = p row.os := by
      intro row
      split <;> rfl
    simp only [Function.comp_def, hsame]
    conv_rhs => rw [← List.map_id (rows.filter fun row => p row.os)]
    apply List.map_congr_left
    intro row hrow
    have hne : row.os ≠ item.os := by
      intro e
      have hrow' := (List.mem_filter.mp hrow).2
      rw [e, hp] at hrow'
      cases hrow'
    simp [hne]
  · rw [List.filter_append]
    simp [hp]

theorem seedOne_rowsOf : rowsOf item.os (seedOne settings rows item) =
    if rowsOf item.os rows = [] then [{ item with defaults := seedDefaults settings item }]
    else (rowsOf item.os rows).map (seedRow settings item) := by
  have hany : (rows.any fun row => row.os = item.os) = true ↔ rowsOf item.os rows ≠ [] := by
    simp [rowsOf, List.filter_eq_nil_iff]
  rw [seedOne_eq]
  by_cases h : rowsOf item.os rows = []
  · rw [if_pos h, if_neg (fun ha => hany.mp ha h)]
    rw [rowsOf, List.filter_append, show rows.filter _ = [] from h]
    simp
  · rw [if_neg h, if_pos (hany.mpr h), rowsOf, List.filter_map]
    have hos : ∀ row : Template,
        (if row.os = item.os then seedRow settings item row else row).os = row.os := by
      intro row
      split <;> rfl
    simp only [Function.comp_def, hos]
    apply List.map_congr_left
    intro row hrow
    rw [if_pos (of_decide_eq_true (List.mem_filter.mp hrow).2)]

/-- A round changes nothing where its template's rows are as it makes them. -/
theorem seedOne_fixed (hsome : rowsOf item.os rows ≠ [])
    (h : ∀ row ∈ rowsOf item.os rows, seedRow settings item row = row) :
    seedOne settings rows item = rows := by
  have hany : (rows.any fun row => row.os = item.os) = true := by
    simpa [rowsOf, List.filter_eq_nil_iff] using hsome
  rw [seedOne_eq, if_pos hany]
  conv_rhs => rw [← List.map_id rows]
  apply List.map_congr_left
  intro row hrow
  split
  · next hos => exact h row (List.mem_filter.mpr ⟨hrow, by simp [hos]⟩)
  · rfl

theorem seedMerge_keyed {row : Template} :
    (Dict.merge (seedDefaults settings item) row.defaults).Keyed := by
  rw [Dict.merge_eq seedDefaults_keyed]
  exact Items.nodup_update _ seedDefaults_keyed

/-- It keeps every other default that the row has. -/
theorem seedRow_keeps {row : Template} (hrow : row.defaults.Keyed) {key : String} {value : Json}
    (hkey : key ≠ "node") (h : row.defaults.lookup key = some value) :
    (seedRow settings item row).defaults.lookup key = some value := by
  simp only [seedRow]
  rw [Dict.set_eq seedMerge_keyed, Items.lookup_insertWith, if_neg hkey,
    Dict.merge_eq seedDefaults_keyed, Items.lookup_update hrow, h]
  rfl

/-- A row as a round leaves it. -/
structure Seeded (settings : Settings) (item row : Template) : Prop where
  name : row.name = item.name
  vmid : row.proxmoxTemplateVmid = item.proxmoxTemplateVmid
  node : row.defaults.lookup "node" = some (.str settings.proxmoxDefaultNode)
  keyed : row.defaults.Keyed
  keys : ∃ rest, row.defaults.map Prod.fst = (seedDefaults settings item).map Prod.fst ++ rest

theorem seedDefaults_node : "node" ∈ (seedDefaults settings item).map Prod.fst := by
  have hkeyed : Dict.Keyed [("enabled", .bool true), ("node", .str settings.proxmoxDefaultNode)] := by
    simp [Dict.Keyed]
  rw [seedDefaults, Dict.merge_eq hkeyed]
  obtain ⟨rest, hrest⟩ := Items.keys_update
    [("enabled", Json.bool true), ("node", .str settings.proxmoxDefaultNode)] item.defaults
  rw [hrest]
  simp

theorem seedRow_seeded {row : Template} : Seeded settings item (seedRow settings item row) where
  name := rfl
  vmid := rfl
  node := by
    simp only [seedRow]
    rw [Dict.set_eq seedMerge_keyed, Items.lookup_insertWith, if_pos rfl]
  keyed := seedMerge_keyed.set
  keys := by
    obtain ⟨rest, hrest⟩ := Items.keys_update (seedDefaults settings item) row.defaults
    have hnode : "node" ∈ (Items.update (seedDefaults settings item) row.defaults).map Prod.fst := by
      rw [hrest]
      exact List.mem_append_left _ seedDefaults_node
    refine ⟨rest, ?_⟩
    simp only [seedRow]
    rw [Dict.set_eq seedMerge_keyed, Dict.merge_eq seedDefaults_keyed, Items.keys_insertWith,
      if_pos hnode, hrest]

theorem seedDefaults_seeded (hitem : item.defaults.Keyed)
    (hnode : item.defaults.lookup "node" = none) :
    Seeded settings item { item with defaults := seedDefaults settings item } where
  name := rfl
  vmid := rfl
  node := by
    have hkeyed : Dict.Keyed [("enabled", .bool true), ("node", .str settings.proxmoxDefaultNode)] := by
      simp [Dict.Keyed]
    rw [seedDefaults, Dict.merge_eq hkeyed, Items.lookup_update hitem, hnode]
    rfl
  keyed := seedDefaults_keyed
  keys := ⟨[], by simp⟩

theorem Seeded.fixed {row : Template} (h : Seeded settings item row) :
    seedRow settings item row = row := by
  obtain ⟨rest, hrest⟩ := h.keys
  have hmerge : Dict.merge (seedDefaults settings item) row.defaults = row.defaults := by
    rw [Dict.merge_eq seedDefaults_keyed]
    exact Items.update_of_keys hrest h.keyed
  have hset : row.defaults.set "node" (.str settings.proxmoxDefaultNode) = row.defaults := by
    rw [Dict.set_eq h.keyed]
    exact Items.insertWith_of_lookup h.node
  rw [seedRow, hmerge, hset, ← h.name, ← h.vmid]

end Round

section Rounds
variable {settings : Settings} {items rows : List Template}

theorem seedAll_filter (p : String → Bool) (hp : ∀ item ∈ items, p item.os = false) :
    (items.foldl (seedOne settings) rows).filter (fun row => p row.os) =
      rows.filter fun row => p row.os := by
  induction items generalizing rows with
  | nil => rfl
  | cons item items ih =>
    rw [List.foldl_cons, ih fun other hmem => hp other (List.mem_cons_of_mem _ hmem)]
    exact seedOne_filter p (hp item List.mem_cons_self)

theorem seedAll_rowsOf (hitems : (items.map Template.os).Nodup) {item : Template}
    (hitem : item ∈ items) : rowsOf item.os (items.foldl (seedOne settings) rows) =
      if rowsOf item.os rows = [] then [{ item with defaults := seedDefaults settings item }]
      else (rowsOf item.os rows).map (seedRow settings item) := by
  induction items generalizing rows with
  | nil => cases hitem
  | cons first items ih =>
    rw [List.map_cons, List.nodup_cons] at hitems
    rw [List.foldl_cons]
    rcases List.mem_cons.mp hitem with rfl | hmem
    · -- the later rounds leave its rows alone
      have hlater : ∀ other ∈ items, decide (other.os = item.os) = false := by
        intro other hother
        apply decide_eq_false
        intro e
        exact hitems.1 (e ▸ List.mem_map_of_mem hother)
      have hkept := @seedAll_filter settings items (seedOne settings rows item)
        (fun os => os = item.os) hlater
      rw [← seedOne_rowsOf]
      exact hkept
    · have hother : decide (first.os = item.os) = false := by
        apply decide_eq_false
        intro e
        exact hitems.1 (e ▸ List.mem_map_of_mem hmem)
      have hfirst : rowsOf item.os (seedOne settings rows first) = rowsOf item.os rows :=
        seedOne_filter (fun os => os = item.os) hother
      rw [ih hitems.2 hmem, hfirst]

theorem seedAll_fixed (hsome : ∀ item ∈ items, rowsOf item.os rows ≠ [])
    (h : ∀ item ∈ items, ∀ row ∈ rowsOf item.os rows, Seeded settings item row) :
    items.foldl (seedOne settings) rows = rows := by
  induction items with
  | nil => rfl
  | cons item items ih =>
    have hone : seedOne settings rows item = rows := by
      apply seedOne_fixed (hsome item List.mem_cons_self)
      intro row hrow
      exact (h item List.mem_cons_self row hrow).fixed
    rw [List.foldl_cons, hone]
    exact ih (fun other hmem => hsome other (List.mem_cons_of_mem _ hmem))
      fun other hmem => h other (List.mem_cons_of_mem _ hmem)

end Rounds

theorem seed_os (settings : Settings) : (seed settings).map Template.os =
    ["debian", "ubuntu", "fedora", "hermes", "openclaw", "claude"] := rfl

theorem seed_defaults {settings : Settings} {item : Template} (h : item ∈ seed settings) :
    item.defaults.Keyed ∧ item.defaults.lookup "node" = none := by
  simp only [seed, List.mem_cons, List.not_mem_nil, or_false] at h
  obtain rfl | rfl | rfl | rfl | rfl | rfl := h <;> exact ⟨by simp [Dict.Keyed], rfl⟩

/-- What `seed_templates` leaves: one row for each seeded template, with its VMID, the default node
and every other default the row had, the rows of the other templates, and nothing for a second
run to change. -/
theorem seedTemplates_upserts (settings : Settings) {rows : List Template}
    (hos : (rows.map Template.os).Nodup) (hkeyed : ∀ row ∈ rows, row.defaults.Keyed) :
    (∀ item ∈ seed settings, ∃ row, rowsOf item.os (seedTemplates settings rows) = [row] ∧
      row.proxmoxTemplateVmid = item.proxmoxTemplateVmid ∧
      row.defaults.lookup "node" = some (.str settings.proxmoxDefaultNode) ∧
      ∀ old ∈ rowsOf item.os rows, ∀ key value, key ≠ "node" →
        old.defaults.lookup key = some value → row.defaults.lookup key = some value) ∧
    ((seedTemplates settings rows).filter fun row => row.os ∉ (seed settings).map Template.os) =
      (rows.filter fun row => row.os ∉ (seed settings).map Template.os) ∧
    seedTemplates settings (seedTemplates settings rows) = seedTemplates settings rows := by
  have hseed : ((seed settings).map Template.os).Nodup := by
    rw [seed_os]
    decide
  have hrow : ∀ item ∈ seed settings, ∃ row, rowsOf item.os (seedTemplates settings rows) = [row] ∧
      Seeded settings item row ∧ ∀ old ∈ rowsOf item.os rows, row = seedRow settings item old := by
    intro item hitem
    have hrows := @seedAll_rowsOf settings _ rows hseed _ hitem
    obtain ⟨hdefaults, hnode⟩ := seed_defaults hitem
    cases hold : rowsOf item.os rows with
    | nil =>
      rw [if_pos hold] at hrows
      exact ⟨_, hrows, seedDefaults_seeded hdefaults hnode, by simp⟩
    | cons old others =>
      obtain rfl := rowsOf_single hos hold
      rw [if_neg (by simp [hold]), hold] at hrows
      exact ⟨_, hrows, seedRow_seeded, by simp⟩
  refine ⟨fun item hitem => ?_, ?_, ?_⟩
  · obtain ⟨row, hone, hseeded, hold⟩ := hrow item hitem
    refine ⟨row, hone, hseeded.vmid, hseeded.node, fun old hmem key value hkey hvalue => ?_⟩
    rw [hold old hmem]
    exact seedRow_keeps (hkeyed old (List.mem_filter.mp hmem).1) hkey hvalue
  · apply seedAll_filter (fun os => os ∉ (seed settings).map Template.os)
    intro item hitem
    simpa using ⟨item, hitem, rfl⟩
  · apply seedAll_fixed
    · intro item hitem
      obtain ⟨row, hone, _⟩ := hrow item hitem
      simp [hone]
    · intro item hitem row hmem
      obtain ⟨row', hone, hseeded, _⟩ := hrow item hitem
      rw [hone, List.mem_singleton] at hmem
      rw [hmem]
      exact hseeded

/-- A table in which an operator has disabled a template, put another under a VMID of its own, and
added one. -/
def editedTemplates : List Template :=
  [⟨"ubuntu", "Ubuntu", 9001, [("enabled", .bool false), ("node", .str "pve9")]⟩,
    ⟨"arch", "Arch", 9100, [("node", .str "pve9")]⟩, ⟨"claude", "Claude", 7, []⟩]

/-- The disabled template stays disabled, on the default node. -/
theorem seedTemplates_upserts_edited :
    let rows := seedTemplates {} editedTemplates
    (∃ row, rowsOf "ubuntu" rows = [row] ∧ row.defaults.lookup "enabled" = some (.bool false) ∧
      row.defaults.lookup "node" = some (.str "pve1")) ∧ seedTemplates {} rows = rows := by
  have hos : (editedTemplates.map Template.os).Nodup := by decide
  have hkeyed : ∀ row ∈ editedTemplates, row.defaults.Keyed := by
    simp [editedTemplates, Dict.Keyed]
  obtain ⟨hseed, _, hagain⟩ := seedTemplates_upserts {} hos hkeyed
  obtain ⟨row, hrow, _, hnode, hkeeps⟩ := hseed _ (List.mem_cons_of_mem _ List.mem_cons_self)
  have hold : editedTemplates[0] ∈ rowsOf "ubuntu" editedTemplates := by
    simp [editedTemplates, rowsOf]
  exact ⟨⟨row, hrow, hkeeps _ hold "enabled" _ (by decide) rfl, hnode⟩, hagain⟩

end Clusteration
