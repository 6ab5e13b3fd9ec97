import Mathlib.Data.List.Basic
import Mathlib.Logic.Function.Basic

/-- A database table. Keys are handed out in order of insertion and never reused, and rows are
never removed, so the key of a row is its position. -/
structure Table (ρ : Type) where
  rows : List ρ := []

namespace Table
variable {ρ : Type}

def get (t : Table ρ) (i : Nat) : Option ρ := t.rows[i]?

/-- The key the next inserted row gets. -/
def next (t : Table ρ) : Nat := t.rows.length

def insert (t : Table ρ) (r : ρ) : Table ρ := ⟨t.rows ++ [r]⟩

def update (t : Table ρ) (i : Nat) (f : ρ → ρ) : Table ρ := ⟨t.rows.modify i f⟩

/-- Rewrite every row, knowing its key. -/
def rewrite (t : Table ρ) (f : Nat → ρ → ρ) : Table ρ := ⟨t.rows.mapIdx f⟩

/-- The keys of the rows that satisfy `p`, in insertion order. -/
def select (t : Table ρ) (p : ρ → Bool) : List Nat :=
  (List.range t.next).filter fun i => (t.get i).any p

@[simp] theorem get_empty (i : Nat) : (⟨[]⟩ : Table ρ).get i = none := by simp [get]

theorem get_lt {t : Table ρ} {i : Nat} {r : ρ} (h : t.get i = some r) : i < t.next := by
  obtain ⟨hi, _⟩ := List.getElem?_eq_some_iff.mp h
  exact hi

@[simp] theorem get_next (t : Table ρ) : t.get t.next = none := by simp [get, next]

theorem get_insert (t : Table ρ) (r : ρ) (i : Nat) :
    (t.insert r).get i = if i = t.next then some r else t.get i := by
  unfold get insert next
  rcases Nat.lt_trichotomy i t.rows.length with h | h | h
  · rw [List.getElem?_append_left h, if_neg (by omega)]
  · subst h
    simp
  · rw [if_neg (by omega), List.getElem?_eq_none (by simp; omega),
      List.getElem?_eq_none (by omega)]

@[simp] theorem get_insert_self (t : Table ρ) (r : ρ) : (t.insert r).get t.next = some r := by
  simp [get_insert]

theorem get_insert_of_some {t : Table ρ} {r r' : ρ} {i : Nat} (h : t.get i = some r') :
    (t.insert r).get i = some r' := by
  rw [get_insert, if_neg (Nat.ne_of_lt (get_lt h)), h]

@[simp] theorem next_insert (t : Table ρ) (r : ρ) : (t.insert r).next = t.next + 1 := by
  simp [next, insert]

@[simp] theorem next_update (t : Table ρ) (i : Nat) (f : ρ → ρ) : (t.update i f).next = t.next := by
  simp [next, update]

@[simp] theorem next_rewrite (t : Table ρ) (f : Nat → ρ → ρ) : (t.rewrite f).next = t.next := by
  simp [next, rewrite]

@[simp] theorem get_update_self (t : Table ρ) (i : Nat) (f : ρ → ρ) :
    (t.update i f).get i = (t.get i).map f := by
  simp [get, update]

theorem get_update_ne (t : Table ρ) {i j : Nat} (f : ρ → ρ) (h : i ≠ j) :
    (t.update i f).get j = t.get j := by
  simp [get, update, h]

theorem get_update (t : Table ρ) (i j : Nat) (f : ρ → ρ) :
    (t.update i f).get j = if i = j then (t.get j).map f else t.get j := by
  split
  · next h => subst h; simp
  · next h => exact get_update_ne t f h

@[simp] theorem get_rewrite (t : Table ρ) (f : Nat → ρ → ρ) (i : Nat) :
    (t.rewrite f).get i = (t.get i).map (f i) := by
  simp [get, rewrite]

section Columns
variable {γ : Type} (g : ρ → γ)

theorem map_get_insert (t : Table ρ) (r : ρ) : (fun i => ((t.insert r).get i).map g) =
    Function.update (fun i => (t.get i).map g) t.next (some (g r)) := by
  funext i
  rw [get_insert, Function.update_apply]
  split <;> rfl

theorem map_get_update (t : Table ρ) {j : Nat} (f : ρ → ρ) {r : ρ} (h : t.get j = some r) :
    (fun i => ((t.update j f).get i).map g) =
      Function.update (fun i => (t.get i).map g) j (some (g (f r))) := by
  funext i
  rw [get_update, Function.update_apply]
  by_cases hi : i = j
  · subst hi
    simp [h]
  · rw [if_neg hi, if_neg (Ne.symm hi)]

end Columns

section Fold
variable {α : Type} {key : α → Nat} {f : α → ρ → ρ}

theorem get_foldl_update_of_not_mem {l : List α} {i : Nat} (h : i ∉ l.map key) (t : Table ρ) :
    (l.foldl (fun t a => t.update (key a) (f a)) t).get i = t.get i := by
  induction l generalizing t with
  | nil => rfl
  | cons a l ih =>
    rw [List.map_cons, List.mem_cons, not_or] at h
    rw [List.foldl_cons, ih h.2, get_update_ne _ _ (Ne.symm h.1)]

theorem get_foldl_update {l : List α} (hn : (l.map key).Nodup) {a : α} (ha : a ∈ l) (t : Table ρ) :
    (l.foldl (fun t a => t.update (key a) (f a)) t).get (key a) = (t.get (key a)).map (f a) := by
  induction l generalizing t with
  | nil => cases ha
  | cons b l ih =>
    rw [List.map_cons, List.nodup_cons] at hn
    rw [List.foldl_cons]
    rcases List.mem_cons.mp ha with rfl | ha
    · rw [get_foldl_update_of_not_mem hn.1, get_update_self]
    · have hne : key b ≠ key a := fun he => hn.1 (he ▸ List.mem_map_of_mem ha)
      rw [ih hn.2 ha, get_update_ne _ _ hne]

end Fold

theorem next_foldl {α : Type} {f : Table ρ → α → Table ρ} (h : ∀ t a, (f t a).next = t.next)
    (l : List α) (t : Table ρ) : (l.foldl f t).next = t.next := by
  induction l generalizing t with
  | nil => rfl
  | cons a l ih => rw [List.foldl_cons, ih, h]

/-- A column that no step of the fold writes. -/
theorem map_get_foldl {α γ : Type} (g : ρ → γ) {f : Table ρ → α → Table ρ} {l : List α}
    (h : ∀ a ∈ l, ∀ t i, ((f t a).get i).map g = (t.get i).map g) (t : Table ρ) (i : Nat) :
    ((l.foldl f t).get i).map g = (t.get i).map g := by
  induction l generalizing t with
  | nil => rfl
  | cons a l ih =>
    rw [List.foldl_cons, ih (fun b hb => h b (List.mem_cons_of_mem a hb)), h a List.mem_cons_self]

theorem map_get_update_of_eq {γ : Type} (g : ρ → γ) (t : Table ρ) (j : Nat) {f : ρ → ρ}
    (h : ∀ r, g (f r) = g r) (i : Nat) : ((t.update j f).get i).map g = (t.get i).map g := by
  rw [get_update]
  split
  · rw [Option.map_map]
    congr 1
    funext r
    exact h r
  · rfl

theorem map_get_rewrite_of_eq {γ : Type} (g : ρ → γ) (t : Table ρ) {f : Nat → ρ → ρ}
    (h : ∀ i r, g (f i r) = g r) (i : Nat) : ((t.rewrite f).get i).map g = (t.get i).map g := by
  rw [get_rewrite, Option.map_map]
  congr 1
  funext r
  exact h i r

theorem mem_select {t : Table ρ} {p : ρ → Bool} {i : Nat} :
    i ∈ t.select p ↔ ∃ r, t.get i = some r ∧ p r = true := by
  unfold select
  rw [List.mem_filter, List.mem_range]
  constructor
  · rintro ⟨_, h⟩
    cases hr : t.get i with
    | none => simp [hr] at h
    | some r => exact ⟨r, rfl, by simpa [hr] using h⟩
  · rintro ⟨r, h, hp⟩
    exact ⟨get_lt h, by simp [h, hp]⟩

theorem select_nodup (t : Table ρ) (p : ρ → Bool) : (t.select p).Nodup :=
  List.nodup_range.filter _

/-- A further row comes last. -/
theorem select_insert (t : Table ρ) (p : ρ → Bool) (r : ρ) :
    (t.insert r).select p = t.select p ++ if p r then [t.next] else [] := by
  have hold : (List.range t.next).filter (fun i => ((t.insert r).get i).any p) = t.select p := by
    apply List.filter_congr
    intro i hi
    rw [get_insert, if_neg (Nat.ne_of_lt (List.mem_range.mp hi))]
  unfold select at hold ⊢
  rw [next_insert, List.range_succ, List.filter_append, hold, List.filter_singleton,
    get_insert_self, Option.any_some]
  cases p r <;> rfl

theorem select_congr {t t' : Table ρ} {p : ρ → Bool} (hnext : t'.next = t.next)
    (h : ∀ i, (t'.get i).any p = (t.get i).any p) : t'.select p = t.select p := by
  unfold select
  rw [hnext]
  apply List.filter_congr
  intro i _
  exact h i

end Table
