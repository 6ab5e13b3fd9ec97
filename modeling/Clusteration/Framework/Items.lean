import Mathlib.Data.List.Induction
import Mathlib.Data.List.Nodup

namespace Items

variable {κ ν : Type} [DecidableEq κ]

/-- What becomes of the items when a value comes for `key`; `join` makes the new value of a key
that is there already. -/
def insertWith (join : ν → ν → ν) (key : κ) (value : ν) : List (κ × ν) → List (κ × ν)
  | [] => [(key, value)]
  | item :: items =>
    if item.1 = key then (key, join item.2 value) :: items
    else item :: insertWith join key value items

/-- The dictionary that the pairs make one after the other. -/
def ofPairs (join : ν → ν → ν) (pairs : List (κ × ν)) : List (κ × ν) :=
  pairs.foldl (fun items pair => insertWith join pair.1 pair.2 items) []

variable (join : ν → ν → ν)

theorem keys_insertWith (key : κ) (value : ν) (items : List (κ × ν)) :
    (insertWith join key value items).map Prod.fst =
      if key ∈ items.map Prod.fst then items.map Prod.fst else items.map Prod.fst ++ [key] := by
  induction items with
  | nil => simp [insertWith]
  | cons item items ih =>
    by_cases h : item.1 = key
    · simp [insertWith, h]
    · have hne : ¬ key = item.1 := fun e => h e.symm
      simp only [insertWith, if_neg h, List.map_cons, ih, List.mem_cons, hne, false_or]
      split <;> simp

theorem nodup_insertWith (key : κ) (value : ν) {items : List (κ × ν)}
    (h : (items.map Prod.fst).Nodup) : ((insertWith join key value items).map Prod.fst).Nodup := by
  rw [keys_insertWith]
  split
  · exact h
  · next hkey =>
    have hdisj : List.Disjoint (items.map Prod.fst) [key] := by simpa using hkey
    exact h.append (List.nodup_singleton key) hdisj

theorem insertWith_of_not_mem {key : κ} (value : ν) {items : List (κ × ν)}
    (h : key ∉ items.map Prod.fst) : insertWith join key value items = items ++ [(key, value)] := by
  induction items with
  | nil => rfl
  | cons item items ih =>
    have hne : ¬ item.1 = key := by
      intro e
      apply h
      simp [e]
    have hrest : key ∉ items.map Prod.fst := by
      intro hmem
      apply h
      simp only [List.map_cons, List.mem_cons, hmem, or_true]
    simp [insertWith, hne, ih hrest]

/-- Insertion works in the part of the dictionary whose keys satisfy `p`. -/
theorem filter_insertWith (p : κ → Bool) (key : κ) (value : ν) (items : List (κ × ν)) :
    (insertWith join key value items).filter (fun item => p item.1) =
      if p key then insertWith join key value (items.filter fun item => p item.1)
      else items.filter fun item => p item.1 := by
  induction items with
  | nil => cases hk : p key <;> simp [insertWith, hk]
  | cons item items ih =>
    by_cases h : item.1 = key
    · subst h
      cases hp : p item.1 <;> simp [insertWith, hp]
    · cases hp : p item.1 <;> cases hk : p key <;> simp_all [insertWith]

theorem ofPairs_concat (pairs : List (κ × ν)) (pair : κ × ν) :
    ofPairs join (pairs ++ [pair]) = insertWith join pair.1 pair.2 (ofPairs join pairs) := by
  simp [ofPairs]

theorem nodup_ofPairs (pairs : List (κ × ν)) : ((ofPairs join pairs).map Prod.fst).Nodup := by
  induction pairs using List.reverseRecOn with
  | nil => simp [ofPairs]
  | append_singleton pairs pair ih =>
    rw [ofPairs_concat]
    exact nodup_insertWith join pair.1 pair.2 ih

theorem keys_ofPairs_subset (pairs : List (κ × ν)) :
    (ofPairs join pairs).map Prod.fst ⊆ pairs.map Prod.fst := by
  induction pairs using List.reverseRecOn with
  | nil => simp [ofPairs]
  | append_singleton pairs pair ih =>
    rw [ofPairs_concat, keys_insertWith, List.map_append]
    split
    · exact fun key hkey => List.mem_append_left _ (ih hkey)
    · exact fun key hkey => (List.mem_append.mp hkey).elim
        (fun hold => List.mem_append_left _ (ih hold)) fun hnew => List.mem_append_right _ hnew

theorem ofPairs_of_nodup {pairs : List (κ × ν)} (h : (pairs.map Prod.fst).Nodup) :
    ofPairs join pairs = pairs := by
  induction pairs using List.reverseRecOn with
  | nil => rfl
  | append_singleton pairs pair ih =>
    have hparts := List.nodup_append.mp (by simpa using h : (pairs.map Prod.fst ++ [pair.1]).Nodup)
    have hnew : pair.1 ∉ pairs.map Prod.fst := fun hmem => hparts.2.2 _ hmem _ (by simp) rfl
    rw [ofPairs_concat, ih hparts.1, insertWith_of_not_mem join pair.2 hnew]

theorem filter_ofPairs (p : κ → Bool) (pairs : List (κ × ν)) :
    (ofPairs join pairs).filter (fun item => p item.1) =
      ofPairs join (pairs.filter fun pair => p pair.1) := by
  induction pairs using List.reverseRecOn with
  | nil => rfl
  | append_singleton pairs pair ih =>
    rw [ofPairs_concat, filter_insertWith, ih, List.filter_append]
    cases hp : p pair.1 with
    | false => simp [hp]
    | true => simp [hp, ofPairs_concat]

/-- The dictionary after the new items, each in the place of the value its key had. -/
def update (items new : List (κ × ν)) : List (κ × ν) :=
  new.foldl (fun items item => insertWith (fun _ value => value) item.1 item.2 items) items

theorem lookup_cons (item : κ × ν) (items : List (κ × ν)) (key : κ) :
    (item :: items).lookup key = if key = item.1 then some item.2 else items.lookup key := by
  obtain ⟨k, v⟩ := item
  by_cases h : key = k
  · subst h
    simp
  · have hbeq : (key == k) = false := beq_eq_false_iff_ne.mpr h
    simp [List.lookup_cons, hbeq, h]

theorem lookup_insertWith (key other : κ) (value : ν) (items : List (κ × ν)) :
    (insertWith (fun _ new => new) key value items).lookup other =
      if other = key then some value else items.lookup other := by
  induction items with
  | nil => rw [insertWith, lookup_cons]
  | cons item items ih =>
    by_cases hk : item.1 = key
    · subst hk
      rw [insertWith, if_pos rfl, lookup_cons, lookup_cons]
      by_cases h : other = item.1 <;> simp [h]
    · rw [insertWith, if_neg hk, lookup_cons, lookup_cons, ih]
      by_cases h : other = item.1
      · subst h
        simp [hk]
      · simp [h]

theorem insertWith_of_lookup {key : κ} {value : ν} {items : List (κ × ν)}
    (h : items.lookup key = some value) : insertWith (fun _ new => new) key value items = items := by
  induction items with
  | nil => cases h
  | cons item items ih =>
    rw [lookup_cons] at h
    by_cases hk : item.1 = key
    · subst hk
      rw [if_pos rfl, Option.some.injEq] at h
      simp [insertWith, ← h]
    · rw [if_neg (Ne.symm hk)] at h
      simp [insertWith, hk, ih h]

theorem insertWith_append {key : κ} (value : ν) {items : List (κ × ν)} (later : List (κ × ν))
    (h : key ∉ items.map Prod.fst) :
    insertWith join key value (items ++ later) = items ++ insertWith join key value later := by
  induction items with
  | nil => rfl
  | cons item items ih =>
    simp only [List.map_cons, List.mem_cons, not_or] at h
    simp [insertWith, Ne.symm h.1, ih h.2]

theorem nodup_update {items : List (κ × ν)} (new : List (κ × ν)) (h : (items.map Prod.fst).Nodup) :
    ((update items new).map Prod.fst).Nodup := by
  induction new generalizing items with
  | nil => exact h
  | cons item new ih => exact ih (nodup_insertWith _ item.1 item.2 h)

/-- The old keys come first, in their order. -/
theorem keys_update (items new : List (κ × ν)) :
    ∃ rest, (update items new).map Prod.fst = items.map Prod.fst ++ rest := by
  induction new generalizing items with
  | nil => exact ⟨[], by simp [update]⟩
  | cons item new ih =>
    obtain ⟨rest, hrest⟩ := ih (insertWith (fun _ value => value) item.1 item.2 items)
    have hkeys : (update items (item :: new)).map Prod.fst =
        (insertWith (fun _ value => value) item.1 item.2 items).map Prod.fst ++ rest := hrest
    rw [keys_insertWith] at hkeys
    split at hkeys
    · exact ⟨rest, hkeys⟩
    · exact ⟨[item.1] ++ rest, by rw [hkeys, List.append_assoc]⟩

theorem lookup_update {new : List (κ × ν)} (h : (new.map Prod.fst).Nodup) (items : List (κ × ν))
    (key : κ) : (update items new).lookup key = (new.lookup key).or (items.lookup key) := by
  induction new generalizing items with
  | nil => rfl
  | cons item new ih =>
    rw [List.map_cons, List.nodup_cons] at h
    have hstep : (update items (item :: new)).lookup key =
        (new.lookup key).or ((insertWith (fun _ value => value) item.1 item.2 items).lookup key) :=
      ih h.2 _
    rw [hstep, lookup_insertWith]
    by_cases hk : key = item.1
    · subst hk
      have hnone : new.lookup item.1 = none := by
        rw [List.lookup_eq_none_iff]
        intro p hp
        have hne : item.1 ≠ p.1 := fun e => h.1 (e ▸ List.mem_map_of_mem hp)
        simp [hne]
      rw [lookup_cons, if_pos rfl, if_pos rfl, hnone]
      rfl
    · rw [lookup_cons, if_neg hk, if_neg hk]

/-- Items with all the old keys, in their places, take the place of the dictionary. `done` is the
part whose values are new already. -/
theorem update_done (todo done old : List (κ × ν)) (rest : List κ)
    (hkeys : todo.map Prod.fst = old.map Prod.fst ++ rest)
    (h : ((done ++ todo).map Prod.fst).Nodup) : update (done ++ old) todo = done ++ todo := by
  induction todo generalizing done old rest with
  | nil =>
    have hold : old.map Prod.fst = [] := (List.append_eq_nil_iff.mp hkeys.symm).1
    rw [List.map_eq_nil_iff.mp hold]
    rfl
  | cons item todo ih =>
    have hdone : item.1 ∉ done.map Prod.fst := by
      intro hmem
      rw [List.map_append, List.nodup_append] at h
      exact h.2.2 item.1 hmem item.1 (by simp) rfl
    have hnodup : ((done ++ [item] ++ todo).map Prod.fst).Nodup := by simpa using h
    have hstep : update (done ++ old) (item :: todo) =
        update (done ++ insertWith (fun _ value => value) item.1 item.2 old) todo :=
      congrArg (update · todo) (insertWith_append _ item.2 old hdone)
    rw [hstep]
    cases old with
    | nil =>
      have hnil : insertWith (fun _ value => value) item.1 item.2 [] = [item] := rfl
      have hgo := ih (done ++ [item]) [] (todo.map Prod.fst) rfl hnodup
      simpa [hnil] using hgo
    | cons o old =>
      simp only [List.map_cons, List.cons_append, List.cons.injEq] at hkeys
      have hhead : insertWith (fun _ value => value) item.1 item.2 (o :: old) = item :: old := by
        rw [insertWith, if_pos hkeys.1.symm]
      have hgo := ih (done ++ [item]) old rest hkeys.2 hnodup
      simpa [hhead] using hgo

theorem update_of_keys {items new : List (κ × ν)} {rest : List κ}
    (hkeys : new.map Prod.fst = items.map Prod.fst ++ rest) (h : (new.map Prod.fst).Nodup) :
    update items new = new :=
  update_done new [] items rest hkeys h

end Items
