import Mathlib.Data.List.Forall2
import Clusteration.Framework.Protocol

namespace Async

/-- Coroutines side by side, each in a phase of the protocol `T`. -/
def Crew {E : Type} {R : E → Type} {α Φ : Type} (T : Φ → (e : E) → R e → Φ → Prop)
    (post : α → Φ → Prop) : List (Prog E R α) → List Φ → Prop :=
  List.Forall₂ fun p φ => p.Follows T φ post

namespace Crew
variable {E : Type} {R : E → Type} {α Φ : Type} {T : Φ → (e : E) → R e → Φ → Prop}
  {post : α → Φ → Prop} {ps : List (Prog E R α)} {φs : List Φ}

theorem mem (h : Crew T post ps φs) {φ : Φ} (hφ : φ ∈ φs) :
    ∃ p ∈ ps, p.Follows T φ post := by
  induction h with
  | nil => cases hφ
  | cons hr hrest ih =>
    rcases List.mem_cons.mp hφ with rfl | hφ
    · exact ⟨_, List.mem_cons_self, hr⟩
    · obtain ⟨p, hp, hf⟩ := ih hφ
      exact ⟨p, List.mem_cons_of_mem _ hp, hf⟩

theorem at_index (h : Crew T post ps φs) {i : Nat} {p : Prog E R α} (hp : ps[i]? = some p) :
    ∃ φ, φs[i]? = some φ ∧ p.Follows T φ post := by
  induction h generalizing i with
  | nil => simp at hp
  | cons hr hrest ih =>
    cases i with
    | zero =>
      simp only [List.getElem?_cons_zero, Option.some.injEq] at hp
      subst hp
      exact ⟨_, rfl, hr⟩
    | succ i => exact ih hp

theorem set (h : Crew T post ps φs) (i : Nat) {p : Prog E R α} {φ : Φ}
    (hp : p.Follows T φ post) : Crew T post (ps.set i p) (φs.set i φ) := by
  induction h generalizing i with
  | nil => exact .nil
  | cons hr hrest ih =>
    cases i with
    | zero => exact .cons hp hrest
    | succ i => exact .cons hr (ih i)

/-- A further coroutine starts. -/
theorem join (h : Crew T post ps φs) {p : Prog E R α} {φ : Φ} (hp : p.Follows T φ post) :
    Crew T post (ps ++ [p]) (φs ++ [φ]) := by
  induction h with
  | nil => exact .cons hp .nil
  | cons hr hrest ih => exact .cons hr ih

/-- All of them are replaced by one. -/
theorem replace (h : Crew T post ps φs) {p : Prog E R α} {φ : Φ} (hp : p.Follows T φ post) :
    Crew T post (ps.map fun _ => p) (φs.map fun _ => φ) := by
  induction h with
  | nil => exact .nil
  | cons hr hrest ih => exact .cons hp ih

/-- One of them goes through an await: its phase goes on as `T` allows. -/
theorem await (h : Crew T post ps φs) {i : Nat} {e : E} {k : R e → Prog E R α}
    (hp : ps[i]? = some (.await e k)) (r : R e) :
    ∃ φ φ', φs[i]? = some φ ∧ T φ e r φ' ∧ Crew T post (ps.set i (k r)) (φs.set i φ') := by
  obtain ⟨φ, hφ, hf⟩ := h.at_index hp
  obtain ⟨φ', ht, hf'⟩ := hf r
  exact ⟨φ, φ', hφ, ht, h.set i hf'⟩

/-- The phases after one of them moved. -/
theorem phase_set {i j : Nat} {φ ψ : Φ} (h : (φs.set i φ)[j]? = some ψ) :
    j = i ∧ ψ = φ ∨ j ≠ i ∧ φs[j]? = some ψ := by
  rw [List.getElem?_set] at h
  split at h
  · next heq =>
    split at h
    · cases h
      exact .inl ⟨heq.symm, rfl⟩
    · cases h
  · next hne => exact .inr ⟨Ne.symm hne, h⟩

end Crew
end Async
