import Mathlib.Logic.IsEmpty.Basic
import Clusteration.Framework.Protocol

namespace Async

variable {E : Type} {R : E → Type} {α S X Φ : Type}

/-- The await leaves whatever follows `T` where it is. -/
def Stays (T : Φ → (e : E) → R e → Φ → Prop) (e : E) : Prop := ∀ φ r, T φ e r φ

/-- The protocol of the awaits in `P`, in any order. -/
def Among (P : E → Prop) (_ : Unit) (e : E) (_ : R e) (_ : Unit) : Prop := P e

namespace Prog
variable {P : E → Prop}

theorem Follows.within {p : Prog E R α} {φ : Unit} {post : α → Unit → Prop}
    (h : p.Follows (Among P) φ post) (hnever : ∀ e, IsEmpty (R e) → P e) :
    p.Within P fun _ => True := by
  induction p with
  | ret a => trivial
  | await e k ih =>
    constructor
    · by_cases hr : Nonempty (R e)
      · obtain ⟨r⟩ := hr
        obtain ⟨_, he, _⟩ := h r
        exact he
      · exact hnever e (not_nonempty_iff.mp hr)
    · intro r
      obtain ⟨_, _, hk⟩ := h r
      exact ih r hk

/-- As long as every answer is in `A`, every await of `p` is in `P`. -/
def Heeds (A : (e : E) → R e → Prop) (P : E → Prop) : Prog E R α → Prop
  | .ret _ => True
  | .await e k => P e ∧ ∀ r, A e r → (k r).Heeds A P

theorem heeds_of_within {A : (e : E) → R e → Prop} {Q : α → Prop} {p : Prog E R α}
    (h : p.Within P Q) : p.Heeds A P := by
  induction p with
  | ret a => trivial
  | await e k ih => exact ⟨h.1, fun r _ => ih r (h.2 r)⟩

end Prog

theorem Task.Reads.stays {T : Φ → (e : E) → R e → Φ → Prop} {m : Task E R S X α} {s : S} {φ : Φ}
    {Q : α → S → Φ → Prop} {F : X → S → Φ → Prop} (hm : Reads (Stays T) m) (hQ : ∀ a, Q a s φ)
    (hF : ∀ x, F x s φ) : Spec T m s φ Q F :=
  hm.spec (fun _ he r => he φ r) hQ hF

end Async
