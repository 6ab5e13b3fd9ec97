import Clusteration.Framework.Translate

namespace Async

variable {E : Type} {R : E → Type} {α β S X : Type}

/-- A change of awaits after which each can be answered as before. -/
structure Mask (E : Type) (R : E → Type) where
  await : E → E
  answer : (e : E) → R (await e) → R e

/-- The mask does nothing to the await `e`. -/
def Mask.Fixes (f : Mask E R) (e : E) : Prop :=
  ∀ (α : Type) (k : R e → Prog E R α), Prog.await (f.await e) (fun r => k (f.answer e r)) = .await e k

namespace Prog

def mask (f : Mask E R) (p : Prog E R α) : Prog E R α := p.translate f.await f.answer

theorem mask_bind (f : Mask E R) (p : Prog E R α) (q : α → Prog E R β) :
    (p.bind q).mask f = (p.mask f).bind fun a => (q a).mask f := translate_bind _ _ p q

theorem mask_eq_self {f : Mask E R} {Q : α → Prop} {p : Prog E R α} (h : p.Within f.Fixes Q) :
    p.mask f = p := by
  induction p with
  | ret a => rfl
  | await e k ih =>
    have hk : (fun r => (k r).mask f) = k := by
      funext r
      exact ih r (h.2 r)
    exact (h.1 α fun r => (k r).mask f).trans (congrArg (Prog.await e) hk)

end Prog

namespace Task

def mask (f : Mask E R) (t : Task E R S X α) : Task E R S X α := fun s => (t s).mask f

section Mask
variable {f : Mask E R}

theorem mask_bind (t : Task E R S X α) (k : α → Task E R S X β) :
    (t >>= k).mask f = t.mask f >>= fun a => (k a).mask f := by
  funext s
  show (Prog.bind (t s) _).mask f = Prog.bind _ _
  rw [Prog.mask_bind]
  congr 1
  funext out
  obtain ⟨r, s'⟩ := out
  cases r <;> rfl

theorem mask_catch (t : Task E R S X α) (h : X → Task E R S X α) :
    (tryCatch t h).mask f = tryCatch (t.mask f) fun x => (h x).mask f := by
  funext s
  show (Prog.bind (t s) _).mask f = Prog.bind _ _
  rw [Prog.mask_bind]
  congr 1
  funext out
  obtain ⟨r, s'⟩ := out
  cases r <;> rfl

theorem mask_retry {τ : Type} (body : τ → Task E R S X (α ⊕ τ)) (again : τ → Bool)
    (giveUp : τ → Task E R S X α) (left : Nat) (x : τ) :
    (retry body again giveUp left x).mask f =
      retry (fun x => (body x).mask f) again (fun x => (giveUp x).mask f) left x := by
  induction left generalizing x with
  | zero =>
    rw [retry, retry, mask_bind]
    congr 1
    funext out
    cases out with
    | inl a => rfl
    | inr x' => rfl
  | succ left ih =>
    rw [retry, retry, mask_bind]
    congr 1
    funext out
    cases out with
    | inl a => rfl
    | inr x' =>
      dsimp only
      split
      · exact ih x'
      · rfl

end Mask

/-- Every await of `t` is in `P`, whatever is answered. -/
def Makes (P : E → Prop) (t : Task E R S X α) : Prop := ∀ s, (t s).Within P fun _ => True

section Makes
variable {P P' : E → Prop} {t : Task E R S X α} {k : α → Task E R S X β}

theorem makes_pure (a : α) : Makes P (pure a : Task E R S X α) := fun _ => trivial

theorem makes_raise (x : X) : Makes P (throw x : Task E R S X α) := fun _ => trivial

theorem makes_session : Makes P (session : Task E R S X S) := fun _ => trivial

theorem makes_assign (g : S → S) : Makes P (assign g : Task E R S X Unit) := fun _ => trivial

theorem makes_await {e : E} (h : P e) : Makes P (await e : Task E R S X (R e)) :=
  fun _ => ⟨h, fun _ => trivial⟩

theorem makes_bind (ht : Makes P t) (hk : ∀ a, Makes P (k a)) : Makes P (t >>= k) := by
  intro s
  apply Prog.within_bind (ht s)
  intro out _
  obtain ⟨r, s'⟩ := out
  cases r with
  | ok a => exact hk a s'
  | error x => trivial

theorem makes_mono (ht : Makes P t) (hP : ∀ e, P e → P' e) : Makes P' t :=
  fun s => Prog.within_mono (ht s) hP fun _ h => h

theorem makes_of_reads (ht : Reads P t) : Makes P t :=
  fun s => Prog.within_mono (ht.within s) (fun _ h => h) fun _ _ => trivial

theorem makes_of_within (h : ∀ s, (t s).Within P fun _ => True) : Makes P t := h

theorem Makes.within (ht : Makes P t) (s : S) : (t s).Within P fun _ => True := ht s

/-- What makes no await that the mask touches stays as it is. -/
theorem Makes.mask_eq {f : Mask E R} (ht : Makes f.Fixes t) : t.mask f = t := by
  funext s
  exact Prog.mask_eq_self (ht s)

end Makes

-- programs are looked into by these rules only
attribute [irreducible] Makes

end Task
end Async
