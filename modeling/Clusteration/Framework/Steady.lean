import Mathlib.Tactic.Choose
import Clusteration.Framework.Coroutine

namespace Async

variable {E : Type} {R : E → Type} {α β S X : Type}

/-- What such a world answers to each await; `none`: it never does. -/
abbrev Steady (E : Type) (R : E → Type) := (e : E) → Option (R e)

namespace Prog

/-- The value `p` comes to; `none` when it waits for ever. -/
def eval (w : Steady E R) : Prog E R α → Option α
  | .ret a => some a
  | .await e k => (w e).bind fun r => (k r).eval w

theorem eval_bind (w : Steady E R) (p : Prog E R α) (f : α → Prog E R β) :
    (p.bind f).eval w = (p.eval w).bind fun a => (f a).eval w := by
  induction p with
  | ret a => rfl
  | await e k ih =>
    simp only [bind, eval, ih]
    cases w e <;> rfl

end Prog

namespace Task

section Eval
variable {w : Steady E R} {m : Task E R S X α} {s s' : S} {x : X}

theorem eval_bind_ok {f : α → Task E R S X β} {a : α} (h : (m s).eval w = some (.ok a, s')) :
    ((m >>= f) s).eval w = (f a s').eval w := by
  show (Prog.bind (m s) _).eval w = _
  rw [Prog.eval_bind, h]
  rfl

theorem eval_bind_raise {f : α → Task E R S X β} (h : (m s).eval w = some (.error x, s')) :
    ((m >>= f) s).eval w = some (.error x, s') := by
  show (Prog.bind (m s) _).eval w = _
  rw [Prog.eval_bind, h]
  rfl

theorem eval_catch_ok {h : X → Task E R S X α} {a : α} (hm : (m s).eval w = some (.ok a, s')) :
    ((tryCatch m h : Task E R S X α) s).eval w = some (.ok a, s') := by
  show (Prog.bind (m s) _).eval w = _
  rw [Prog.eval_bind, hm]
  rfl

theorem eval_catch_raise {h : X → Task E R S X α} (hm : (m s).eval w = some (.error x, s')) :
    ((tryCatch m h : Task E R S X α) s).eval w = (h x s').eval w := by
  show (Prog.bind (m s) _).eval w = _
  rw [Prog.eval_bind, hm]
  rfl

end Eval

/-- A program that any coroutine can run. -/
abbrev Anywhere (E : Type) (R : E → Type) (X α : Type) := (S : Type) → Task E R S X α

/-- It comes to `r`, whatever the session it runs in, and leaves that as it is. -/
def ComesTo (w : Steady E R) (m : Anywhere E R X α) (r : Except X α) : Prop :=
  ∀ S s, (m S s).eval w = some (r, s)

/-- It comes to something. -/
def Concludes (w : Steady E R) (m : Anywhere E R X α) : Prop := ∃ r, ComesTo w m r

section Rules
variable {w : Steady E R} {m : Anywhere E R X α}

theorem ComesTo.run {r : Except X α} (h : ComesTo w m r) (s : S) : (m S s).eval w = some (r, s) := h S s

theorem comesTo_pure (a : α) : ComesTo w (fun _ => pure a : Anywhere E R X α) (.ok a) :=
  fun _ _ => rfl

theorem comesTo_raise (x : X) : ComesTo w (fun _ => throw x : Anywhere E R X α) (.error x) :=
  fun _ _ => rfl

theorem comesTo_bind {f : (S : Type) → α → Task E R S X β} {r : Except X α} {k : α → Except X β}
    (hm : ComesTo w m r) (hf : ∀ a, ComesTo w (fun S => f S a) (k a)) :
    ComesTo w (fun S => m S >>= f S) (r >>= k) := by
  intro S s
  cases r with
  | ok a =>
    rw [eval_bind_ok (hm S s)]
    exact hf a S s
  | error x => exact eval_bind_raise (hm S s)

theorem comesTo_catch {h : (S : Type) → X → Task E R S X α} {r : Except X α} {k : X → Except X α}
    (hm : ComesTo w m r) (hh : ∀ x, ComesTo w (fun S => h S x) (k x)) :
    ComesTo w (fun S => tryCatch (m S) (h S)) (tryCatch r k) := by
  intro S s
  cases r with
  | ok a => exact eval_catch_ok (hm S s)
  | error x =>
    rw [eval_catch_raise (hm S s)]
    exact hh x S s

theorem concludes_pure (a : α) : Concludes w (fun _ => pure a : Anywhere E R X α) :=
  ⟨_, comesTo_pure a⟩

theorem concludes_raise (x : X) : Concludes w (fun _ => throw x : Anywhere E R X α) :=
  ⟨_, comesTo_raise x⟩

theorem concludes_await {e : E} {r : R e} (h : w e = some r) :
    Concludes w (fun _ => await e : Anywhere E R X (R e)) := by
  refine ⟨.ok r, ?_⟩
  intro S s
  simp [await, Prog.eval, h]

theorem concludes_bind {f : (S : Type) → α → Task E R S X β} (hm : Concludes w m)
    (hf : ∀ a, Concludes w (fun S => f S a)) : Concludes w (fun S => m S >>= f S) := by
  obtain ⟨r, hr⟩ := hm
  choose k hk using hf
  exact ⟨_, comesTo_bind hr hk⟩

theorem concludes_catch {h : (S : Type) → X → Task E R S X α} (hm : Concludes w m)
    (hh : ∀ x, Concludes w (fun S => h S x)) : Concludes w (fun S => tryCatch (m S) (h S)) := by
  obtain ⟨r, hr⟩ := hm
  choose k hk using hh
  exact ⟨_, comesTo_catch hr hk⟩

theorem concludes_retry {τ : Type} {body : (S : Type) → τ → Task E R S X (α ⊕ τ)} {again : τ → Bool}
    {giveUp : (S : Type) → τ → Task E R S X α} (hb : ∀ t, Concludes w (fun S => body S t))
    (hg : ∀ t, Concludes w (fun S => giveUp S t)) (left : Nat) (t : τ) :
    Concludes w (fun S => retry (body S) again (giveUp S) left t) := by
  induction left generalizing t with
  | zero =>
    apply concludes_bind (hb t)
    intro out
    cases out with
    | inl a => exact concludes_pure a
    | inr t' => exact hg t'
  | succ left ih =>
    apply concludes_bind (hb t)
    intro out
    cases out with
    | inl a => exact concludes_pure a
    | inr t' =>
      by_cases h : again t' = true
      · simpa [h] using ih t'
      · simpa [h] using hg t'

end Rules
end Task
end Async
