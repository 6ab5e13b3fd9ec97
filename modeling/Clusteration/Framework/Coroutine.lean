import Mathlib.Logic.Basic

namespace Async

/-- A coroutine of an event loop. It is suspended at the await `e` and goes on with its answer;
between two awaits nothing else runs. -/
inductive Prog (E : Type) (R : E → Type) (α : Type) : Type where
  | ret (a : α)
  | await (e : E) (k : R e → Prog E R α)

variable {E : Type} {R : E → Type} {α β γ S X : Type}

namespace Prog

def bind : Prog E R α → (α → Prog E R β) → Prog E R β
  | .ret a, f => f a
  | .await e k, f => .await e fun r => (k r).bind f

def isRet : Prog E R α → Bool
  | .ret _ => true
  | .await _ _ => false

theorem bind_assoc (p : Prog E R α) (f : α → Prog E R β) (g : β → Prog E R γ) :
    (p.bind f).bind g = p.bind fun a => (f a).bind g := by
  induction p with
  | ret a => rfl
  | await e k ih =>
    simp only [bind]
    congr 1
    funext r
    exact ih r

/-- Every await of `p` is in `P`, and every value it can return satisfies `Q`. -/
def Within (P : E → Prop) (Q : α → Prop) : Prog E R α → Prop
  | .ret a => Q a
  | .await e k => P e ∧ ∀ r, (k r).Within P Q

theorem within_bind {P : E → Prop} {Q : α → Prop} {Q' : β → Prop} {p : Prog E R α}
    {f : α → Prog E R β} (hp : p.Within P Q) (hf : ∀ a, Q a → (f a).Within P Q') :
    (p.bind f).Within P Q' := by
  induction p with
  | ret a => exact hf a hp
  | await e k ih => exact ⟨hp.1, fun r => ih r (hp.2 r)⟩

theorem within_mono {P P' : E → Prop} {Q Q' : α → Prop} {p : Prog E R α}
    (h : p.Within P Q) (hP : ∀ e, P e → P' e) (hQ : ∀ a, Q a → Q' a) : p.Within P' Q' := by
  induction p with
  | ret a => exact hQ a h
  | await e k ih => exact ⟨hP e h.1, fun r => ih r (h.2 r)⟩

end Prog

/-- A coroutine with a private session `S` and exceptions `X`. A raised exception keeps what the
session holds, so a handler sees every assignment made before the raise. -/
def Task (E : Type) (R : E → Type) (S X α : Type) : Type := S → Prog E R (Except X α × S)

namespace Task

protected def pure (a : α) : Task E R S X α := fun s => .ret (.ok a, s)

protected def bind (m : Task E R S X α) (f : α → Task E R S X β) : Task E R S X β := fun s =>
  (m s).bind fun
    | (.ok a, s') => f a s'
    | (.error x, s') => .ret (.error x, s')

def raise (x : X) : Task E R S X α := fun s => .ret (.error x, s)

/-- `try: m except X as x: h x`. -/
def catching (m : Task E R S X α) (h : X → Task E R S X α) : Task E R S X α := fun s =>
  (m s).bind fun
    | (.ok a, s') => .ret (.ok a, s')
    | (.error x, s') => h x s'

def session : Task E R S X S := fun s => .ret (.ok s, s)

def assign (f : S → S) : Task E R S X Unit := fun s => .ret (.ok (), f s)

def await (e : E) : Task E R S X (R e) := fun s => .await e fun r => .ret (.ok r, s)

instance : Monad (Task E R S X) where
  pure := Task.pure
  bind := Task.bind

instance : MonadExceptOf X (Task E R S X) where
  throw := raise
  tryCatch := catching

/-- A loop of tries that pass on what they learnt. It ends with the first try that comes to a
value; when no try is left, or one says not to go on, it gives up. -/
def retry {τ : Type} (body : τ → Task E R S X (α ⊕ τ)) (again : τ → Bool)
    (giveUp : τ → Task E R S X α) : Nat → τ → Task E R S X α
  | 0, t => body t >>= fun
    | .inl a => pure a
    | .inr t' => giveUp t'
  | left + 1, t => body t >>= fun
    | .inl a => pure a
    | .inr t' => if again t' then retry body again giveUp left t' else giveUp t'

/-- `m` only awaits in `P` and leaves the session alone. -/
def Reads (P : E → Prop) (m : Task E R S X α) : Prop :=
  ∀ s, (m s).Within P fun out => out.2 = s

section Reads
variable {P : E → Prop} {m : Task E R S X α} {f : α → Task E R S X β}

theorem reads_pure (a : α) : Reads P (pure a : Task E R S X α) := fun _ => rfl

theorem reads_raise (x : X) : Reads P (throw x : Task E R S X α) := fun _ => rfl

theorem reads_await {e : E} (h : P e) : Reads P (await e : Task E R S X (R e)) :=
  fun _ => ⟨h, fun _ => rfl⟩

theorem reads_bind (hm : Reads P m) (hf : ∀ a, Reads P (f a)) : Reads P (m >>= f) := by
  intro s
  refine Prog.within_bind (hm s) ?_
  rintro ⟨r, s'⟩ rfl
  cases r with
  | ok a => exact hf a s'
  | error x => rfl

theorem reads_catch {h : X → Task E R S X α} (hm : Reads P m) (hh : ∀ x, Reads P (h x)) :
    Reads P (tryCatch m h) := by
  intro s
  refine Prog.within_bind (hm s) ?_
  rintro ⟨r, s'⟩ rfl
  cases r with
  | ok a => rfl
  | error x => exact hh x s'

theorem reads_retry {τ : Type} {body : τ → Task E R S X (α ⊕ τ)} {again : τ → Bool}
    {giveUp : τ → Task E R S X α} (hb : ∀ t, Reads P (body t)) (hg : ∀ t, Reads P (giveUp t))
    (left : Nat) (t : τ) : Reads P (retry body again giveUp left t) := by
  induction left generalizing t with
  | zero =>
    refine reads_bind (hb t) ?_
    rintro (a | t')
    · exact reads_pure a
    · exact hg t'
  | succ left ih =>
    refine reads_bind (hb t) ?_
    rintro (a | t')
    · exact reads_pure a
    · by_cases h : again t' = true
      · simpa [h] using ih t'
      · simpa [h] using hg t'

theorem reads_mono {P' : E → Prop} (hm : Reads P m) (h : ∀ e, P e → P' e) : Reads P' m :=
  fun s => Prog.within_mono (hm s) h fun _ ha => ha

theorem Reads.within (hm : Reads P m) (s : S) : (m s).Within P fun out => out.2 = s := hm s

theorem reads_of_within (h : ∀ s, (m s).Within P fun out => out.2 = s) : Reads P m := h

end Reads

-- from here on programs that only read are looked into by these rules
attribute [irreducible] Reads

end Task
end Async
