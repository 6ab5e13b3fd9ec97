import Clusteration.Framework.Coroutine

namespace Async

variable {E E' : Type} {R : E → Type} {R' : E' → Type} {α β S X X' : Type}

namespace Prog

/-- Each await `e` is made as `f e`, and its answer read back by `g`. -/
def translate (f : E → E') (g : (e : E) → R' (f e) → R e) : Prog E R α → Prog E' R' α
  | .ret a => .ret a
  | .await e k => .await (f e) fun r => (k (g e r)).translate f g

theorem translate_bind (f : E → E') (g : (e : E) → R' (f e) → R e) (p : Prog E R α)
    (q : α → Prog E R β) :
    (p.bind q).translate f g = (p.translate f g).bind fun a => (q a).translate f g := by
  induction p with
  | ret a => rfl
  | await e k ih =>
    simp only [bind, translate]
    congr 1
    funext r
    exact ih _

theorem translate_id (p : Prog E R α) : (p.translate id fun _ r => r) = p := by
  induction p with
  | ret a => rfl
  | await e k ih =>
    simp only [translate]
    congr 1
    funext r
    exact ih r

theorem within_translate {f : E → E'} {g : (e : E) → R' (f e) → R e} {P : E → Prop} {P' : E' → Prop}
    {Q : α → Prop} {p : Prog E R α} (h : p.Within P Q) (hP : ∀ e, P e → P' (f e)) :
    (p.translate f g).Within P' Q := by
  induction p with
  | ret a => exact h
  | await e k ih => exact ⟨hP e h.1, fun r => ih _ (h.2 _)⟩

/-- As `Within`, where `e` is only answered by what `N e` admits. -/
def WithinOf (N : (e : E) → R e → Prop) (P : E → Prop) (Q : α → Prop) : Prog E R α → Prop
  | .ret a => Q a
  | .await e k => P e ∧ ∀ r, N e r → (k r).WithinOf N P Q

section Rules
variable {N : (e : E) → R e → Prop} {P : E → Prop} {Q : α → Prop}

theorem withinOf_bind {Q' : β → Prop} {p : Prog E R α} {f : α → Prog E R β}
    (hp : p.WithinOf N P Q) (hf : ∀ a, Q a → (f a).WithinOf N P Q') :
    (p.bind f).WithinOf N P Q' := by
  induction p with
  | ret a => exact hf a hp
  | await e k ih => exact ⟨hp.1, fun r hr => ih r (hp.2 r hr)⟩

/-- What is carried over makes only awaits of the form `f e`. -/
theorem withinOf_translate {f : E' → E} {g : (e : E') → R (f e) → R' e} {Q : α → Prop}
    {p : Prog E' R' α} (hP : ∀ e, P (f e)) (hQ : ∀ a, Q a) : (p.translate f g).WithinOf N P Q := by
  induction p with
  | ret a => exact hQ a
  | await e k ih => exact ⟨hP e, fun r _ => ih _⟩

end Rules
end Prog

namespace Task

/-- A task carried over to other awaits, with its exceptions. -/
def translate (f : E → E') (g : (e : E) → R' (f e) → R e) (x : X → X') (m : Task E R S X α) :
    Task E' R' S X' α := fun s =>
  ((m s).translate f g).bind fun out => .ret (out.1.mapError x, out.2)

section Translate
variable {f : E → E'} {g : (e : E) → R' (f e) → R e} {x : X → X'}

theorem translate_bind (m : Task E R S X α) (k : α → Task E R S X β) :
    translate f g x (m >>= k) = translate f g x m >>= fun a => translate f g x (k a) := by
  funext s
  show ((Prog.bind (m s) _).translate f g).bind _ = Prog.bind (Prog.bind _ _) _
  rw [Prog.translate_bind, Prog.bind_assoc, Prog.bind_assoc]
  congr 1
  funext out
  obtain ⟨r, s'⟩ := out
  cases r <;> rfl

/-- The handler has to treat the exceptions of the program that is carried over as before. -/
theorem translate_catch {m : Task E R S X α} {h : X → Task E R S X α} {h' : X' → Task E' R' S X' α}
    (hh : ∀ y, h' (x y) = translate f g x (h y)) :
    translate f g x (tryCatch m h) = tryCatch (translate f g x m) h' := by
  funext s
  show ((Prog.bind (m s) _).translate f g).bind _ = Prog.bind (Prog.bind _ _) _
  rw [Prog.translate_bind, Prog.bind_assoc, Prog.bind_assoc]
  congr 1
  funext out
  obtain ⟨r, s'⟩ := out
  cases r with
  | ok a => rfl
  | error y => exact (congrFun (hh y) s').symm

/-- A task that only reads still does when it is carried over. -/
theorem reads_translate {P : E → Prop} {P' : E' → Prop} {m : Task E R S X α} (hm : Reads P m)
    (hP : ∀ e, P e → P' (f e)) : Reads P' (translate f g x m) :=
  reads_of_within fun s =>
    Prog.within_bind (Prog.within_translate (hm.within s) hP) fun _ h => h

end Translate

/-- `m` only awaits in `P`, and a value it returns satisfies `Q`, where `e` is only answered by what
`N e` admits. -/
def WithinOf (N : (e : E) → R e → Prop) (P : E → Prop) (Q : α → Prop) (m : Task E R S X α) : Prop :=
  ∀ s, (m s).WithinOf N P fun out => ∀ a, out.1 = .ok a → Q a

section WithinOf
variable {N : (e : E) → R e → Prop} {P : E → Prop} {Q : α → Prop} {Q' : β → Prop}
  {m : Task E R S X α}

theorem withinOf_pure {a : α} (h : Q a) : WithinOf N P Q (pure a : Task E R S X α) := by
  intro s a' ha
  cases ha
  exact h

theorem withinOf_raise (x : X) : WithinOf N P Q (throw x : Task E R S X α) := by
  intro s a ha
  cases ha

theorem withinOf_await {e : E} {Q : R e → Prop} (hP : P e) (h : ∀ r, N e r → Q r) :
    WithinOf N P Q (await e : Task E R S X (R e)) := by
  intro s
  refine ⟨hP, ?_⟩
  intro r hr a ha
  cases ha
  exact h r hr

theorem withinOf_bind {f : α → Task E R S X β} (hm : WithinOf N P Q m)
    (hf : ∀ a, Q a → WithinOf N P Q' (f a)) : WithinOf N P Q' (m >>= f) := by
  intro s
  apply Prog.withinOf_bind (hm s)
  rintro ⟨r, s'⟩ hr
  cases r with
  | ok a => exact hf a (hr a rfl) s'
  | error x =>
    intro b hb
    cases hb

theorem withinOf_catch {h : X → Task E R S X α} (hm : WithinOf N P Q m)
    (hh : ∀ x, WithinOf N P Q (h x)) : WithinOf N P Q (tryCatch m h) := by
  intro s
  apply Prog.withinOf_bind (hm s)
  rintro ⟨r, s'⟩ hr
  cases r with
  | ok a => exact hr
  | error x => exact hh x s'

/-- A task that is carried over makes only awaits of the form `f e`. -/
theorem withinOf_translate {f : E' → E} {g : (e : E') → R (f e) → R' e} {x : X' → X}
    (hP : ∀ e, P (f e)) (m' : Task E' R' S X' α) :
    WithinOf N P (fun _ => True) (translate f g x m') := by
  intro s
  apply Prog.withinOf_bind (Prog.withinOf_translate hP fun _ => trivial)
  intro out _ a _
  trivial

theorem WithinOf.prog (h : WithinOf N P Q m) (s : S) :
    (m s).WithinOf N P fun out => ∀ a, out.1 = .ok a → Q a := h s

end WithinOf

-- the rules apply to the task as it is written, without running it
attribute [irreducible] WithinOf

end Task
end Async
