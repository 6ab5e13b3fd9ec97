import Clusteration.Framework.Coroutine

namespace Async

variable {E : Type} {R : E → Type} {α β S X : Type}

/-- The awaits a run has come through, each with its answer: the last one first. -/
abbrev Log (E : Type) (R : E → Type) := List ((e : E) × R e)

/-- What the world around a coroutine answers to an await, knowing the run so far. `none`: it never
answers. -/
abbrev Behaviour (E : Type) (R : E → Type) := Log E R → (e : E) → Option (R e)

namespace Prog
variable {b : Behaviour E R} {P P' : Log E R → E → Prop}

/-- The value `p` comes to in this world; `none` when it waits for ever. -/
def play (b : Behaviour E R) : Prog E R α → Log E R → Option α
  | .ret a, _ => some a
  | .await e k, log => (b log e).bind fun r => (k r).play b (⟨e, r⟩ :: log)

/-- In this world every await that `p` comes to satisfies `P`, and its end, if it has one, `Q`. -/
def Along (b : Behaviour E R) (P : Log E R → E → Prop) (Q : α → Log E R → Prop) :
    Prog E R α → Log E R → Prop
  | .ret a, log => Q a log
  | .await e k, log => P log e ∧ ∀ r, b log e = some r → (k r).Along b P Q (⟨e, r⟩ :: log)

/-- A coroutine ends exactly when each await it comes to is answered. -/
theorem isSome_play_iff (p : Prog E R α) (log : Log E R) :
    (p.play b log).isSome ↔
      p.Along b (fun log e => (b log e).isSome) (fun _ _ => True) log := by
  induction p generalizing log with
  | ret a => simp [play, Along]
  | await e k ih =>
    simp only [play, Along]
    cases hr : b log e with
    | none => simp
    | some r => simp [ih r]

theorem along_mono {Q Q' : α → Log E R → Prop} {p : Prog E R α} {log : Log E R}
    (h : p.Along b P Q log) (hP : ∀ log e, P log e → P' log e)
    (hQ : ∀ a log, Q a log → Q' a log) : p.Along b P' Q' log := by
  induction p generalizing log with
  | ret a => exact hQ a log h
  | await e k ih =>
    constructor
    · exact hP log e h.1
    · intro r hr
      exact ih r (h.2 r hr)

theorem along_and {p : Prog E R α} {log : Log E R} (h : p.Along b P (fun _ _ => True) log)
    (h' : p.Along b P' (fun _ _ => True) log) :
    p.Along b (fun log e => P log e ∧ P' log e) (fun _ _ => True) log := by
  induction p generalizing log with
  | ret a => trivial
  | await e k ih =>
    constructor
    · exact ⟨h.1, h'.1⟩
    · intro r hr
      exact ih r (h.2 r hr) (h'.2 r hr)

theorem along_bind {Q : α → Log E R → Prop} {Q' : β → Log E R → Prop} {p : Prog E R α}
    {f : α → Prog E R β} {log : Log E R} (hp : p.Along b P Q log)
    (hf : ∀ a log', Q a log' → (f a).Along b P Q' log') : (p.bind f).Along b P Q' log := by
  induction p generalizing log with
  | ret a => exact hf a log hp
  | await e k ih =>
    constructor
    · exact hp.1
    · intro r hr
      exact ih r (hp.2 r hr)

end Prog

namespace Task

/-- In this world every await that `t` comes to satisfies `P`, and `clock` never goes back. -/
def Waits (b : Behaviour E R) (clock : Log E R → Nat) (P : Log E R → E → Prop)
    (t : Task E R S X α) : Prop :=
  ∀ s log, (t s).Along b P (fun _ log' => clock log ≤ clock log') log

section Waits
variable {b : Behaviour E R} {clock : Log E R → Nat} {P P' : Log E R → E → Prop}
  {t : Task E R S X α} {f : α → Task E R S X β}

theorem waits_pure (a : α) : Waits b clock P (pure a : Task E R S X α) := fun _ _ => Nat.le_refl _

theorem waits_raise (x : X) : Waits b clock P (throw x : Task E R S X α) := fun _ _ => Nat.le_refl _

theorem waits_session : Waits b clock P (session : Task E R S X S) := fun _ _ => Nat.le_refl _

theorem waits_assign (g : S → S) : Waits b clock P (assign g : Task E R S X Unit) :=
  fun _ _ => Nat.le_refl _

theorem waits_await {e : E} (hP : ∀ log, P log e)
    (hclock : ∀ log r, b log e = some r → clock log ≤ clock (⟨e, r⟩ :: log)) :
    Waits b clock P (await e : Task E R S X (R e)) := by
  intro s log
  constructor
  · exact hP log
  · intro r hr
    exact hclock log r hr

theorem waits_bind (ht : Waits b clock P t) (hf : ∀ a, Waits b clock P (f a)) :
    Waits b clock P (t >>= f) := by
  intro s log
  apply Prog.along_bind (ht s log)
  intro out log' hle
  obtain ⟨r, s'⟩ := out
  cases r with
  | ok a =>
    apply Prog.along_mono (hf a s' log') (fun _ _ h => h)
    intro _ log'' hle'
    exact Nat.le_trans hle hle'
  | error x => exact hle

theorem waits_catch {h : X → Task E R S X α} (ht : Waits b clock P t)
    (hh : ∀ x, Waits b clock P (h x)) : Waits b clock P (tryCatch t h) := by
  intro s log
  apply Prog.along_bind (ht s log)
  intro out log' hle
  obtain ⟨r, s'⟩ := out
  cases r with
  | ok a => exact hle
  | error x =>
    apply Prog.along_mono (hh x s' log') (fun _ _ h => h)
    intro _ log'' hle'
    exact Nat.le_trans hle hle'

theorem waits_retry {τ : Type} {body : τ → Task E R S X (α ⊕ τ)} {again : τ → Bool}
    {giveUp : τ → Task E R S X α} (hb : ∀ x, Waits b clock P (body x))
    (hg : ∀ x, Waits b clock P (giveUp x)) (left : Nat) (x : τ) :
    Waits b clock P (retry body again giveUp left x) := by
  induction left generalizing x with
  | zero =>
    apply waits_bind (hb x)
    intro out
    cases out with
    | inl a => exact waits_pure a
    | inr x' => exact hg x'
  | succ left ih =>
    apply waits_bind (hb x)
    intro out
    cases out with
    | inl a => exact waits_pure a
    | inr x' =>
      by_cases h : again x' = true
      · simpa [h] using ih x'
      · simpa [h] using hg x'

/-- The rule for a loop of tries that ends before it has none left: `I left` holds when `left` tries
may still follow. -/
theorem along_retry {τ : Type} {body : τ → Task E R S X (α ⊕ τ)} {again : τ → Bool}
    {giveUp : τ → Task E R S X α} {Q : Except X α × S → Log E R → Prop} (I : Nat → Log E R → Prop)
    (hb : ∀ left x s log, I left log → (body x s).Along b P (fun out log' =>
      match out.1 with
      | .ok (.inl a) => Q (.ok a, out.2) log'
      | .ok (.inr x') =>
        if again x' then ∃ left', left = left' + 1 ∧ I left' log'
        else (giveUp x' out.2).Along b P Q log'
      | .error x => Q (.error x, out.2) log') log)
    (left : Nat) {x : τ} {s : S} {log : Log E R} (h : I left log) :
    (retry body again giveUp left x s).Along b P Q log := by
  induction left generalizing x s log with
  | zero =>
    apply Prog.along_bind (hb 0 x s log h)
    intro out log' hr
    obtain ⟨r, s'⟩ := out
    cases r with
    | error x => exact hr
    | ok tried =>
      cases tried with
      | inl a => exact hr
      | inr x' =>
        by_cases ha : again x' = true
        · simp [ha] at hr
        · simpa [ha] using hr
  | succ left ih =>
    apply Prog.along_bind (hb (left + 1) x s log h)
    intro out log' hr
    obtain ⟨r, s'⟩ := out
    cases r with
    | error x => exact hr
    | ok tried =>
      cases tried with
      | inl a => exact hr
      | inr x' =>
        by_cases ha : again x' = true
        · obtain ⟨left', hleft, hI⟩ : ∃ left', left + 1 = left' + 1 ∧ I left' log' := by
            simpa [ha] using hr
          obtain rfl : left = left' := by omega
          simpa [ha] using ih hI
        · simpa [ha] using hr

theorem waits_mono (ht : Waits b clock P t) (hP : ∀ log e, P log e → P' log e) :
    Waits b clock P' t :=
  fun s log => Prog.along_mono (ht s log) hP fun _ _ h => h

theorem Waits.along (ht : Waits b clock P t) (s : S) (log : Log E R) :
    (t s).Along b P (fun _ log' => clock log ≤ clock log') log := ht s log

theorem waits_of_along
    (h : ∀ s log, (t s).Along b P (fun _ log' => clock log ≤ clock log') log) :
    Waits b clock P t := h

end Waits

-- as with `Reads`, the rules are the only way to look into a program from here on
attribute [irreducible] Waits

end Task
end Async
