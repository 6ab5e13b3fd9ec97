import Mathlib.Logic.Relation

namespace Transition

variable {σ τ ℓ : Type}

/-- The states of the runs from `init` whose steps all meet the condition `ok`. -/
inductive Reach (step : σ → ℓ → σ → Prop) (ok : σ → ℓ → σ → Prop) (init : σ → Prop) : σ → Prop
  | start {s : σ} : init s → Reach step ok init s
  | next {s s' : σ} {l : ℓ} : Reach step ok init s → step s l s' → ok s l s' →
      Reach step ok init s'

/-- A further piece of a run, from a state already reached. -/
inductive Path (step : σ → ℓ → σ → Prop) (ok : σ → ℓ → σ → Prop) : σ → σ → Prop
  | refl (s : σ) : Path step ok s s
  | next {s s' s'' : σ} {l : ℓ} : Path step ok s s' → step s' l s'' → ok s' l s'' →
      Path step ok s s''

section Rules
variable {step : σ → ℓ → σ → Prop} {ok ok' : σ → ℓ → σ → Prop} {init : σ → Prop}

theorem Reach.invariant {P : σ → Prop} (hi : ∀ s, init s → P s)
    (hs : ∀ s l s', P s → step s l s' → ok s l s' → P s') {s : σ} (h : Reach step ok init s) :
    P s := by
  induction h with
  | start h0 => exact hi _ h0
  | next _ hstep hok ih => exact hs _ _ _ ih hstep hok

/-- An invariant may use those proved before it. -/
theorem Reach.strengthen {P Q : σ → Prop} (hP : ∀ s, Reach step ok init s → P s)
    (hi : ∀ s, init s → Q s)
    (hs : ∀ s l s', P s → P s' → Q s → step s l s' → ok s l s' → Q s') {s : σ}
    (h : Reach step ok init s) : Q s := by
  induction h with
  | start h0 => exact hi _ h0
  | next hr hstep hok ih => exact hs _ _ _ (hP _ hr) (hP _ (.next hr hstep hok)) ih hstep hok

theorem Reach.mono (hm : ∀ s l s', ok s l s' → ok' s l s') {s : σ} (h : Reach step ok init s) :
    Reach step ok' init s := by
  induction h with
  | start h0 => exact .start h0
  | next _ hstep hok ih => exact .next ih hstep (hm _ _ _ hok)

theorem Path.trans {s s' s'' : σ} (h : Path step ok s s') (h' : Path step ok s' s'') :
    Path step ok s s'' := by
  induction h' with
  | refl => exact h
  | next _ hstep hok ih => exact .next ih hstep hok

theorem Path.mono (hm : ∀ s l s', ok s l s' → ok' s l s') {s s' : σ} (h : Path step ok s s') :
    Path step ok' s s' := by
  induction h with
  | refl => exact .refl _
  | next _ hstep hok ih => exact .next ih hstep (hm _ _ _ hok)

theorem Reach.path {s s' : σ} (h : Reach step ok init s) (hp : Path step ok s s') :
    Reach step ok init s' := by
  induction hp with
  | refl => exact h
  | next _ hstep hok ih => exact .next ih hstep hok

/-- Forward simulation: each concrete step is matched under the same label and condition. -/
theorem Reach.simulate {step' : τ → ℓ → τ → Prop} {okτ : τ → ℓ → τ → Prop} {init' : τ → Prop}
    {Rel : σ → τ → Prop} (hi : ∀ s, init s → ∃ t, init' t ∧ Rel s t)
    (hs : ∀ s l s' t, Rel s t → step s l s' → ok s l s' →
      ∃ t', step' t l t' ∧ okτ t l t' ∧ Rel s' t') {s : σ} (h : Reach step ok init s) :
    ∃ t, Reach step' okτ init' t ∧ Rel s t := by
  induction h with
  | start h0 =>
    obtain ⟨t, ht, hr⟩ := hi _ h0
    exact ⟨t, .start ht, hr⟩
  | next _ hstep hok ih =>
    obtain ⟨t, ht, hr⟩ := ih
    obtain ⟨t', hst, hok', hr'⟩ := hs _ _ _ _ hr hstep hok
    exact ⟨t', .next ht hst hok', hr'⟩

end Rules
end Transition
