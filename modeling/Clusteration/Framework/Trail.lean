import Clusteration.Framework.Behaviour
import Clusteration.Framework.Crew
import Clusteration.Framework.Reach

namespace Transition

variable {σ ℓ : Type}

/-- A run from `init`: its steps, each with the state it was taken in, the last one first. -/
inductive Trail (step : σ → ℓ → σ → Prop) (init : σ → Prop) : List (σ × ℓ) → σ → Prop
  | start {s : σ} : init s → Trail step init [] s
  | next {past : List (σ × ℓ)} {s s' : σ} {l : ℓ} : Trail step init past s → step s l s' →
      Trail step init ((s, l) :: past) s'

section Rules
variable {step : σ → ℓ → σ → Prop} {init : σ → Prop} {past : List (σ × ℓ)} {s : σ}

/-- The run up to one of its steps. -/
theorem Trail.before (h : Trail step init past s) {s₀ : σ} {l : ℓ} (hm : (s₀, l) ∈ past) :
    ∃ past₀ s₁, Trail step init past₀ s₀ ∧ past₀ ⊆ past ∧ step s₀ l s₁ := by
  induction h with
  | start _ => cases hm
  | @next past s s' l' hrun hstep ih =>
    rcases List.mem_cons.mp hm with heq | hm
    · cases heq
      exact ⟨past, s', hrun, List.subset_cons_self _ _, hstep⟩
    · obtain ⟨past₀, s₁, hrun₀, hsub, hstep₀⟩ := ih hm
      exact ⟨past₀, s₁, hrun₀, List.Subset.trans hsub (List.subset_cons_self _ _), hstep₀⟩

/-- Every reachable state has a run. -/
theorem Reach.trail (h : Reach step (fun _ _ _ => True) init s) : ∃ past, Trail step init past s := by
  induction h with
  | start hi => exact ⟨[], .start hi⟩
  | next _ hstep _ ih =>
    obtain ⟨past, hrun⟩ := ih
    exact ⟨_, hrun.next hstep⟩

end Rules
end Transition

namespace Async

variable {E : Type} {R : E → Type} {ρ : Type}

/-- The coroutine of the request `φ.1` keeps a log, and awaits only what its log so far warrants. -/
def Warranted (ok : ρ → Log E R → E → Prop) (φ : ρ × Log E R) (e : E) (r : R e)
    (φ' : ρ × Log E R) : Prop :=
  ok φ.1 φ.2 e ∧ φ' = (φ.1, ⟨e, r⟩ :: φ.2)

end Async
