import Clusteration.Framework.Coroutine

namespace Async

variable {E : Type} {R : E → Type} {α β S X Φ Ψ : Type}

/-- Two protocols side by side, over the same awaits. -/
def Both (T : Φ → (e : E) → R e → Φ → Prop) (U : Ψ → (e : E) → R e → Ψ → Prop) (φ : Φ × Ψ) (e : E)
    (r : R e) (φ' : Φ × Ψ) : Prop :=
  T φ.1 e r φ'.1 ∧ U φ.2 e r φ'.2

/-- `p` follows the protocol `T` from phase `φ`: each await is one the phase allows, whatever is
answered, and a return leaves a phase that satisfies `post`. -/
def Prog.Follows (T : Φ → (e : E) → R e → Φ → Prop) :
    Prog E R α → Φ → (α → Φ → Prop) → Prop
  | .ret a, φ, post => post a φ
  | .await e k, φ, post => ∀ r, ∃ φ', T φ e r φ' ∧ (k r).Follows T φ' post

namespace Prog
variable {T : Φ → (e : E) → R e → Φ → Prop}

theorem follows_mono {p : Prog E R α} {φ : Φ} {post post' : α → Φ → Prop}
    (h : p.Follows T φ post) (hp : ∀ a φ', post a φ' → post' a φ') : p.Follows T φ post' := by
  induction p generalizing φ with
  | ret a => exact hp a φ h
  | await e k ih =>
    intro r
    obtain ⟨φ', ht, hk⟩ := h r
    exact ⟨φ', ht, ih r hk⟩

theorem follows_bind {p : Prog E R α} {f : α → Prog E R β} {φ : Φ} {mid : α → Φ → Prop}
    {post : β → Φ → Prop} (h : p.Follows T φ mid)
    (hf : ∀ a φ', mid a φ' → (f a).Follows T φ' post) : (p.bind f).Follows T φ post := by
  induction p generalizing φ with
  | ret a => exact hf a φ h
  | await e k ih =>
    intro r
    obtain ⟨φ', ht, hk⟩ := h r
    exact ⟨φ', ht, ih r hk⟩

/-- A protocol that allows more, and says less of where the program is. -/
theorem follows_map {U : Ψ → (e : E) → R e → Ψ → Prop} {p : Prog E R α} {φ : Φ}
    {post : α → Φ → Prop} {post' : α → Ψ → Prop} (f : Φ → Ψ) (h : p.Follows T φ post)
    (hT : ∀ φ e r φ', T φ e r φ' → U (f φ) e r (f φ')) (hp : ∀ a φ', post a φ' → post' a (f φ')) :
    p.Follows U (f φ) post' := by
  induction p generalizing φ with
  | ret a => exact hp a φ h
  | await e k ih =>
    intro r
    obtain ⟨φ', ht, hk⟩ := h r
    exact ⟨f φ', hT φ e r φ' ht, ih r hk⟩

/-- A program whose awaits leave the phase where it is can be passed over. -/
theorem Within.follows {p : Prog E R α} {P : E → Prop} {Q : α → Prop} {φ : Φ}
    (h : p.Within P Q) (hT : ∀ e, P e → ∀ r, T φ e r φ) :
    p.Follows T φ fun a φ' => Q a ∧ φ' = φ := by
  induction p with
  | ret a => exact ⟨h, rfl⟩
  | await e k ih => exact fun r => ⟨φ, hT e h.1 r, ih r (h.2 r)⟩

end Prog

namespace Task

/-- From phase `φ` and session `s` the task follows `T`; a normal end satisfies `Q`, an
exception `F`. -/
def Spec (T : Φ → (e : E) → R e → Φ → Prop) (m : Task E R S X α) (s : S) (φ : Φ)
    (Q : α → S → Φ → Prop) (F : X → S → Φ → Prop) : Prop :=
  (m s).Follows T φ fun out φ' =>
    match out.1 with
    | .ok a => Q a out.2 φ'
    | .error x => F x out.2 φ'

section Rules
variable {T : Φ → (e : E) → R e → Φ → Prop} {s : S} {φ : Φ} {m : Task E R S X α}
  {Q : α → S → Φ → Prop} {F : X → S → Φ → Prop}

theorem spec_pure {a : α} (h : Q a s φ) : Spec T (pure a) s φ Q F := h

theorem spec_raise {x : X} (h : F x s φ) : Spec T (throw x) s φ Q F := h

theorem spec_session {Q : S → S → Φ → Prop} (h : Q s s φ) : Spec T session s φ Q F := h

theorem spec_assign {f : S → S} {Q : Unit → S → Φ → Prop} (h : Q () (f s) φ) :
    Spec T (assign f) s φ Q F := h

theorem spec_await {e : E} {Q : R e → S → Φ → Prop} (h : ∀ r, ∃ φ', T φ e r φ' ∧ Q r s φ') :
    Spec T (await e) s φ Q F := h

theorem spec_mono {Q' : α → S → Φ → Prop} {F' : X → S → Φ → Prop} (h : Spec T m s φ Q F)
    (hQ : ∀ a s' φ', Q a s' φ' → Q' a s' φ') (hF : ∀ x s' φ', F x s' φ' → F' x s' φ') :
    Spec T m s φ Q' F' := by
  refine Prog.follows_mono h ?_
  rintro ⟨r, s'⟩ φ' hr
  cases r with
  | ok a => exact hQ a s' φ' hr
  | error x => exact hF x s' φ' hr

theorem spec_bind {f : α → Task E R S X β} {Q : β → S → Φ → Prop}
    (h : Spec T m s φ (fun a s' φ' => Spec T (f a) s' φ' Q F) F) :
    Spec T (m >>= f) s φ Q F := by
  refine Prog.follows_bind h ?_
  rintro ⟨r, s'⟩ φ' hr
  cases r with
  | ok a => exact hr
  | error x => exact hr

theorem spec_catch {h : X → Task E R S X α}
    (hm : Spec T m s φ Q fun x s' φ' => Spec T (h x) s' φ' Q F) :
    Spec T (tryCatch m h) s φ Q F := by
  refine Prog.follows_bind hm ?_
  rintro ⟨r, s'⟩ φ' hr
  cases r with
  | ok a => exact hr
  | error x => exact hr

/-- The rule for loops of tries. `I` holds before each try; `more` says whether the loop would go
on after it. -/
theorem spec_retry {τ : Type} {body : τ → Task E R S X (α ⊕ τ)} {again : τ → Bool}
    {giveUp : τ → Task E R S X α} (I : τ → S → Φ → Prop)
    (hb : ∀ more t s φ, I t s φ → Spec T (body t) s φ (fun out s' φ' =>
      match out with
      | .inl a => Q a s' φ'
      | .inr t' => if more && again t' then I t' s' φ' else Spec T (giveUp t') s' φ' Q F) F)
    (left : Nat) {t : τ} (h : I t s φ) : Spec T (retry body again giveUp left t) s φ Q F := by
  induction left generalizing t s φ with
  | zero =>
    refine spec_bind (spec_mono (hb false t s φ h) ?_ fun _ _ _ hF => hF)
    rintro (a | t') s' φ' hr
    · exact spec_pure hr
    · exact hr
  | succ left ih =>
    refine spec_bind (spec_mono (hb true t s φ h) ?_ fun _ _ _ hF => hF)
    rintro (a | t') s' φ' hr
    · exact spec_pure hr
    · by_cases ha : again t' = true
      · simp only [ha, Bool.and_self, if_true] at hr ⊢
        exact ih hr
      · simpa [ha] using hr

theorem Spec.follows (h : Spec T m s φ Q F) : (m s).Follows T φ fun out φ' =>
    match out.1 with
    | .ok a => Q a out.2 φ'
    | .error x => F x out.2 φ' := h

/-- A reading task keeps both the session and the phase. -/
theorem Reads.spec {P : E → Prop} (hm : Reads P m) (hT : ∀ e, P e → ∀ r, T φ e r φ)
    (hQ : ∀ a, Q a s φ) (hF : ∀ x, F x s φ) : Spec T m s φ Q F := by
  refine Prog.follows_mono (Prog.Within.follows (hm.within s) hT) ?_
  rintro ⟨r, s'⟩ φ' ⟨rfl, rfl⟩
  cases r with
  | ok a => exact hQ a
  | error x => exact hF x

end Rules

-- from here on the rules are the only way to look into a program
attribute [irreducible] Spec

end Task
end Async
