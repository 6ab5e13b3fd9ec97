import Clusteration.Framework.Protocol

namespace Async

variable {E : Type} {R : E → Type} {α β S X M : Type}

/-- Running alone, the coroutine can end with `a` and take the memory it works on from one state to
another, where `A m e r m'` says that the await `e` may answer `r` and take the memory from `m` to
`m'`. -/
inductive Prog.Ends (A : M → (e : E) → R e → M → Prop) : Prog E R α → M → α → M → Prop
  | ret (a : α) (m : M) : Ends A (.ret a) m a m
  | await {e : E} {k : R e → Prog E R α} {r : R e} {a : α} {m m₁ m₂ : M} : A m e r m₁ →
      Ends A (k r) m₁ a m₂ → Ends A (.await e k) m a m₂

/-- Any answer at all, and a record of it, newest first. -/
def Recorded (log : List ((e : E) × R e)) (e : E) (r : R e) (log' : List ((e : E) × R e)) : Prop :=
  log' = ⟨e, r⟩ :: log

namespace Prog
variable {A : M → (e : E) → R e → M → Prop} {m m' : M}

theorem Ends.of_bind {p : Prog E R α} {f : α → Prog E R β} {b : β} (h : (p.bind f).Ends A m b m') :
    ∃ a m₁, p.Ends A m a m₁ ∧ (f a).Ends A m₁ b m' := by
  induction p generalizing m with
  | ret a => exact ⟨a, m, .ret a m, h⟩
  | await e k ih =>
    cases h with
    | await hact hk =>
      obtain ⟨a, m₁, hp, hf⟩ := ih _ hk
      exact ⟨a, m₁, .await hact hp, hf⟩

theorem Ends.bind {p : Prog E R α} {f : α → Prog E R β} {a : α} {b : β} {m₁ : M}
    (hp : p.Ends A m a m₁) (hf : (f a).Ends A m₁ b m') : (p.bind f).Ends A m b m' := by
  induction hp with
  | ret a m => exact hf
  | await hact _ ih => exact .await hact (ih hf)

/-- A run of a program that follows a protocol ends in a phase that the protocol allows, and that is
still related to the memory. -/
theorem Ends.follows {Φ : Type} {T : Φ → (e : E) → R e → Φ → Prop} {Rel : Φ → M → Prop}
    {p : Prog E R α} {post : α → Φ → Prop} {a : α} (he : p.Ends A m a m')
    (hstep : ∀ φ e r φ' m m', T φ e r φ' → A m e r m' → Rel φ m → Rel φ' m') {φ : Φ}
    (h : p.Follows T φ post) (hrel : Rel φ m) : ∃ φ', post a φ' ∧ Rel φ' m' := by
  induction he generalizing φ with
  | ret a m => exact ⟨φ, h, hrel⟩
  | await hact _ ih =>
    obtain ⟨φ', ht, hk⟩ := h _
    exact ih hk (hstep _ _ _ _ _ _ ht hact hrel)

/-- Running alone, the coroutine can end, and whenever it does, `Q` holds. -/
structure Total (A : M → (e : E) → R e → M → Prop) (p : Prog E R α) (m : M) (Q : α → M → Prop) :
    Prop where
  can : ∃ a m', p.Ends A m a m'
  each : ∀ a m', p.Ends A m a m' → Q a m'

theorem total_ret {a : α} {Q : α → M → Prop} (h : Q a m) : (ret a : Prog E R α).Total A m Q := by
  refine ⟨⟨a, m, .ret a m⟩, ?_⟩
  intro a' m' he
  cases he
  exact h

theorem total_await {e : E} {k : R e → Prog E R α} {Q : α → M → Prop} (hcan : ∃ r m', A m e r m')
    (h : ∀ r m', A m e r m' → (k r).Total A m' Q) : (await e k).Total A m Q := by
  constructor
  · obtain ⟨r, m₁, hact⟩ := hcan
    obtain ⟨a, m', hk⟩ := (h r m₁ hact).can
    exact ⟨a, m', .await hact hk⟩
  · intro a m' he
    cases he with
    | await hact hk => exact (h _ _ hact).each a m' hk

theorem total_bind {p : Prog E R α} {f : α → Prog E R β} {Q : β → M → Prop}
    (h : p.Total A m fun a m' => (f a).Total A m' Q) : (p.bind f).Total A m Q := by
  constructor
  · obtain ⟨a, m₁, hp⟩ := h.can
    obtain ⟨b, m', hf⟩ := (h.each a m₁ hp).can
    exact ⟨b, m', hp.bind hf⟩
  · intro b m' he
    obtain ⟨a, m₁, hp, hf⟩ := he.of_bind
    exact (h.each a m₁ hp).each b m' hf

theorem Total.mono {p : Prog E R α} {Q Q' : α → M → Prop} (h : p.Total A m Q)
    (hQ : ∀ a m', Q a m' → Q' a m') : p.Total A m Q' := by
  refine ⟨h.can, ?_⟩
  intro a m' he
  exact hQ a m' (h.each a m' he)

end Prog

namespace Task

/-- Whenever the task ends, it does so with `Q`, or with an exception and `F`. -/
def Each (A : M → (e : E) → R e → M → Prop) (t : Task E R S X α) (s : S) (m : M)
    (Q : α → S → M → Prop) (F : X → S → M → Prop) : Prop :=
  ∀ out m', (t s).Ends A m out m' →
    match out.1 with
    | .ok a => Q a out.2 m'
    | .error x => F x out.2 m'

/-- The task can end, and whenever it does, it does so with `Q`, or with an exception and `F`. -/
structure Total (A : M → (e : E) → R e → M → Prop) (t : Task E R S X α) (s : S) (m : M)
    (Q : α → S → M → Prop) (F : X → S → M → Prop) : Prop where
  can : ∃ out m', (t s).Ends A m out m'
  each : Each A t s m Q F

section Each
variable {A : M → (e : E) → R e → M → Prop} {s : S} {m : M} {t : Task E R S X α}
  {Q : α → S → M → Prop} {F : X → S → M → Prop}

theorem each_pure {a : α} (h : Q a s m) : Each A (pure a) s m Q F := by
  intro out m' he
  cases he
  exact h

theorem each_raise {x : X} (h : F x s m) : Each A (throw x) s m Q F := by
  intro out m' he
  cases he
  exact h

theorem each_session {Q : S → S → M → Prop} (h : Q s s m) : Each A session s m Q F := by
  intro out m' he
  cases he
  exact h

theorem each_assign {f : S → S} {Q : Unit → S → M → Prop} (h : Q () (f s) m) :
    Each A (assign f) s m Q F := by
  intro out m' he
  cases he
  exact h

theorem each_await {e : E} {Q : R e → S → M → Prop} (h : ∀ r m', A m e r m' → Q r s m') :
    Each A (await e) s m Q F := by
  intro out m' he
  cases he with
  | await hact hk =>
    cases hk
    exact h _ _ hact

theorem each_mono {Q' : α → S → M → Prop} {F' : X → S → M → Prop} (h : Each A t s m Q F)
    (hQ : ∀ a s' m', Q a s' m' → Q' a s' m') (hF : ∀ x s' m', F x s' m' → F' x s' m') :
    Each A t s m Q' F' := by
  rintro ⟨r, s'⟩ m' he
  have hr := h _ _ he
  cases r with
  | ok a => exact hQ a s' m' hr
  | error x => exact hF x s' m' hr

theorem each_bind {f : α → Task E R S X β} {Q : β → S → M → Prop}
    (h : Each A t s m (fun a s' m' => Each A (f a) s' m' Q F) F) : Each A (t >>= f) s m Q F := by
  intro out m' he
  obtain ⟨⟨r, s'⟩, m₁, ht, hf⟩ := Prog.Ends.of_bind he
  have hr := h _ _ ht
  cases r with
  | ok a => exact hr _ _ hf
  | error x =>
    cases hf
    exact hr

theorem each_catch {h : X → Task E R S X α}
    (ht : Each A t s m Q fun x s' m' => Each A (h x) s' m' Q F) : Each A (tryCatch t h) s m Q F := by
  intro out m' he
  obtain ⟨⟨r, s'⟩, m₁, ht', hh⟩ := Prog.Ends.of_bind he
  have hr := ht _ _ ht'
  cases r with
  | ok a =>
    cases hh
    exact hr
  | error x => exact hr _ _ hh

/-- The rule for loops of tries. `I` holds before each try; `more` says whether the loop would go
on after it. -/
theorem each_retry {τ : Type} {body : τ → Task E R S X (α ⊕ τ)} {again : τ → Bool}
    {giveUp : τ → Task E R S X α} (I : τ → S → M → Prop)
    (hb : ∀ more t s m, I t s m → Each A (body t) s m (fun out s' m' =>
      match out with
      | .inl a => Q a s' m'
      | .inr t' => if more && again t' then I t' s' m' else Each A (giveUp t') s' m' Q F) F)
    (left : Nat) {t : τ} (h : I t s m) : Each A (retry body again giveUp left t) s m Q F := by
  induction left generalizing t s m with
  | zero =>
    refine each_bind (each_mono (hb false t s m h) ?_ fun _ _ _ hF => hF)
    rintro (a | t') s' m' hr
    · exact each_pure hr
    · exact hr
  | succ left ih =>
    refine each_bind (each_mono (hb true t s m h) ?_ fun _ _ _ hF => hF)
    rintro (a | t') s' m' hr
    · exact each_pure hr
    · by_cases ha : again t' = true
      · simp only [ha, Bool.and_self, if_true] at hr ⊢
        exact ih hr
      · simpa [ha] using hr

end Each

section Total
variable {A : M → (e : E) → R e → M → Prop} {s : S} {m : M} {t : Task E R S X α}
  {Q : α → S → M → Prop} {F : X → S → M → Prop}

theorem total_pure {a : α} (h : Q a s m) : Total A (pure a) s m Q F :=
  ⟨⟨_, _, .ret _ _⟩, each_pure h⟩

theorem total_raise {x : X} (h : F x s m) : Total A (throw x) s m Q F :=
  ⟨⟨_, _, .ret _ _⟩, each_raise h⟩

theorem total_session {Q : S → S → M → Prop} (h : Q s s m) : Total A session s m Q F :=
  ⟨⟨_, _, .ret _ _⟩, each_session h⟩

theorem total_assign {f : S → S} {Q : Unit → S → M → Prop} (h : Q () (f s) m) :
    Total A (assign f) s m Q F :=
  ⟨⟨_, _, .ret _ _⟩, each_assign h⟩

theorem total_await {e : E} {Q : R e → S → M → Prop} (hcan : ∃ r m', A m e r m')
    (h : ∀ r m', A m e r m' → Q r s m') : Total A (await e) s m Q F := by
  obtain ⟨r, m', hact⟩ := hcan
  exact ⟨⟨_, _, .await hact (.ret _ _)⟩, each_await h⟩

theorem total_mono {Q' : α → S → M → Prop} {F' : X → S → M → Prop} (h : Total A t s m Q F)
    (hQ : ∀ a s' m', Q a s' m' → Q' a s' m') (hF : ∀ x s' m', F x s' m' → F' x s' m') :
    Total A t s m Q' F' :=
  ⟨h.can, each_mono h.each hQ hF⟩

theorem total_bind {f : α → Task E R S X β} {Q : β → S → M → Prop}
    (h : Total A t s m (fun a s' m' => Total A (f a) s' m' Q F) F) : Total A (t >>= f) s m Q F := by
  refine ⟨?_, each_bind (each_mono h.each (fun _ _ _ hf => hf.each) fun _ _ _ hF => hF)⟩
  obtain ⟨⟨r, s'⟩, m₁, ht⟩ := h.can
  have hr := h.each _ _ ht
  cases r with
  | ok a =>
    obtain ⟨out, m₂, hf⟩ := hr.can
    exact ⟨out, m₂, ht.bind hf⟩
  | error x => exact ⟨_, m₁, ht.bind (.ret _ _)⟩

theorem total_catch {h : X → Task E R S X α}
    (ht : Total A t s m Q fun x s' m' => Total A (h x) s' m' Q F) :
    Total A (tryCatch t h) s m Q F := by
  refine ⟨?_, each_catch (each_mono ht.each (fun _ _ _ hq => hq) fun _ _ _ hh => hh.each)⟩
  obtain ⟨⟨r, s'⟩, m₁, ht'⟩ := ht.can
  have hr := ht.each _ _ ht'
  cases r with
  | ok a => exact ⟨_, m₁, ht'.bind (.ret _ _)⟩
  | error x =>
    obtain ⟨out, m₂, hf⟩ := hr.can
    exact ⟨out, m₂, ht'.bind hf⟩

/-- The rule for loops of tries that end all by themselves. `I` holds before each try. -/
theorem total_retry {τ : Type} {body : τ → Task E R S X (α ⊕ τ)} {again : τ → Bool}
    {giveUp : τ → Task E R S X α} (I : τ → S → M → Prop)
    (hb : ∀ t s m, I t s m → Total A (body t) s m (fun out s' m' =>
      match out with
      | .inl a => Q a s' m'
      | .inr t' => I t' s' m' ∧ Total A (giveUp t') s' m' Q F) F)
    (left : Nat) {t : τ} (h : I t s m) : Total A (retry body again giveUp left t) s m Q F := by
  induction left generalizing t s m with
  | zero =>
    refine total_bind (total_mono (hb t s m h) ?_ fun _ _ _ hF => hF)
    rintro (a | t') s' m' hr
    · exact total_pure hr
    · exact hr.2
  | succ left ih =>
    refine total_bind (total_mono (hb t s m h) ?_ fun _ _ _ hF => hF)
    rintro (a | t') s' m' hr
    · exact total_pure hr
    · by_cases ha : again t' = true
      · simpa [ha] using ih hr.1
      · simpa [ha] using hr.2

theorem Total.prog (h : Total A t s m Q F) : (t s).Total A m fun out m' =>
    match out.1 with
    | .ok a => Q a out.2 m'
    | .error x => F x out.2 m' := ⟨h.can, h.each⟩

end Total

/-- Wherever it starts, the task ends, and with this result. -/
def Yields (A : M → (e : E) → R e → M → Prop) (t : Task E R S X α) (r : Except X α) : Prop :=
  ∀ s m, Total A t s m (fun a _ _ => r = .ok a) fun x _ _ => r = .error x

section Yields
variable {A : M → (e : E) → R e → M → Prop} {t : Task E R S X α} {f : α → Task E R S X β}

theorem yields_pure (a : α) : Yields A (pure a : Task E R S X α) (.ok a) := fun _ _ => total_pure rfl

theorem yields_raise (x : X) : Yields A (throw x : Task E R S X α) (.error x) :=
  fun _ _ => total_raise rfl

theorem yields_bind {a : α} {r : Except X β} (ht : Yields A t (.ok a)) (hf : Yields A (f a) r) :
    Yields A (t >>= f) r := by
  intro s m
  refine total_bind (total_mono (ht s m) ?_ fun x _ _ hx => nomatch hx)
  intro a' s' m' ha
  cases ha
  exact hf s' m'

theorem yields_bind_error {x : X} (ht : Yields A t (.error x)) : Yields A (t >>= f) (.error x) := by
  intro s m
  refine total_bind (total_mono (ht s m) (fun a _ _ ha => nomatch ha) ?_)
  intro x' _ _ hx
  cases hx
  rfl

theorem yields_catch {a : α} {h : X → Task E R S X α} (ht : Yields A t (.ok a)) :
    Yields A (tryCatch t h) (.ok a) := by
  intro s m
  exact total_catch (total_mono (ht s m) (fun _ _ _ ha => ha) fun x _ _ hx => nomatch hx)

theorem yields_catch_error {x : X} {h : X → Task E R S X α} {r : Except X α}
    (ht : Yields A t (.error x)) (hh : Yields A (h x) r) : Yields A (tryCatch t h) r := by
  intro s m
  refine total_catch (total_mono (ht s m) (fun a _ _ ha => nomatch ha) ?_)
  intro x' s' m' hx
  cases hx
  exact hh s' m'

end Yields

/-- The task can end with `Q`, or with an exception. -/
def Can (A : M → (e : E) → R e → M → Prop) (t : Task E R S X α) (s : S) (m : M)
    (Q : α → S → M → Prop) : Prop :=
  ∃ out m', (t s).Ends A m out m' ∧ ∀ a, out.1 = .ok a → Q a out.2 m'

section Can
variable {A : M → (e : E) → R e → M → Prop} {s : S} {m : M} {t : Task E R S X α}
  {Q : α → S → M → Prop} {F : X → S → M → Prop}

theorem Total.may (h : Total A t s m Q F) : Can A t s m Q := by
  obtain ⟨⟨r, s'⟩, m', he⟩ := h.can
  have hr := h.each _ _ he
  refine ⟨(r, s'), m', he, ?_⟩
  intro a ha
  obtain rfl : r = .ok a := ha
  exact hr

theorem can_pure {a : α} (h : Q a s m) : Can A (pure a : Task E R S X α) s m Q := by
  refine ⟨_, m, .ret _ _, ?_⟩
  intro a' ha
  cases ha
  exact h

theorem can_await {e : E} {r : R e} {m' : M} {Q : R e → S → M → Prop} (hact : A m e r m')
    (h : Q r s m') : Can A (await e : Task E R S X (R e)) s m Q := by
  refine ⟨_, m', .await hact (.ret _ _), ?_⟩
  intro a' ha
  cases ha
  exact h

theorem can_bind {f : α → Task E R S X β} {Q : β → S → M → Prop}
    (h : Can A t s m fun a s' m' => Can A (f a) s' m' Q) : Can A (t >>= f) s m Q := by
  obtain ⟨⟨r, s'⟩, m₁, ht, hr⟩ := h
  cases r with
  | ok a =>
    obtain ⟨out, m', hf, hq⟩ := hr a rfl
    exact ⟨out, m', ht.bind hf, hq⟩
  | error x =>
    refine ⟨(.error x, s'), m₁, ht.bind (.ret _ _), ?_⟩
    intro a ha
    cases ha

theorem can_mono {Q' : α → S → M → Prop} (h : Can A t s m Q) (hQ : ∀ a s' m', Q a s' m' → Q' a s' m') :
    Can A t s m Q' := by
  obtain ⟨out, m', he, hq⟩ := h
  exact ⟨out, m', he, fun a ha => hQ a _ _ (hq a ha)⟩

/-- A loop of tries can end with its first one. -/
theorem can_retry {τ : Type} {body : τ → Task E R S X (α ⊕ τ)} {again : τ → Bool}
    {giveUp : τ → Task E R S X α} (left : Nat) {t : τ}
    (h : Can A (body t) s m fun out s' m' =>
      match out with
      | .inl a => Q a s' m'
      | .inr t' => again t' = false ∧ Can A (giveUp t') s' m' Q) :
    Can A (retry body again giveUp left t) s m Q := by
  cases left with
  | zero =>
    refine can_bind (can_mono h ?_)
    rintro (a | t') s' m' hr
    · exact can_pure hr
    · exact hr.2
  | succ left =>
    refine can_bind (can_mono h ?_)
    rintro (a | t') s' m' hr
    · exact can_pure hr
    · simpa [hr.1] using hr.2

end Can

end Task
end Async
