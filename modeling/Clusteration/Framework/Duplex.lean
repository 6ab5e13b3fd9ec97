import Mathlib.Data.List.Basic
import Clusteration.Framework.Protocol
import Clusteration.Framework.Reach

open Transition

namespace Async

variable {E : Type} {R : E → Type} {X M : Type}

/-- What is left of a round of a loop. It returns whether the loop goes on. -/
abbrev Round (E : Type) (R : E → Type) (X : Type) := Prog E R (Except X Bool)

/-- `while True`: after a round that goes on comes the next one. -/
def Round.next (body : Round E R X) : Round E R X → Round E R X
  | .ret (.ok true) => body
  | p => p

/-- How the loop has ended, if it has. -/
def Round.outcome : Round E R X → Option (Except X Unit)
  | .ret (.ok false) => some (.ok ())
  | .ret (.error x) => some (.error x)
  | _ => none

/-- The bodies of the two loops, and what the awaits and the world around do to their memory. -/
structure Loops (E : Type) (R : E → Type) (X M : Type) where
  left : Round E R X
  right : Round E R X
  act : M → (e : E) → R e → M → Prop
  env : M → M → Prop

structure Duplex (E : Type) (R : E → Type) (X M : Type) where
  memory : M
  left : Round E R X
  right : Round E R X
  /-- The loops have been cancelled. -/
  stopped : Bool := false

inductive Duplex.Label where
  | env
  | left
  | right
  | finish

inductive Duplex.Step (l : Loops E R X M) : Duplex E R X M → Duplex.Label → Duplex E R X M → Prop
  | env {d : Duplex E R X M} {m : M} : l.env d.memory m → Step l d .env { d with memory := m }
  | left {d : Duplex E R X M} {e : E} {k : R e → Round E R X} {r : R e} {m : M} : d.stopped = false →
      d.left = .await e k → l.act d.memory e r m →
      Step l d .left { d with memory := m, left := Round.next l.left (k r) }
  | right {d : Duplex E R X M} {e : E} {k : R e → Round E R X} {r : R e} {m : M} : d.stopped = false →
      d.right = .await e k → l.act d.memory e r m →
      Step l d .right { d with memory := m, right := Round.next l.right (k r) }
  | finish {d : Duplex E R X M} : d.stopped = false → ((Round.outcome d.left).isSome || (Round.outcome d.right).isSome) = true →
      Step l d .finish { d with stopped := true }

/-- Both loops are about to start. -/
def Duplex.Initial (l : Loops E R X M) (init : M → Prop) (d : Duplex E R X M) : Prop :=
  d.left = l.left ∧ d.right = l.right ∧ init d.memory

def Duplex.Reachable (l : Loops E R X M) (init : M → Prop) : Duplex E R X M → Prop :=
  Reach (Duplex.Step l) (fun _ _ _ => True) (Duplex.Initial l init)

/-- A round that goes on is back in the phase `φ₀`, and one that ends the loop is in `φ₁`. -/
def Again {Φ : Type} (φ₀ φ₁ : Φ) : Except X Bool → Φ → Prop
  | .ok more, φ => φ = if more then φ₀ else φ₁
  | .error _, _ => True

theorem Round.follows_next {Φ : Type} {T : Φ → (e : E) → R e → Φ → Prop} {body p : Round E R X}
    {φ₀ φ₁ φ : Φ} (hbody : body.Follows T φ₀ (Again φ₀ φ₁)) (hp : p.Follows T φ (Again φ₀ φ₁)) :
    (Round.next body p).Follows T φ (Again φ₀ φ₁) := by
  cases p with
  | await e k => exact hp
  | ret out =>
    cases out with
    | error x => exact hp
    | ok more =>
      cases more with
      | false => exact hp
      | true =>
        have hφ : φ = φ₀ := hp
        rw [hφ]
        exact hbody

/-- A loop that just ends does so in the phase `φ₁`. -/
theorem Round.outcome_ok {Φ : Type} {T : Φ → (e : E) → R e → Φ → Prop} {p : Round E R X} {φ₀ φ₁ φ : Φ}
    (h : Round.outcome p = some (.ok ())) (hp : p.Follows T φ (Again φ₀ φ₁)) : φ = φ₁ := by
  cases p with
  | await e k => cases h
  | ret out =>
    cases out with
    | error x => cases h
    | ok more =>
      cases more with
      | false => exact hp
      | true => cases h

/-- The rule for two loops: what each of their awaits keeps, and the world around keeps, always
holds. -/
theorem Duplex.invariant {Φ Ψ : Type} {T : Φ → (e : E) → R e → Φ → Prop}
    {U : Ψ → (e : E) → R e → Ψ → Prop} {l : Loops E R X M} {init : M → Prop} {φ₀ φ₁ : Φ} {ψ₀ ψ₁ : Ψ}
    {I : M → Φ → Ψ → Prop} (hleft : l.left.Follows T φ₀ (Again φ₀ φ₁))
    (hright : l.right.Follows U ψ₀ (Again ψ₀ ψ₁)) (hinit : ∀ m, init m → I m φ₀ ψ₀)
    (henv : ∀ m m' φ ψ, I m φ ψ → l.env m m' → I m' φ ψ)
    (hact : ∀ m m' φ φ' ψ e r, I m φ ψ → T φ e r φ' → l.act m e r m' → I m' φ' ψ)
    (hact' : ∀ m m' φ ψ ψ' e r, I m φ ψ → U ψ e r ψ' → l.act m e r m' → I m' φ ψ')
    {d : Duplex E R X M} (h : Duplex.Reachable l init d) :
    ∃ φ ψ, I d.memory φ ψ ∧ d.left.Follows T φ (Again φ₀ φ₁) ∧
      d.right.Follows U ψ (Again ψ₀ ψ₁) := by
  induction h with
  | @start d hi =>
    obtain ⟨hl, hr, hm⟩ := hi
    refine ⟨φ₀, ψ₀, hinit _ hm, ?_, ?_⟩
    · rw [hl]
      exact hleft
    · rw [hr]
      exact hright
  | next _ hstep _ ih =>
    obtain ⟨φ, ψ, hI, hl, hr⟩ := ih
    cases hstep with
    | env henv' => exact ⟨φ, ψ, henv _ _ _ _ hI henv', hl, hr⟩
    | @left _ _ r _ _ hp ha =>
      rw [hp] at hl
      obtain ⟨φ', ht, hl'⟩ := hl r
      exact ⟨φ', ψ, hact _ _ _ _ _ _ _ hI ht ha, Round.follows_next hleft hl', hr⟩
    | @right _ _ r _ _ hp ha =>
      rw [hp] at hr
      obtain ⟨ψ', hu, hr'⟩ := hr r
      exact ⟨φ, ψ', hact' _ _ _ _ _ _ _ hI hu ha, hl, Round.follows_next hright hr'⟩
    | finish _ _ => exact ⟨φ, ψ, hI, hl, hr⟩

/-- What a relay has taken in, still holds, and has passed on. -/
structure Relay (α β : Type) where
  taken : List α := []
  held : List β := []
  passed : List β := []

namespace Relay
variable {α β : Type} {f : α → List β} {taken : List α} {held passed : List β}

/-- Nothing is lost, made up, repeated or put in another order. -/
def Faithful (f : α → List β) (r : Relay α β) : Prop := r.passed ++ r.held = r.taken.flatMap f

theorem faithful_start : Faithful f {} := rfl

theorem Faithful.take (h : Faithful f ⟨taken, [], passed⟩) (a : α) :
    Faithful f ⟨taken ++ [a], f a, passed⟩ := by
  unfold Faithful at h ⊢
  simp only [List.append_nil] at h
  simp [h]

theorem Faithful.pass {b : β} (h : Faithful f ⟨taken, b :: held, passed⟩) :
    Faithful f ⟨taken, held, passed ++ [b]⟩ := by
  unfold Faithful at h ⊢
  rw [← h]
  simp

/-- What is passed on comes from the messages that arrived, in their order. -/
theorem Faithful.prefix_of (h : Faithful f ⟨taken, held, passed⟩) {arrived : List α}
    (ht : taken <+: arrived) : passed <+: arrived.flatMap f := by
  obtain ⟨rest, rfl⟩ := ht
  unfold Faithful at h
  refine ⟨held ++ rest.flatMap f, ?_⟩
  rw [List.flatMap_append, ← h, List.append_assoc]

/-- A relay that holds nothing has passed everything on. -/
theorem Faithful.all (h : Faithful f ⟨taken, [], passed⟩) : passed = taken.flatMap f := by
  unfold Faithful at h
  rwa [List.append_nil] at h

end Relay

/-- How far a task has come that passes on one message at a time. -/
inductive Carry (β : Type) where
  | idle
  | holding (b : β)
  | off

/-- What it holds. A task that has ended may or may not have passed on its last message. -/
def Carry.Holds {β : Type} : Carry β → List β → Prop
  | .idle, held => held = []
  | .holding b, held => held = [b]
  | .off, _ => True

/-- What a task that holds `bs` goes on to. -/
def Carry.of {β : Type} : Option β → Carry β
  | some b => .holding b
  | none => .idle

theorem Carry.holds_of {β : Type} (b : Option β) : (Carry.of b).Holds b.toList := by
  cases b <;> rfl

end Async
