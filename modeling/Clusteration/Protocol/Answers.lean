import Clusteration.Framework.Runs
import Clusteration.Panel.ProxmoxClient

open Async Task

namespace Clusteration

variable {S α M : Type} {A : M → (e : Eff) → Ans e → M → Prop} {caller : Option Caller} {s : S} {m : M}

theorem total_ofExcept {r : Except Exc α} {Q : α → S → M → Prop} {F : Exc → S → M → Prop}
    (h : match r with
      | .ok a => Q a s m
      | .error x => F x s m) : Task.Total A (ofExcept r) s m Q F := by
  cases r with
  | ok a => exact total_pure h
  | error x => exact total_raise h

theorem total_exceptProxmox {t : Client S α} {h : Exc → Client S α} {Q : α → S → M → Prop}
    {F : Exc → S → M → Prop}
    (ht : Task.Total A t s m Q fun x s' m' =>
      if x.isProxmoxError then Task.Total A (h x) s' m' Q F else F x s' m') :
    Task.Total A (exceptProxmox t h) s m Q F := by
  refine total_catch (total_mono ht (fun _ _ _ hQ => hQ) ?_)
  intro x s' m' hx
  by_cases hp : x.isProxmoxError = true
  · simpa [hp] using hx
  · rw [if_neg hp] at hx
    simpa [hp] using total_raise hx

theorem each_ofExcept {r : Except Exc α} {Q : α → S → M → Prop} {F : Exc → S → M → Prop}
    (h : match r with
      | .ok a => Q a s m
      | .error x => F x s m) : Each A (ofExcept r) s m Q F := by
  cases r with
  | ok a => exact each_pure h
  | error x => exact each_raise h

theorem each_exceptProxmox {t : Client S α} {h : Exc → Client S α} {Q : α → S → M → Prop}
    {F : Exc → S → M → Prop}
    (ht : Each A t s m Q fun x s' m' =>
      if x.isProxmoxError then Each A (h x) s' m' Q F else F x s' m') :
    Each A (exceptProxmox t h) s m Q F := by
  refine each_catch (each_mono ht (fun _ _ _ hQ => hQ) ?_)
  intro x s' m' hx
  by_cases hp : x.isProxmoxError = true
  · simpa [hp] using hx
  · rw [if_neg hp] at hx
    simpa [hp] using each_raise hx

/-- A request whose attempts keep `I` as long as they fail. -/
theorem each_request {req : Req} {I : M → Prop} {Q : Json → S → M → Prop} {F : Exc → S → M → Prop}
    (hact : ∀ m out m', I m → A m (.http caller req) out m' →
      match out.attempt with
      | .data d => Q d s m'
      | .raised x => F x s m'
      | .failed f => I m' ∧ F (f.exc req) s m')
    (h : I m) : Each A (ProxmoxClient.request caller req : Client S Json) s m Q F := by
  refine each_retry (fun _ s' m => s' = s ∧ I m) ?_ 3 ⟨rfl, h⟩
  rintro more last _ m ⟨rfl, hm⟩
  refine each_bind (each_await fun out m' ha => ?_)
  have hr := hact m out m' hm ha
  cases hatt : out.attempt with
  | data d =>
    rw [hatt] at hr
    exact each_pure hr
  | raised x =>
    rw [hatt] at hr
    exact each_raise hr
  | failed f =>
    rw [hatt] at hr
    refine each_pure ?_
    dsimp only
    split
    · exact ⟨rfl, hr.1⟩
    · exact each_raise hr.2

/-- A loop that polls until its deadline, where reading the clock and sleeping keep `I`. -/
theorem each_pollUntil {timeout interval : Nat} {poll : Client S (α ⊕ Unit)} {late : Client S α}
    {I : S → M → Prop} {Q : α → S → M → Prop} {F : Exc → S → M → Prop}
    (htime : ∀ {s m now m'}, I s m → A m .time now m' → I s m')
    (hsleep : ∀ {s m m'}, I s m → A m (.sleep interval) () m' → I s m')
    (hpoll : ∀ s m, I s m → Each A poll s m (fun out s' m' =>
      match out with
      | .inl a => Q a s' m'
      | .inr () => I s' m') F)
    (hlate : ∀ s m, I s m → Each A late s m Q F) (h : I s m) :
    Each A (ProxmoxClient.pollUntil timeout interval poll late) s m Q F := by
  refine each_bind (each_await fun start m₁ ha => ?_)
  refine each_retry (fun _ => I) ?_ _ (htime h ha)
  intro more _ s m h
  refine each_bind (each_mono (hpoll s m h) ?_ fun _ _ _ hF => hF)
  rintro (a | _) s₁ m₁ hr
  · exact each_pure hr
  refine each_bind (each_await fun now m₂ ha => ?_)
  have hI := htime hr ha
  split
  · have hl : Each A (ProxmoxClient.pastDeadline late true) s₁ m₂ Q F := hlate s₁ m₂ hI
    exact each_pure (by simpa using hl)
  · refine each_bind (each_await fun _ m₃ ha => ?_)
    refine each_pure ?_
    cases more with
    | true => exact hsleep hI ha
    | false => exact each_bind (each_await fun never => nomatch never)

theorem yields_ofExcept (r : Except Exc α) : Yields A (ofExcept r : Client S α) r := by
  cases r with
  | ok a => exact yields_pure a
  | error x => exact yields_raise x

theorem yields_exceptProxmox {t : Client S α} {h : Exc → Client S α} {a : α} (ht : Yields A t (.ok a)) :
    Yields A (exceptProxmox t h) (.ok a) := yields_catch ht

theorem yields_exceptProxmox_error {t : Client S α} {h : Exc → Client S α} {x : Exc}
    {r : Except Exc α} (ht : Yields A t (.error x)) (hx : x.isProxmoxError = true)
    (hh : Yields A (h x) r) : Yields A (exceptProxmox t h) r := by
  refine yields_catch_error ht ?_
  rw [if_pos hx]
  exact hh

/-- A request whose attempts all have the same outcome. -/
theorem yields_request {req : Req} {answer : HttpOutcome} (hcan : ∀ m, ∃ m', A m (.http caller req) answer m')
    (hact : ∀ m out m', A m (.http caller req) out m' → out = answer) :
    Yields A (ProxmoxClient.request caller req : Client S Json)
      (match answer.attempt with
      | .data d => .ok d
      | .raised x => .error x
      | .failed f => .error (f.exc req)) := by
  intro s m
  refine total_retry (fun _ _ _ => True) ?_ 3 trivial
  intro last s m _
  obtain ⟨m', ha⟩ := hcan m
  refine total_bind (total_await ⟨answer, m', ha⟩ ?_)
  intro out m₁ ha
  rw [hact m out m₁ ha]
  cases answer.attempt with
  | data d => exact total_pure rfl
  | raised x => exact total_raise rfl
  | failed f => exact total_pure ⟨trivial, total_raise rfl⟩

/-- A Proxmox that gives each request the same answer every time. -/
def Serves (answer : Req → HttpOutcome) : Unit → (e : Eff) → Ans e → Unit → Prop
  | _, .http _ req, out, _ => out = answer req
  | _, _, _, _ => True

theorem serves_request (answer : Req → HttpOutcome) (req : Req) :
    Yields (Serves answer) (ProxmoxClient.request caller req : Client S Json)
      (match (answer req).attempt with
      | .data d => .ok d
      | .raised x => .error x
      | .failed f => .error (f.exc req)) :=
  yields_request (fun _ => ⟨(), rfl⟩) fun _ _ _ h => h

end Clusteration
