import Clusteration.Framework.Behaviour
import Clusteration.Panel.Worker

open Async Task

namespace Clusteration

/-- The awaits that end by themselves: those on the database, the queue and the clock, a request of
the client (it has a timeout) and `asyncio.wait_for`. -/
def Eff.bounded : Eff → Bool
  | .forever | .lock | .ssh _ _ | .closeConnection _ => false
  | _ => true

/-- The awaits on the guest's SSH server that have no timeout: `conn.create_process` and
`conn.wait_closed`. -/
def Eff.onSsh : Eff → Bool
  | .ssh _ _ | .closeConnection _ => true
  | _ => false

/-- What `loop.time()` shows at least: its last reading and the sleeps since. -/
def elapsed : Log Eff Ans → Nat
  | [] => 0
  | ⟨.time, now⟩ :: _ => now
  | ⟨.sleep ms, _⟩ :: log => elapsed log + ms
  | _ :: log => elapsed log

/-- A world for the worker. Proxmox, the database and the guest's SSH server answer what they like,
and the server may keep silent. -/
structure World where
  answer : Behaviour Eff Ans
  ends : ∀ log e, e.bounded = true → (answer log e).isSome = true
  clock : ∀ log now, answer log .time = some now → elapsed log ≤ now

namespace World
variable {w : World}

theorem elapsed_le {log : Log Eff Ans} {e : Eff} {r : Ans e} (h : w.answer log e = some r) :
    elapsed log ≤ elapsed (⟨e, r⟩ :: log) := by
  cases e with
  | time => exact w.clock log r h
  | sleep ms => exact Nat.le_add_right (elapsed log) ms
  | _ => exact Nat.le_refl (elapsed log)

end World

variable {S α β : Type} {w : World} {caller : Option Caller}

/-- A part of a job that only awaits what ends by itself. -/
abbrev Prompt (w : World) (t : Task Eff Ans S Exc α) : Prop :=
  Waits w.answer elapsed (fun _ e => e.bounded = true) t

theorem prompt_await {e : Eff} (h : e.bounded = true) :
    Prompt w (Task.await e : Task Eff Ans S Exc (Ans e)) :=
  waits_await (fun _ => h) fun _ _ hr => World.elapsed_le hr

theorem prompt_ofExcept (r : Except Exc α) : Prompt w (ofExcept r : Client S α) := by
  cases r with
  | ok a => exact waits_pure a
  | error x => exact waits_raise x

theorem prompt_exceptProxmox {t : Client S α} {h : Exc → Client S α} (ht : Prompt w t)
    (hh : ∀ x, Prompt w (h x)) : Prompt w (exceptProxmox t h) := by
  apply waits_catch ht
  intro x
  by_cases hx : x.isProxmoxError = true
  · simpa [hx] using hh x
  · simpa [hx] using waits_raise x

namespace ProxmoxClient

section Poll
variable {P : Log Eff Ans → Eff → Prop} {interval deadline : Nat} {poll : Client S (α ⊕ Unit)}
  {late : Client S α}

/-- A round that is to be followed by another began before the deadline and took the interval. -/
theorem along_pollOnce (hP : ∀ log e, e.bounded = true → P log e)
    (hpoll : Waits w.answer elapsed P poll) (s : S) (log : Log Eff Ans) :
    (pollOnce interval deadline poll s).Along w.answer P (fun out log' =>
      elapsed log ≤ elapsed log' ∧
        (out.1 = .ok (.inr false) →
          elapsed log < deadline ∧ elapsed log + interval ≤ elapsed log')) log := by
  apply Prog.along_bind (hpoll.along s log)
  intro out log₁ hle
  obtain ⟨r, s₁⟩ := out
  cases r with
  | error x => exact ⟨hle, fun h => by cases h⟩
  | ok polled =>
    cases polled with
    | inl a => exact ⟨hle, fun h => by cases h⟩
    | inr u =>
      constructor
      · exact hP log₁ .time rfl
      · intro now hnow
        have hclock : elapsed log₁ ≤ now := w.clock log₁ now hnow
        change Prog.Along w.answer P _ ((if deadline ≤ now then pure (.inr true) else do
          let _ ← Task.await (.sleep interval)
          pure (.inr false) : Client S (α ⊕ Bool)) s₁) (⟨.time, now⟩ :: log₁)
        by_cases hpast : deadline ≤ now
        · have hend : elapsed log ≤ now := by omega
          rw [if_pos hpast]
          exact ⟨hend, fun h => by cases h⟩
        · rw [if_neg hpast]
          constructor
          · exact hP _ (.sleep interval) rfl
          · intro r hr
            have hslept : elapsed (⟨.sleep interval, r⟩ :: ⟨.time, now⟩ :: log₁) = now + interval := rfl
            constructor
            · omega
            · intro _
              omega

/-- The rounds last until the deadline when they are as many as the sleeps that lead to it. -/
theorem along_rounds (hP : ∀ log e, e.bounded = true → P log e)
    (hpoll : Waits w.answer elapsed P poll) (hlate : Waits w.answer elapsed P late) (left : Nat)
    (s : S) (log : Log Eff Ans) (past : Bool) (h : deadline ≤ elapsed log + left * interval) :
    (Task.retry (fun _ => pollOnce interval deadline poll) (fun past => !past) (pastDeadline late)
      left past s).Along w.answer P (fun _ log' => elapsed log ≤ elapsed log') log := by
  apply along_retry fun left log' =>
    elapsed log ≤ elapsed log' ∧ deadline ≤ elapsed log' + left * interval
  · intro left past s₁ log₁ hI
    apply Prog.along_mono (along_pollOnce hP hpoll s₁ log₁) (fun _ _ h => h)
    intro out log₂ hround
    obtain ⟨r, s₂⟩ := out
    have hle : elapsed log ≤ elapsed log₂ := Nat.le_trans hI.1 hround.1
    cases r with
    | error x => exact hle
    | ok polled =>
      cases polled with
      | inl a => exact hle
      | inr past =>
        cases past with
        | true =>
          apply Prog.along_mono (hlate.along s₂ log₂) (fun _ _ h => h)
          intro _ log₃ hle'
          exact Nat.le_trans hle hle'
        | false =>
          obtain ⟨hbefore, hslept⟩ := hround.2 rfl
          cases left with
          | zero =>
            -- a round that began before the deadline is not the last
            have hreached := hI.2
            omega
          | succ left =>
            have hleft : (left + 1) * interval = left * interval + interval :=
              Nat.succ_mul left interval
            have hreached := hI.2
            exact ⟨left, rfl, hle, by omega⟩
  · exact ⟨Nat.le_refl _, h⟩

theorem waits_pollUntil {timeout : Nat} (hinterval : 0 < interval)
    (hP : ∀ log e, e.bounded = true → P log e) (hpoll : Waits w.answer elapsed P poll)
    (hlate : Waits w.answer elapsed P late) :
    Waits w.answer elapsed P (pollUntil timeout interval poll late) := by
  apply waits_of_along
  intro s log
  constructor
  · exact hP log .time rfl
  · intro start hstart
    have hclock : elapsed log ≤ start := w.clock log start hstart
    have hrounds : timeout ≤ (timeout / interval + 1) * interval := by
      have hdiv := Nat.lt_div_mul_add hinterval (a := timeout)
      have hmul : (timeout / interval + 1) * interval = timeout / interval * interval + interval :=
        Nat.succ_mul (timeout / interval) interval
      omega
    have hloop := along_rounds hP hpoll hlate (timeout / interval + 1) s (⟨.time, start⟩ :: log) false
      (Nat.add_le_add_left hrounds start)
    apply Prog.along_mono hloop (fun _ _ h => h)
    intro _ log' hle
    exact Nat.le_trans hclock hle

end Poll

theorem prompt_pollUntil {timeout interval : Nat} {poll : Client S (α ⊕ Unit)} {late : Client S α}
    (hinterval : 0 < interval) (hpoll : Prompt w poll) (hlate : Prompt w late) :
    Prompt w (pollUntil timeout interval poll late) :=
  waits_pollUntil hinterval (fun _ _ he => he) hpoll hlate

theorem prompt_request (req : Req) : Prompt w (request caller req : Client S Json) := by
  apply waits_retry
  · intro _
    apply waits_bind (prompt_await rfl)
    intro out
    cases out.attempt with
    | data d => exact waits_pure _
    | raised x => exact waits_raise x
    | failed f => exact waits_pure _
  · intro last
    cases last with
    | some f => exact waits_raise _
    | none => exact waits_raise _

theorem prompt_read {req : Req} (f : Json → α) :
    Prompt w (do let data ← request caller req; pure (f data) : Client S α) := by
  apply waits_bind (prompt_request req)
  intro data
  exact waits_pure _

theorem prompt_parse {req : Req} (f : Json → Except Exc α) :
    Prompt w (do let data ← request caller req; ofExcept (f data) : Client S α) := by
  apply waits_bind (prompt_request req)
  intro data
  exact prompt_ofExcept _

theorem prompt_nextId : Prompt w (nextId caller : Client S Int) := prompt_parse _

theorem prompt_findVmResource (vmid : Int) :
    Prompt w (findVmResource caller vmid : Client S (Option Dict)) := by
  apply waits_bind (prompt_read asList)
  intro resources
  exact prompt_ofExcept _

theorem prompt_vmConfig (node : String) (vmid : Int) :
    Prompt w (vmConfig caller node vmid : Client S Dict) := prompt_read asDict

theorem prompt_resolveTemplateNode (preferredNode : String) (templateVmid : Int) :
    Prompt w (resolveTemplateNode caller preferredNode templateVmid : Client S String) := by
  apply waits_bind
  · apply prompt_exceptProxmox
    · apply waits_bind (prompt_findVmResource templateVmid)
      intro resource
      exact waits_pure _
    · intro exc
      exact waits_pure _
  intro found
  obtain ⟨resource, clusterError⟩ := found
  cases resource with
  | some resource =>
    dsimp only
    split
    · split
      · exact waits_raise _
      · exact waits_pure _
    · exact waits_raise _
  | none =>
    dsimp only
    split
    · apply prompt_exceptProxmox
      · apply waits_bind (prompt_vmConfig preferredNode templateVmid)
        intro config
        split
        · exact waits_pure _
        · exact waits_raise _
      · intro exc
        exact waits_raise _
    · exact waits_raise _

theorem prompt_lookupVmNode (vmid : Int) :
    Prompt w (lookupVmNode caller vmid : Client S String) := by
  apply waits_bind (prompt_findVmResource vmid)
  intro resource
  cases resource with
  | none => exact waits_raise _
  | some resource =>
    dsimp only
    split
    · exact waits_raise _
    · exact waits_pure _

theorem prompt_isOnNode (preferredNode : String) (vmid : Int) :
    Prompt w (isOnNode caller preferredNode vmid : Client S Bool) := by
  unfold isOnNode
  split
  · apply prompt_exceptProxmox (prompt_read fun _ => true)
    intro exc
    exact waits_pure _
  · exact waits_pure _

theorem prompt_resolveVmNode (preferredNode : String) (vmid : Int) :
    Prompt w (resolveVmNode caller preferredNode vmid : Client S String) := by
  apply waits_bind (prompt_isOnNode preferredNode vmid)
  intro here
  cases here with
  | true => exact waits_pure _
  | false => exact prompt_lookupVmNode vmid

theorem prompt_vmDiskSizeGb (node : String) (vmid : Int) :
    Prompt w (vmDiskSizeGb caller node vmid : Client S (Option Int)) := by
  apply waits_bind
  · apply prompt_exceptProxmox
    · apply waits_bind (prompt_findVmResource vmid)
      intro resource
      exact prompt_ofExcept _
    · intro exc
      exact waits_pure _
  intro listed
  cases listed with
  | some gb => exact waits_pure _
  | none =>
    apply waits_bind
    · apply prompt_exceptProxmox
      · apply waits_bind (prompt_vmConfig node vmid)
        intro config
        exact waits_pure _
      · intro exc
        exact waits_pure _
    intro config
    cases config with
    | none => exact waits_pure _
    | some config => exact prompt_ofExcept _

theorem prompt_waitForTask (node : String) (upid : Json) :
    Prompt w (waitForTask caller node upid : Client S String) := by
  unfold waitForTask
  split
  · apply prompt_pollUntil (by decide) _ (waits_raise _)
    apply waits_bind (prompt_request _)
    intro status
    apply waits_bind (prompt_ofExcept _)
    intro ended
    cases ended with
    | some exitStatus => exact waits_pure _
    | none => exact waits_pure _
  · exact waits_raise _

theorem prompt_waitForIp (node : String) (vmid : Int) (timeout : Nat) :
    Prompt w (waitForIp caller node vmid timeout : Client S String) := by
  apply prompt_pollUntil (by decide) _ (waits_raise _)
  apply waits_bind
  · apply prompt_exceptProxmox (prompt_parse parseFirstIpv4)
    intro exc
    exact waits_pure _
  intro ip
  cases ip with
  | some ip => exact waits_pure _
  | none => exact waits_pure _

theorem prompt_agentExec (node : String) (vmid : Int) (script : String) :
    Prompt w (agentExec caller node vmid script : Client S String) := by
  apply waits_bind (prompt_request _)
  intro started
  split
  · exact waits_pure _
  · apply prompt_pollUntil (by decide) _ (waits_pure _)
    apply waits_bind (prompt_request _)
    intro status
    split
    · exact waits_pure _
    · exact waits_pure _

theorem prompt_resetMachineId (node : String) (vmid : Int) :
    Prompt w (resetMachineId caller node vmid : Client S Unit) := by
  apply waits_retry
  · intro last
    apply prompt_exceptProxmox
    · apply waits_bind (prompt_agentExec node vmid resetScript)
      intro out
      split
      · exact waits_pure _
      · exact waits_pure _
    · intro exc
      exact waits_pure _
  · intro last
    cases last with
    | some exc => exact waits_raise _
    | none => exact waits_raise _

end ProxmoxClient

end Clusteration
