import Clusteration.Panel.Cluster
import Clusteration.Protocol.Answers

open Async Task

namespace Clusteration

variable {S M : Type}

/-- One attempt: whether the server carried the request out, and how the attempt ended. -/
structure Sending where
  applied : Bool
  out : HttpOutcome

/-- The attempt ends in a way that `_request` tries again after. -/
def Sending.lost (t : Sending) : Bool :=
  match t.out.attempt with
  | .failed f => f.retryable
  | _ => false

/-- What the call comes to when this attempt is its last. -/
def Sending.result (t : Sending) (req : Req) : Except Exc Json :=
  match t.out.attempt with
  | .data d => .ok d
  | .raised x => .error x
  | .failed f => .error (f.exc req)

/-- A server, with the attempts it has taken so far. It may carry any attempt out and end it in any
way. -/
def ServedBy (server : M → Req → Sending → M → Prop) (m : M × List Sending) (e : Eff) (r : Ans e)
    (m' : M × List Sending) : Prop :=
  match e, r with
  | .http _ req, out => ∃ t, t.out = out ∧ server m.1 req t m'.1 ∧ m'.2 = m.2 ++ [t]
  | _, _ => m' = m

section Call
variable {server : M → Req → Sending → M → Prop} {caller : Option Caller} {req : Req} {s : S}
  {m : M × List Sending}

/-- The attempts of one call: all but the last were lost. -/
def Attempts (req : Req) (left : Nat) (before log : List Sending) (r : Except Exc Json) : Prop :=
  ∃ repeated last, log = before ++ repeated ++ [last] ∧ repeated.length ≤ left ∧
    (∀ t ∈ repeated, t.lost = true) ∧ r = last.result req

theorem retry_attempts (left : Nat) (last : Option Failure) :
    Each (ServedBy server)
      (Task.retry (fun _ => ProxmoxClient.requestOnce caller req) (fun last => last.all Failure.retryable)
        (ProxmoxClient.requestFailed req) left last : Client S Json) s m
      (fun d _ m' => Attempts req left m.2 m'.2 (.ok d))
      fun x _ m' => Attempts req left m.2 m'.2 (.error x) := by
  induction left generalizing m last with
  | zero =>
    refine each_bind (each_bind (each_await fun out m' ha => ?_))
    obtain ⟨t, rfl, _, hlog⟩ := ha
    have hend : ∀ r, r = t.result req → Attempts req 0 m.2 m'.2 r := by
      intro r hr
      exact ⟨[], t, by simpa using hlog, Nat.le_refl 0, by simp, hr⟩
    cases hatt : t.out.attempt with
    | data d => exact each_pure (each_pure (hend _ (by rw [Sending.result, hatt])))
    | raised x => exact each_raise (hend _ (by rw [Sending.result, hatt]))
    | failed f => exact each_pure (each_raise (hend _ (by rw [Sending.result, hatt])))
  | succ left ih =>
    refine each_bind (each_bind (each_await fun out m' ha => ?_))
    obtain ⟨t, rfl, _, hlog⟩ := ha
    have hend : ∀ r, r = t.result req → Attempts req (left + 1) m.2 m'.2 r := by
      intro r hr
      exact ⟨[], t, by simpa using hlog, Nat.zero_le _, by simp, hr⟩
    cases hatt : t.out.attempt with
    | data d => exact each_pure (each_pure (hend _ (by rw [Sending.result, hatt])))
    | raised x => exact each_raise (hend _ (by rw [Sending.result, hatt]))
    | failed f =>
      refine each_pure ?_
      dsimp only
      split
      · next hretry =>
        have hlost : t.lost = true := by
          rw [Sending.lost, hatt]
          simpa using hretry
        have hmore : ∀ log r, Attempts req left m'.2 log r → Attempts req (left + 1) m.2 log r := by
          rintro log r ⟨repeated, last, heq, hlen, hall, hr⟩
          refine ⟨t :: repeated, last, ?_, Nat.succ_le_succ hlen, ?_, hr⟩
          · rw [heq, hlog]
            simp
          · intro u hu
            obtain rfl | hu := List.mem_cons.mp hu
            · exact hlost
            · exact hall u hu
        exact each_mono (ih (some f)) (fun d _ _ h => hmore _ _ h) fun x _ _ h => hmore _ _ h
      · exact each_raise (hend _ (by rw [Sending.result, hatt]))

end Call

/-- A call sends the request four times at most. It is carried out at most once more often than it
was carried out with its answer lost, and an answer that is not lost ends the call. -/
theorem request_applied (server : M → Req → Sending → M → Prop) (caller : Option Caller) (req : Req)
    (s s' : S) (m m' : M) (r : Except Exc Json) (log : List Sending)
    (h : (ProxmoxClient.request caller req s).Ends (ServedBy server) (m, []) (r, s') (m', log)) :
    log.length ≤ 4 ∧
    log.countP Sending.applied ≤ log.countP (fun t => t.applied && t.lost) + 1 ∧
    ∀ t ∈ log, t.lost = false → log.getLast? = some t ∧ r = t.result req := by
  have hattempts : Attempts req 3 [] log r := by
    have hr := retry_attempts 3 none _ _ h
    cases r with
    | ok d => exact hr
    | error x => exact hr
  obtain ⟨repeated, last, rfl, hlen, hlost, rfl⟩ := hattempts
  refine ⟨?_, ?_, ?_⟩
  · rw [List.nil_append, List.length_append, List.length_singleton]
    omega
  · have hrepeated : repeated.countP (fun t => t.applied && t.lost) = repeated.countP Sending.applied := by
      apply List.countP_congr
      intro t ht
      rw [hlost t ht, Bool.and_true]
    have hlast : [last].countP Sending.applied ≤ 1 := List.countP_le_length
    rw [List.nil_append, List.countP_append, List.countP_append, hrepeated]
    omega
  · intro t ht hgot
    rw [List.nil_append, List.mem_append, List.mem_singleton] at ht
    obtain ht | rfl := ht
    · rw [hlost t ht] at hgot
      cases hgot
    · exact ⟨by simp, rfl⟩

/-- Proxmox as a server: what it does with an attempt is up to it. -/
def clusterServer (c : Cluster) (req : Req) (t : Sending) (c' : Cluster) : Prop :=
  ∃ i : HttpIn, i.applied = t.applied ∧ i.out = t.out ∧ c.serve none req i = some c'

def runningGuest : Cluster := { guests := [{ vmid := 100, node := "pve1", running := true }] }

/-- A reboot whose first answer is lost, and the second not. -/
def rebootAttempts (first : Bool) : List Sending :=
  [⟨first, .timeoutException⟩, ⟨true, .response 200 { json := some (.obj [("data", .str "U1")]) }⟩]

theorem reboot_ends (first : Bool) : ∃ c',
    (ProxmoxClient.request none (.power "pve1" 100 .reboot) () : Prog Eff Ans (Except Exc Json × Unit)).Ends
      (ServedBy clusterServer) (runningGuest, []) (.ok (.str "U1"), ()) (c', rebootAttempts first) := by
  have hlost : ServedBy clusterServer (runningGuest, []) (.http none (.power "pve1" 100 .reboot))
      .timeoutException (runningGuest, [⟨first, .timeoutException⟩]) := by
    refine ⟨⟨first, .timeoutException⟩, rfl, ⟨{ applied := first, out := .timeoutException }, rfl, rfl, ?_⟩, rfl⟩
    cases first with
    | true => rfl
    | false => rfl
  have hdone : ServedBy clusterServer (runningGuest, [⟨first, .timeoutException⟩])
      (.http none (.power "pve1" 100 .reboot))
      (.response 200 { json := some (.obj [("data", .str "U1")]) })
      ({ runningGuest with tasks := [("U1", true)] }, rebootAttempts first) :=
    ⟨⟨true, _⟩, rfl, ⟨{ applied := true, out := _ }, rfl, rfl, rfl⟩, rfl⟩
  exact ⟨_, .await hlost (.await hdone (.ret _ _))⟩

theorem request_applied_retried : (rebootAttempts false).countP Sending.applied ≤
    (rebootAttempts false).countP (fun t => t.applied && t.lost) + 1 := by
  obtain ⟨c', hrun⟩ := reboot_ends false
  exact (request_applied clusterServer none _ () () _ c' _ _ hrun).2.1

theorem request_applied_twice :
    ¬∀ (server : Cluster → Req → Sending → Cluster → Prop) (req : Req) (m m' : Cluster)
        (r : Except Exc Json) (log : List Sending),
      (ProxmoxClient.request none req () : Prog Eff Ans (Except Exc Json × Unit)).Ends (ServedBy server)
        (m, []) (r, ()) (m', log) → log.countP Sending.applied ≤ 1 := by
  intro h
  obtain ⟨c', hrun⟩ := reboot_ends true
  have honce := h _ _ _ _ _ _ hrun
  revert honce
  decide

end Clusteration
