import Clusteration.Framework.Crew
import Clusteration.Panel.System
import Clusteration.Protocol.Dispatch
import Clusteration.Protocol.Handlers

open Async Transition

namespace Clusteration

/-- The panel with its coroutines replaced by their phases. -/
structure Abs where
  shared : Shared := {}
  alive : Bool := false
  boot : BootPhase := .over
  worker : WorkerPhase := .over
  requests : List RequestPhase := []

/-- The steps of the abstract panel. A coroutine may do whatever its protocol allows. -/
inductive AStep : Abs → Label → Abs → Prop
  | crash {t : Abs} : t.alive = true → AStep t .crash { shared := t.shared.crash }
  | restart {t : Abs} (settings : Settings) : t.alive = false →
      AStep t (.restart settings) { shared := t.shared, alive := true, boot := .init }
  | get {t : Abs} {p : Payload} {rest : List Payload} : t.alive = true → t.shared.workerOn = true →
      t.worker = .over → t.shared.queue = p :: rest →
      AStep t (.get p)
        { t with
          shared := { t.shared with queue := rest, hist := .dispatch p.jobId :: t.shared.hist }
          worker := .fetched p }
  | receive {t : Abs} (r : Request) : t.alive = true → t.boot = .over →
      AStep t (.receive r) { t with requests := t.requests ++ [.init] }
  | boot {t : Abs} {e : Eff} {a : Ans e} {sh : Shared} {φ : BootPhase} : t.alive = true →
      BootT t.boot e a φ → Act t.shared e a sh →
      AStep t (.await .boot e a) { t with shared := sh, boot := φ }
  | worker {t : Abs} {e : Eff} {a : Ans e} {sh : Shared} {φ : WorkerPhase} : t.alive = true →
      WorkerT t.worker e a φ → Act t.shared e a sh →
      AStep t (.await .worker e a) { t with shared := sh, worker := φ }
  | request {t : Abs} {i : Nat} {e : Eff} {a : Ans e} {sh : Shared} {φ φ' : RequestPhase} :
      t.alive = true → t.requests[i]? = some φ → RequestT φ e a φ' → Act t.shared e a sh →
      AStep t (.await (.request i) e a)
        { t with shared := sh, requests := t.requests.set i φ' }

structure AInitial (t : Abs) : Prop where
  dead : t.alive = false
  boot : t.boot = .over
  worker : t.worker = .over
  requests : t.requests = []
  queue : t.shared.queue = []
  workerOff : t.shared.workerOn = false
  unlocked : t.shared.locked = false
  vms : t.shared.db.vms = {}
  jobs : t.shared.db.jobs = {}
  hist : t.shared.hist = []
  foreign : ∀ g ∈ t.shared.pve.guests, g.origin = none
  undrawn : ∀ g ∈ t.shared.pve.guests, ∀ k, g.machineId ≠ .fresh k ∧ g.bootId ≠ .fresh k
  distinct : (t.shared.pve.guests.map Guest.vmid).Nodup

def Cond.aok (cond : Cond) (t : Abs) (l : Label) (t' : Abs) : Prop := cond t.shared l t'.shared

def AReachable (cond : Cond) : Abs → Prop := Reach AStep cond.aok AInitial

/-- The panel refines the abstract panel: the same shared state, and each coroutine keeps to its
protocol from the phase it is in. -/
structure Refines (s : Sys) (t : Abs) : Prop where
  shared : s.shared = t.shared
  alive : s.alive = t.alive
  boot : s.boot.Follows BootT t.boot fun _ φ => φ = .over
  worker : s.worker.Follows WorkerT t.worker fun _ φ => φ = .over
  requests : Crew RequestT (fun _ φ => φ.Idle) s.requests t.requests

theorem Refines.worker_over {s : Sys} {t : Abs} (h : Refines s t) (hr : s.worker.isRet = true) :
    t.worker = .over := by
  have hw := h.worker
  cases hp : s.worker with
  | ret a =>
    rw [hp] at hw
    exact hw
  | await e k =>
    rw [hp] at hr
    cases hr

theorem Refines.boot_over {s : Sys} {t : Abs} (h : Refines s t) (hr : s.boot.isRet = true) :
    t.boot = .over := by
  have hb := h.boot
  cases hp : s.boot with
  | ret a =>
    rw [hp] at hb
    exact hb
  | await e k =>
    rw [hp] at hr
    cases hr

theorem Refines.request_idle {s : Sys} {t : Abs} (h : Refines s t)
    (hr : ∀ p ∈ s.requests, Prog.isRet p = true) : ∀ φ ∈ t.requests, φ.Idle := by
  intro φ hφ
  obtain ⟨p, hp, hf⟩ := h.requests.mem hφ
  have hret := hr p hp
  cases p with
  | ret a => exact hf
  | await e k => cases hret

theorem Refines.init {s : Sys} (h : Initial s) : ∃ t, AInitial t ∧ Refines s t := by
  refine ⟨{ shared := s.shared }, ⟨rfl, rfl, rfl, rfl, h.queue, h.workerOff, h.unlocked, h.vms,
    h.jobs, h.hist, h.foreign, h.undrawn, h.distinct⟩, ⟨rfl, h.dead, ?_, ?_, ?_⟩⟩
  · rw [h.boot]
    rfl
  · rw [h.worker]
    rfl
  · rw [h.requests]
    exact .nil

theorem Refines.step {s s' : Sys} {l : Label} {t : Abs} (h : Refines s t) (hs : Step s l s') :
    ∃ t', AStep t l t' ∧ Refines s' t' := by
  cases hs with
  | crash ha =>
    exact ⟨_, .crash (h.alive ▸ ha), by rw [h.shared], rfl, rfl, rfl, .nil⟩
  | restart settings ha =>
    exact ⟨_, .restart settings (h.alive ▸ ha), h.shared, rfl, lifespan_follows settings, rfl, .nil⟩
  | get ha hw hr hq =>
    have hsh := h.shared
    refine ⟨_, .get (h.alive ▸ ha) (hsh ▸ hw) (h.worker_over hr) (hsh ▸ hq),
      by rw [hsh], h.alive, h.boot, dispatch_follows _ _, h.requests⟩
  | receive r ha hb =>
    refine ⟨_, .receive r (h.alive ▸ ha) (h.boot_over hb), h.shared, h.alive, h.boot, h.worker, ?_⟩
    exact h.requests.join (serve_follows _ _)
  | boot ha hk hact =>
    have hb := h.boot
    rw [hk] at hb
    obtain ⟨φ, ht, hf⟩ := hb _
    exact ⟨_, .boot (h.alive ▸ ha) ht (h.shared ▸ hact), rfl, h.alive, hf, h.worker, h.requests⟩
  | worker ha hk hact =>
    have hw := h.worker
    rw [hk] at hw
    obtain ⟨φ, ht, hf⟩ := hw _
    exact ⟨_, .worker (h.alive ▸ ha) ht (h.shared ▸ hact), rfl, h.alive, h.boot, hf, h.requests⟩
  | @request i _ _ _ _ ha hk hact =>
    obtain ⟨φ, φ', hφ, ht, hrequests⟩ := h.requests.await hk _
    exact ⟨_, .request (h.alive ▸ ha) hφ ht (h.shared ▸ hact), rfl, h.alive, h.boot, h.worker,
      hrequests⟩

/-- Every run of the panel is a run of the abstract panel over the same shared states. -/
theorem Reachable.abstract {cond : Cond} {s : Sys} (h : Reachable cond s) :
    ∃ t, AReachable cond t ∧ Refines s t := by
  have hi : ∀ s, Initial s → ∃ t, AInitial t ∧ Refines s t := fun s hs => Refines.init hs
  have hstep : ∀ s l s' t, Refines s t → Step s l s' → cond.ok s l s' →
      ∃ t', AStep t l t' ∧ cond.aok t l t' ∧ Refines s' t' := by
    intro s l s' t hr hs hok
    obtain ⟨t', ht, hr'⟩ := hr.step hs
    refine ⟨t', ht, ?_, hr'⟩
    have hok' : cond s.shared l s'.shared := hok
    rwa [hr.shared, hr'.shared] at hok'
  exact Reach.simulate hi hstep h

/-- The same for a further piece of a run. -/
theorem Refines.path {cond : Cond} {s s' : Sys} {t : Abs} (h : Refines s t)
    (hp : Path Step cond.ok s s') : ∃ t', Path AStep cond.aok t t' ∧ Refines s' t' := by
  induction hp with
  | refl => exact ⟨t, .refl t, h⟩
  | next _ hs hok ih =>
    obtain ⟨t₁, hp₁, hr₁⟩ := ih
    obtain ⟨t₂, hs₂, hr₂⟩ := hr₁.step hs
    refine ⟨t₂, .next hp₁ hs₂ ?_, hr₂⟩
    have hok' : cond _ _ _ := hok
    rwa [hr₁.shared, hr₂.shared] at hok'

end Clusteration
