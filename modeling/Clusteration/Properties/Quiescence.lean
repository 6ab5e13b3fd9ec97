import Clusteration.Invariants.Observed

namespace Clusteration

theorem RequestPhase.Idle.no_payloads {φ : RequestPhase} (h : φ.Idle) : φ.payloads = [] := by
  cases φ <;> first | rfl | exact h.elim

/-- Nobody is at work: the startup is over, the worker waits and no request owes anything. -/
structure View.Idle (m : View) : Prop where
  opened : m.Open
  worker : m.worker = .over
  requests : ∀ φ ∈ m.requests, φ.Idle

theorem Refines.idle {s : Sys} {t : Abs} (h : Refines s t) (hb : s.Between) : t.view.Idle where
  opened := ⟨h.alive.symm.trans hb.alive, h.boot_over hb.started⟩
  worker := h.worker_over hb.idle
  requests := h.request_idle hb.answered

section Idle
variable {m : View} (hb : Base m) (hi : m.Idle)
include hb hi

/-- Then the queue holds exactly the queued jobs. -/
theorem View.Idle.queued {i : JobId} {c : JobCore} (hc : m.jobs i = some c)
    (hs : c.status = .queued) : ∃ p ∈ m.queue, p.jobId = i := by
  have hlate : ¬ m.Early := by simp [View.Early, hi.opened.1, hi.opened.2, BootPhase.early]
  have hcount := hb.counts hlate i
  rw [View.queuedCount_some hc, if_pos hs] at hcount
  have hmem : i ∈ m.held := List.count_pos_iff.mp (by omega)
  rcases List.mem_append.mp hmem with hmem | hmem
  · obtain ⟨p, hp, rfl⟩ := List.mem_map.mp hmem
    rcases View.mem_payloads.mp hp with hp | hp | hp | ⟨φ, hφ, hp⟩
    · exact ⟨p, hp, rfl⟩
    · rw [hi.worker] at hp
      cases hp
    · rw [hi.opened.2] at hp
      cases hp
    · rw [(hi.requests φ hφ).no_payloads] at hp
      cases hp
  · rw [hi.opened.2] at hmem
    cases hmem

theorem View.Idle.not_running {i : JobId} {c : JobCore} (hc : m.jobs i = some c) :
    c.status ≠ .running := by
  intro hs
  obtain ⟨w, hw, _⟩ :=
    hb.running_exec (by simp [View.Unrecovered, hi.opened.1, hi.opened.2]) hc hs
  rw [hi.worker] at hw
  cases hw

/-- A live record in a transient status waits for its creation. -/
theorem View.Idle.transient {v : VmId} {x : Core} (hx : m.vms v = some x)
    (hd : x.deletedAt = none) (ht : x.status.transient = true) : m.Fresh v := by
  rcases hb.transient hx hd ht with hu | ⟨_, hf⟩ | ⟨w, hw, _⟩
  · simp [View.Unrecovered, hi.opened.1, hi.opened.2] at hu
  · exact hf
  · rw [hi.worker] at hw
    cases hw

end Idle

/-- Once the queue has run dry, no job is queued or running and no live record is in a transient
status, whatever failed or crashed before. -/
theorem quiescent_settled {s : Sys} (h : Reachable .any s) (hs : s.Between)
    (hq : s.shared.queue = []) :
    (∀ j job, s.shared.db.jobs.get j = some job → job.status ≠ .queued ∧ job.status ≠ .running) ∧
      ∀ v vm, s.shared.db.vms.get v = some vm → vm.deletedAt = none → vm.status.transient = false := by
  obtain ⟨t, ht, hr⟩ := h.abstract
  have hb := ht.base
  have hi := hr.idle hs
  have hempty : t.view.queue = [] := (congrArg Shared.queue hr.shared).symm.trans hq
  have hnot : ∀ {i c}, t.view.jobs i = some c → c.status ≠ .queued := by
    intro i c hc hst
    obtain ⟨p, hp, _⟩ := hi.queued hb hc hst
    rw [hempty] at hp
    cases hp
  rw [hr.shared]
  refine ⟨fun j job hj => ?_, fun v vm hv hd => ?_⟩
  · have hc : t.view.jobs j = some job.core := congrArg (Option.map Job.core) hj
    exact ⟨hnot hc, hi.not_running hb hc⟩
  · have hx : t.view.vms v = some vm.core := congrArg (Option.map VM.core) hv
    rw [Bool.eq_false_iff]
    intro htr
    obtain ⟨i, c, hc, _, hst, _⟩ := hi.transient hb hx hd htr
    exact hnot hc hst

open Scenario in
/-- The failed creation of one VM, up to the empty queue. -/
def failedCreation : List Choice :=
  startup [] 0 ++ create 0 (body "a" named_a) 100 ++ createRefused

theorem failedCreation_ends : (Scenario.panel.run (fun _ _ _ => true) failedCreation).any (fun s =>
    s.Between ∧ s.shared.queue = [] ∧ (s.shared.db.jobs.get 0).isSome = true) = true := by
  decide +kernel

theorem failedCreation_runs :
    (Scenario.panel.run (fun _ _ _ => true) failedCreation).isSome = true :=
  Option.isSome_of_any failedCreation_ends

/-- The rule at work: after the failed creation the job has failed and its record is in error. -/
theorem quiescent_settled_failedCreation :
    let s := (Scenario.panel.run (fun _ _ _ => true) failedCreation).get failedCreation_runs
    (s.shared.db.jobs.get 0).isSome = true ∧
    (∀ j job, s.shared.db.jobs.get j = some job → job.status ≠ .queued ∧ job.status ≠ .running) ∧
      ∀ v vm, s.shared.db.vms.get v = some vm → vm.deletedAt = none → vm.status.transient = false := by
  intro s
  have hreach : Reachable .any s := @Scenario.reached _ Cond.any (fun _ _ _ _ => trivial) _ failedCreation_runs
  obtain ⟨hbetween, hempty, hjob⟩ :=
    of_decide_eq_true (Option.get_of_any_eq_true _ _ failedCreation_ends)
  exact ⟨hjob, quiescent_settled hreach hbetween hempty⟩

end Clusteration
