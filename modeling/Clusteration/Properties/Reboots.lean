import Clusteration.Scripts.RollingUpgrade

open Transition

namespace Clusteration.Scripts

/-- When a reboot is issued every node that was rebooted is back, and no two are away at a time. -/
structure OneAtATime (s : Rolling) : Prop where
  reboot : ∀ host rest, s.line = .reboot host rest → ∀ node, s.power node = .up
  down : ∀ node node', s.power node ≠ .up → s.power node' ≠ .up → node = node'

def Line.probing : Line → Option String
  | probe host _ => some host
  | _ => none

/-- The node that the script waits for has stopped its sshd before it is asked whether it is back. -/
def StoppedWhenProbed (s : Rolling) : RollingLabel → Prop
  | .script _ => ∀ host ∈ s.line.probing, s.power host ≠ .stopping
  | _ => True

instance : ∀ s l, Decidable (StoppedWhenProbed s l)
  | s, .script _ => inferInstanceAs (Decidable (∀ host ∈ s.line.probing, s.power host ≠ .stopping))
  | _, .tick _ | _, .stopped _ | _, .booted _ => inferInstanceAs (Decidable True)

/-- The host of a round whose reboot may not be over. -/
def Line.rebooting : Line → Option String
  | sleep host _ _ | probe host _ => some host
  | _ => none

/-- All nodes are up but the one the script waits for. -/
def OthersUp (s : Rolling) : Prop := ∀ node, s.line.rebooting ≠ some node → s.power node = .up

theorem OthersUp.oneAtATime {s : Rolling} (h : OthersUp s) : OneAtATime s where
  reboot host rest hline node := by
    apply h
    rw [hline]
    simp [Line.rebooting]
  down node node' haway haway' := by
    have hnode : s.line.rebooting = some node := by
      by_contra hne
      exact haway (h node hne)
    have hnode' : s.line.rebooting = some node' := by
      by_contra hne
      exact haway' (h node' hne)
    exact Option.some.inj (hnode.symm.trans hnode')

section Step
variable {s s' : Rolling} {l : RollingLabel}

/-- A line that does not wait needs every node up, and leaves them so. -/
theorem OthersUp.all (h : OthersUp s) (hline : s.line.rebooting = none) (node : String) :
    s.power node = .up := by
  apply h
  simp [hline]

theorem OthersUp.command {ok : Bool} (h : OthersUp s) (hstep : s.command ok = some s')
    (hprobe : StoppedWhenProbed s (.script ok)) : OthersUp s' := by
  intro node hnode
  cases hline : s.line with
  | preflight =>
    simp only [Rolling.command, hline, Option.some.injEq] at hstep
    subst hstep
    exact h.all (by simp [hline, Line.rebooting]) node
  | upgrade host rest | pveversion host rest | quorum rest =>
    simp only [Rolling.command, hline, Option.some.injEq] at hstep
    subst hstep
    exact h.all (by simp [hline, Line.rebooting]) node
  | reboot host rest =>
    have hup := h.all (by simp [hline, Line.rebooting]) node
    simp only [Rolling.command, hline, Option.some.injEq] at hstep
    subst hstep
    have hne : node ≠ host := by
      rintro rfl
      exact hnode rfl
    show (if (s.power host).answers = true then _ else s.power) node = .up
    split
    · rw [Function.update_of_ne hne]
      exact hup
    · exact hup
  | sleep host rest wake =>
    simp only [Rolling.command, hline, Option.ite_none_right_eq_some, Option.some.injEq] at hstep
    obtain ⟨_, rfl⟩ := hstep
    exact h node (by simpa [hline, Line.rebooting] using hnode)
  | probe host rest =>
    simp only [Rolling.command, hline, Option.some.injEq] at hstep
    subst hstep
    by_cases hn : node = host
    · -- it answers and has not been stopping, so it is back
      subst hn
      have hgone := hprobe node (by simp [hline, Line.probing])
      cases hp : s.power node with
      | up => rfl
      | stopping => exact absurd hp hgone
      | down =>
        simp [hp, Power.answers, Line.rebooting] at hnode
    · apply h
      simpa [hline, Line.rebooting] using Ne.symm hn
  | finished | failed =>
    simp only [Rolling.command, hline] at hstep
    cases hstep

theorem OthersUp.step (h : OthersUp s) (hstep : s.step l = some s') (hprobe : StoppedWhenProbed s l) :
    OthersUp s' := by
  cases l with
  | tick clock =>
    simp only [Rolling.step, Option.ite_none_right_eq_some, Option.some.injEq] at hstep
    obtain ⟨_, rfl⟩ := hstep
    exact h
  | stopped node | booted node =>
    simp only [Rolling.step, Option.ite_none_right_eq_some, Option.some.injEq] at hstep
    obtain ⟨haway, rfl⟩ := hstep
    intro other hother
    have hup : s.power other = .up := h other hother
    have hne : other ≠ node := by
      rintro rfl
      rw [hup] at haway
      cases haway
    exact (Function.update_of_ne hne _ _).trans hup
  | script ok => exact h.command hstep hprobe

end Step

/-- Where no node is asked whether it is back before it has gone, one is down at a time. -/
theorem reboots_one_at_a_time {nodes : List String} {s : Rolling}
    (h : Rolling.Reachable StoppedWhenProbed nodes s) : OneAtATime s := by
  have hup : OthersUp s := by
    apply Reach.invariant (P := OthersUp) _ _ h
    · rintro _ rfl node _
      rfl
    · intro s l s' hs hstep hprobe
      exact hs.step hstep hprobe
  exact hup.oneAtATime

/-- Two nodes; the first has shut down within the ten seconds and is asked twice. -/
theorem reboots_one_at_a_time_two_nodes : ∃ s,
    Rolling.Reachable StoppedWhenProbed ["pve1", "pve2"] s ∧ s.line = .reboot "pve2" [] ∧
      OneAtATime s := by
  have hrun : (((⟨["pve1", "pve2"], 0, fun _ => .up, .preflight⟩ : Rolling).run StoppedWhenProbed
      [.script true, .script true, .script true, .stopped "pve1", .tick 10, .script true,
        .script true, .booted "pve1", .tick 20, .script true, .script true, .script true,
        .script true, .script true]).map fun s => s.line) = some (.reboot "pve2" []) := by
    decide +kernel
  obtain ⟨s, hs, hline⟩ := Option.map_eq_some_iff.mp hrun
  have hreach := Rolling.Reachable.run (.start rfl) hs
  exact ⟨s, hreach, hline, reboots_one_at_a_time hreach⟩

/-- A node whose shutdown takes longer than the sleep answers, and the next one is rebooted. -/
theorem not_reboots_one_at_a_time : ¬ ∀ (nodes : List String) (s : Rolling), 2 ≤ nodes.length →
    Rolling.Reachable (fun _ _ => True) nodes s → OneAtATime s := by
  intro hall
  have hrun : (((⟨["pve1", "pve2"], 0, fun _ => .up, .preflight⟩ : Rolling).run (fun _ _ => True)
      [.script true, .script true, .script true, .tick 10, .script true, .script true,
        .script true, .script true, .script true]).map fun s => (s.line, s.power "pve1")) =
      some (.reboot "pve2" [], .stopping) := by
    decide +kernel
  obtain ⟨s, hs, heq⟩ := Option.map_eq_some_iff.mp hrun
  obtain ⟨hline, hpower⟩ := Prod.mk.inj heq
  have hone := hall ["pve1", "pve2"] s (by decide) (Rolling.Reachable.run (.start rfl) hs)
  have hup := hone.reboot "pve2" [] hline "pve1"
  rw [hup] at hpower
  cases hpower

end Clusteration.Scripts
