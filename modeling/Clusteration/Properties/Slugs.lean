import Clusteration.Front.Phases
import Clusteration.Invariants.Acts

open Async Transition

namespace Clusteration.Front

/-- A VM that is not deleted. -/
def Sys.Live (s : Sys) (v : VmId) : Prop :=
  ∃ vm, s.panel.shared.db.vms.get v = some vm ∧ vm.deletedAt = none

/-- A live VM has an exposure with this slug. -/
def Sys.SlugInUse (s : Sys) (slug : String) : Prop :=
  ∃ e ∈ s.exposures, e.2.slug = slug ∧ s.Live e.2.vmId

/-- A VM is deleted only when it has no exposures, and an exposure is committed only for a VM that
is not deleted. -/
structure Cond.released (s : Sys) (l : Label) (s' : Sys) : Prop where
  deleted : ∀ v, s.Live v → ¬ s'.Live v → ∀ e ∈ s.exposures, e.2.vmId ≠ v
  committed : ∀ i row x, l = .await i (.insertExposure row) (some x) → s.Live row.vmId

/-- What the slugs are for: `create_exposure` refuses a slug as `EXPOSURE_SLUG_TAKEN` exactly when a
live VM has an exposure with it, and a deleted VM has none. -/
structure Sys.SlugLaw (s : Sys) : Prop where
  refused : ∀ i slug existing s', Step s (.await i (.selectSlug slug) existing) s' →
    (s'.requests[i]? = some (.ret (.error slugTaken)) ↔ s.SlugInUse slug)
  deleted : ∀ v vm, s.panel.shared.db.vms.get v = some vm → vm.deletedAt ≠ none →
    ∀ e ∈ s.exposures, e.2.vmId ≠ v

/-- Every exposure is one of a live VM. -/
def Sys.Released (s : Sys) : Prop := ∀ e ∈ s.exposures, s.Live e.2.vmId

variable {s s' : Shared} {e : Eff} {a : Ans e}

/-- An exposure was there before the await, or the await has committed it. -/
theorem act_exposures (h : Act s e a s') {x : ExposureId × VMExposure} (hx : x ∈ s'.exposures) :
    x ∈ s.exposures ∨ ∃ i : Nat, ∃ y, Label.await i e a = .await i (.insertExposure x.2) (some y) := by
  obtain ⟨input, h⟩ := h
  cases e with
  | insertExposure row =>
    cases input <;> simp only [perform, reduceCtorEq] at h
    split at h
    · cases h
      exact .inl hx
    · cases h
      rcases List.mem_append.mp hx with hx | hx
      · exact .inl hx
      · rw [List.mem_singleton] at hx
        subst hx
        exact .inr ⟨0, _, rfl⟩
  | deleteExposure y =>
    cases input <;> simp only [perform, reduceCtorEq] at h
    cases h
    exact .inl (List.mem_filter.mp hx).1
  | _ =>
    cases input <;> simp only [perform, reduceCtorEq] at h
    all_goals first
      | (cases h; exact .inl hx)
      | (split at h <;> first
          | (cases h; exact .inl hx)
          | (split at h <;> cases h <;> exact .inl hx)
          | cases h)

theorem Reachable.released {t : Sys} (h : Reachable Cond.released t) : t.Released := by
  induction h with
  | start hi =>
    intro x hx
    rw [hi.exposures] at hx
    cases hx
  | @next t t' l _ hstep hok ih =>
    have hpanel : ∀ p, l = .panel p → t'.exposures = t.exposures → t'.Released := by
      intro p _ hexp x hx
      rw [hexp] at hx
      by_contra hdead
      exact hok.deleted x.2.vmId (ih x hx) hdead x hx rfl
    cases hstep with
    | panel _ _ => exact hpanel _ rfl rfl
    | crash _ => exact hpanel _ rfl rfl
    | receive r _ _ => exact ih
    | @await i e _ a sh _ hact =>
      intro x hx
      rcases act_exposures hact hx with hx | ⟨j, y, heq⟩
      · exact ih x hx
      · cases heq
        exact hok.committed i x.2 y rfl

/-- The slug's row is found exactly when there is one. -/
theorem slug_isSome {slug : String} :
    (s.slug slug).isSome = true ↔ ∃ x ∈ s.exposures, x.2.slug = slug := by
  unfold Shared.slug
  rw [List.find?_isSome]
  constructor
  · rintro ⟨row, hrow, heq⟩
    obtain ⟨x, hx, rfl⟩ := List.mem_map.mp hrow
    exact ⟨x, hx, by simpa using heq⟩
  · rintro ⟨x, hx, heq⟩
    exact ⟨x.2, List.mem_map_of_mem hx, by simpa using heq⟩

/-- `create_exposure` refuses the slug exactly when it finds a row. -/
theorem refused_iff {cond : Cond} {t t' : Sys} {i : Nat} {slug : String}
    {existing : Option VMExposure} (h : Reachable cond t)
    (hs : Step t (.await i (.selectSlug slug) existing) t') :
    t'.requests[i]? = some (.ret (.error slugTaken)) ↔ ∃ x ∈ t.exposures, x.2.slug = slug := by
  obtain ⟨φs, hin, -⟩ := Reachable.phased (I := fun _ _ => True) (fun _ _ => trivial)
    (fun _ _ _ _ _ _ _ _ _ _ => trivial) h
  cases hs with
  | @await _ _ k _ sh hp hact =>
    have hrow : existing = t.shared.slug slug := by
      obtain ⟨input, hact⟩ := hact
      cases input <;> simp only [perform, reduceCtorEq, Option.some.injEq, Prod.mk.injEq] at hact
      exact hact.1.symm
    have hlt : i < t.requests.length := (List.getElem?_eq_some_iff.mp hp).1
    have hself : (t.requests.set i (k existing))[i]? = some (k existing) :=
      List.getElem?_set_self hlt
    obtain ⟨φ, hφ, hf⟩ := Crew.at_index hin hp
    obtain ⟨φ', ht, hf'⟩ := hf existing
    have hsome : existing.isSome = true ↔ ∃ x ∈ t.exposures, x.2.slug = slug := by
      rw [hrow]
      exact slug_isSome
    rw [hself, Option.some.injEq, ← hsome]
    cases ht with
    | aside he _ => cases he
    | free =>
      constructor
      · intro heq
        rw [heq] at hf'
        exact absurd rfl hf'.1
      · intro hfalse
        cases hfalse
    | taken =>
      obtain ⟨out, hret, hout⟩ := follows_last hf' rfl
      rw [hret, hout]
      simp

/-- In every run that deletes a VM only when it has no exposures left, and commits an exposure only
for a VM that is not deleted, the slugs in use are those of the live VMs. -/
theorem slugs_of_live_vms {t : Sys} (h : Reachable Cond.released t) : t.SlugLaw := by
  have hlive := h.released
  constructor
  · intro i slug existing t' hs
    rw [refused_iff h hs]
    constructor
    · rintro ⟨x, hx, heq⟩
      exact ⟨x, hx, heq, hlive x hx⟩
    · rintro ⟨x, hx, heq, -⟩
      exact ⟨x, hx, heq⟩
  · intro v vm hv hd x hx heq
    obtain ⟨vm', hv', hd'⟩ := hlive x hx
    rw [heq, hv] at hv'
    cases hv'
    exact hd hd'

def Sys.live (s : Sys) (v : VmId) : Bool :=
  (s.panel.shared.db.vms.get v).any fun vm => vm.deletedAt.isNone

theorem Sys.live_iff {s : Sys} {v : VmId} : s.live v = true ↔ s.Live v := by
  unfold live Live
  rw [Option.any_eq_true]
  apply exists_congr
  intro vm
  rw [Option.isNone_iff_eq_none]

def checkReleased (s : Sys) (l : Label) (s' : Sys) : Bool :=
  (s.exposures.all fun e => !s.live e.2.vmId || s'.live e.2.vmId) &&
  match l with
  | .await _ (.insertExposure row) (some _) => s.live row.vmId
  | _ => true

theorem checkReleased_sound (s : Sys) (l : Label) (s' : Sys) (h : checkReleased s l s' = true) :
    Cond.released s l s' := by
  unfold checkReleased at h
  rw [Bool.and_eq_true] at h
  obtain ⟨hdel, hcom⟩ := h
  constructor
  · intro v hv hv' e he heq
    subst heq
    have hrow := List.all_eq_true.mp hdel e he
    rw [Bool.or_eq_true, Bool.not_eq_true', Bool.eq_false_iff, Ne, Sys.live_iff, Sys.live_iff] at hrow
    rcases hrow with hdead | hlive
    · exact hdead hv
    · exact hv' hlive
  · rintro i row x rfl
    exact Sys.live_iff.mp hcom

/-- The request and the slug of a look for a slug. -/
def Label.selects : Label → Option (Nat × String)
  | .await i (.selectSlug slug) _ => some (i, slug)
  | _ => none

theorem Label.eq_of_selects {l : Label} {i : Nat} {slug : String} (h : l.selects = some (i, slug)) :
    ∃ existing, l = .await i (.selectSlug slug) existing := by
  unfold selects at h
  split at h
  · cases h
    exact ⟨_, rfl⟩
  · cases h

namespace Trials
open Scenario

def web : ExposureCreate := ⟨"web", 80, by decide, by decide⟩

/-- VM 0, whose creation has failed, is exposed. -/
def exposed : List Choice :=
  panel (startup [] 0 ++ create 0 (body "a" named_a) 100 ++ createRefused) ++
    [.receive (.createExposure 0 web)] ++ runs 0 [.none, .none, .none]

/-- VM 0 is deleted, and VM 1 is created and to be exposed under the same slug. -/
def replaced : List Choice :=
  panel (delete 1 0 "a" ++ deleteBlank ++ create 2 (body "b" named_b) 100)

def reused (n : Nat) : List Choice := .receive (.createExposure 1 web) :: runs n [.none]

theorem released_ends : (front.run checkReleased (exposed ++
    [.receive (.deleteExposure 0 0)] ++ runs 1 [.none, .none, .none] ++ replaced ++
    reused 2 ++ runs 2 [.none, .none])).any (fun t =>
      t.exposures.map (fun e => e.2.vmId) = [1]) = true := by decide +kernel

theorem released_runs : (front.run checkReleased (exposed ++
    [.receive (.deleteExposure 0 0)] ++ runs 1 [.none, .none, .none] ++ replaced ++
    reused 2 ++ runs 2 [.none, .none])).isSome = true := Option.isSome_of_any released_ends

end Trials

open Trials in
/-- The slug goes on to VM 1. -/
theorem slugs_released :
    let t := (front.run checkReleased (exposed ++ [.receive (.deleteExposure 0 0)] ++
      runs 1 [.none, .none, .none] ++ replaced ++ reused 2 ++ runs 2 [.none, .none])).get released_runs
    t.exposures.map (fun e => e.2.vmId) = [1] ∧ t.SlugLaw := by
  intro t
  have hreach : Reachable Cond.released t := reached checkReleased_sound released_runs
  exact ⟨of_decide_eq_true (Option.get_of_any_eq_true _ _ released_ends), slugs_of_live_vms hreach⟩

open Trials in
theorem slug_stays_taken : ∃ t t' existing, Reachable Cond.any t ∧
    Step t (.await 1 (.selectSlug "web") existing) t' ∧
    t'.requests[1]? = some (.ret (.error slugTaken)) ∧ ¬ t.SlugInUse "web" := by
  have hends : (front.run (fun _ _ _ => true) (exposed ++ replaced ++ reused 1)).any (fun t =>
      ((t.step (.run 1 .none)).any fun x => x.1.selects = some (1, "web")) = true ∧
        t.exposures = [(0, ⟨0, "web", 80, true⟩)] ∧ t.live 0 = false) = true := by decide +kernel
  obtain ⟨t, hreach, hends⟩ := evaluated_any hends
  obtain ⟨hnext, hrows, hdead⟩ := of_decide_eq_true hends
  obtain ⟨⟨l, t'⟩, hstep, hsel⟩ := (Option.any_eq_true _ _).mp hnext
  obtain ⟨existing, rfl⟩ := Label.eq_of_selects (of_decide_eq_true hsel)
  have hs := step_sound hstep
  refine ⟨t, t', existing, hreach, hs, (refused_iff hreach hs).mpr ?_, ?_⟩
  · exact ⟨(0, ⟨0, "web", 80, true⟩), by rw [hrows]; exact List.mem_singleton_self _, rfl⟩
  · rintro ⟨x, hx, -, hlive⟩
    rw [hrows, List.mem_singleton] at hx
    subst hx
    rw [Sys.live_iff.mpr hlive] at hdead
    cases hdead

end Clusteration.Front
