import Clusteration.Properties.JobLife

open Transition

namespace Clusteration

/-- The worker begins no job, readiness checks apart, on a deleted record. -/
def Cond.spared : Cond := fun s _ s' => ∀ j job vm, Begins s s' j job vm →
  job.type ≠ .sshReadinessCheck → vm.deletedAt = none

/-- Requests that make a guest or boot one. -/
def Req.revives : Req → Bool
  | clone .. => true
  | req => req.boots

def Ev.Revives (v : VmId) : Ev → Prop
  | .call (some c) req _ => c.vm = v ∧ req.revives = true
  | _ => False

structure View.Terminal (m : View) : Prop where
  rows : ∀ {v x}, m.vms v = some x → x.deletedAt ≠ none → x.status = .deleted
  /-- the job at work found a live record, and is done once it has deleted it -/
  exec : ∀ {w}, m.worker = .exec w → w.type ≠ .sshReadinessCheck →
    w.x.deletedAt = none ∨ w.stage = .settled

theorem Calls.ne_settled {w : Exec} {req : Req} (h : Calls w req) : w.stage ≠ .settled := by
  cases h with
  | power _ h _ _ | stop _ h _ | destroy _ h _ | clone _ _ _ h | config _ _ h | resize _ _ _ h
  | start _ h | exec _ _ h | reboot _ h => simp [h]

theorem Calls.ne_ssh {w : Exec} {req : Req} (h : Calls w req) (hw : w.Ok) :
    w.type ≠ .sshReadinessCheck := by
  intro ht
  cases h with
  | power _ _ hop _ => exact powerOp_ne_ssh hop ht
  | stop _ hs _ | destroy _ hs _ | clone _ _ _ hs | config _ _ hs | resize _ _ _ hs | start _ hs
  | exec _ _ hs | reboot _ hs =>
    simp only [Exec.Ok, hs] at hw
    rw [ht] at hw
    cases hw.1

theorem Edit.of_settled {w : Exec} {stage : Stage} {x : Core} {target : Option Int}
    (h : Edit w stage x target) (hs : w.stage = .settled) : stage = .settled ∧ x = w.x := by
  cases h with
  | metadata => exact ⟨hs, rfl⟩
  | power h _ _ | stopped h _ _ | addressed h _ | unheard h _ | delete h _ | wipe h _ | target h | targetLost h
  | adopt h | booted h | address h | noAddress h | ready h | sshReady h | sshFailed h _ =>
    rw [hs] at h
    cases h
  | deleted _ h _ | cleared h _ =>
    have hr := h.raises
    rw [hs] at hr
    cases hr
  | prepare h => rcases h with ⟨h, _⟩ | ⟨h, _⟩ <;> rw [hs] at h <;> cases h

/-- Only the end of a deletion writes `deleted_at`. -/
theorem Edit.deletedAt {w : Exec} {stage : Stage} {x : Core} {target : Option Int}
    (h : Edit w stage x target) :
    x.deletedAt = w.x.deletedAt ∨ (stage = .settled ∧ x.status = .deleted) := by
  cases h with
  | deleted _ _ _ => exact .inr ⟨rfl, rfl⟩
  | _ => exact .inl rfl

section Step
variable {m m' : View} {l : Label}

/-- A record the job at work finds deleted is not changed by it but for its SSH status. -/
theorem View.Terminal.edit (ht : m.Terminal) (hb : Base m) {w : Exec} (hw : m.worker = .exec w)
    {stage : Stage} {x : Core} {target : Option Int} (he : Edit w stage x target)
    (hd : w.x.deletedAt ≠ none) : x = { w.x with ssh := x.ssh } := by
  by_cases hssh : w.type = .sshReadinessCheck
  · exact he.ssh_only (hb.exec hw).ok hssh
  · rcases ht.exec hw hssh with h | h
    · exact absurd h hd
    · rw [(he.of_settled h).2]

/-- A deleted record after a step. -/
theorem View.Terminal.kept (ht : m.Terminal) (hb : Base m) (hm : Move m l m') {v : VmId}
    {x x' : Core} (hx : m.vms v = some x) (hd : x.deletedAt ≠ none) (hx' : m'.vms v = some x') :
    x'.status = x.status ∧ x'.deletedAt = x.deletedAt := by
  cases hm.vms_back hx' with
  | same h =>
    obtain rfl := Option.some.inj (hx.symm.trans h)
    exact ⟨rfl, rfl⟩
  | @edit w stage y row target hw hv hrow he _ hx'' =>
    obtain rfl := Option.some.inj (hx.symm.trans hrow)
    obtain ⟨_, _, row', hrow', hag⟩ := hb.exec hw
    obtain rfl := Option.some.inj (hx.symm.trans (hv ▸ hrow'))
    have hy := ht.edit hb hw he (hag.deletedAt ▸ hd)
    subst hx''
    exact ⟨(congrArg Core.status hy).trans hag.status.symm,
      (congrArg Core.deletedAt hy).trans hag.deletedAt.symm⟩
  | @fail w row hw hv hrow hns hssh _ _ =>
    obtain rfl := Option.some.inj (hx.symm.trans hrow)
    obtain ⟨_, _, row', hrow', hag⟩ := hb.exec hw
    obtain rfl := Option.some.inj (hx.symm.trans (hv ▸ hrow'))
    rcases ht.exec hw hssh with h | h
    · exact absurd (hag.deletedAt.trans h) hd
    · rw [h] at hns
      cases hns
  | mark _ _ hrow hx'' =>
    obtain rfl := Option.some.inj (hx.symm.trans hrow)
    subst hx''
    exact ⟨rfl, rfl⟩
  | recover hrow _ _ hx'' =>
    obtain rfl := Option.some.inj (hx.symm.trans hrow)
    subst hx''
    have hnone : x.deletedAt.isNone = false := by
      rwa [Option.isNone_eq_false_iff, Option.isSome_iff_ne_none]
    exact ⟨by simp [Core.recovered, hnone], rfl⟩
  | create _ _ _ h _ =>
    rw [hx] at h
    cases h

/-- No request for a deleted record makes a guest or boots one. -/
theorem View.Terminal.quiet (ht : m.Terminal) (hb : Base m) (hm : Move m l m') {v : VmId}
    {x : Core} (hx : m.vms v = some x) (hd : x.deletedAt ≠ none) :
    ∃ evs, m'.hist = evs ++ m.hist ∧ ∀ ev ∈ evs, ¬ ev.Revives v := by
  cases hm with
  | get _ _ _ | enter _ _ _ | ssh _ _ _ _ _ | clock _ _ _ =>
    exact ⟨[_], rfl, fun ev hev h => by rw [List.mem_singleton.mp hev] at h; exact h⟩
  | observe evs hq =>
    refine ⟨evs, rfl, fun ev hev h => ?_⟩
    have := hq ev hev
    cases ev with
    | call _ _ _ => exact this
    | _ => exact h
  | @http w req i stage pve _ hw hcall _ =>
    refine ⟨_, rfl, fun ev hev h => ?_⟩
    cases mem_httpEvents hev with
    | report _ _ | boot _ _ | renew _ _ => exact h
    | call hget =>
      obtain ⟨hv, _⟩ := h
      obtain rfl : w.v = v := hv
      obtain ⟨hok, _, row, hrow, hag⟩ := hb.exec hw
      obtain rfl := Option.some.inj (hx.symm.trans hrow)
      have hc : Calls w req := by
        rcases hcall with ⟨hc, _⟩ | hl
        · exact hc
        · exact hl.calls hget
      rcases ht.exec hw (hc.ne_ssh hok) with hn | hs
      · exact hd (hag.deletedAt.trans hn)
      · exact hc.ne_settled hs
  | _ => exact ⟨[], rfl, fun ev hev => by cases hev⟩

end Step

section Run
variable {t t' : Abs} {l : Label}

theorem View.Terminal.step (ht : t.view.Terminal) (hb : Base t.view) (hm : Move t.view l t'.view)
    (hok : Cond.spared t.shared l t'.shared) : t'.view.Terminal := by
  refine ⟨fun {v x'} hx' hd => ?_, fun {w'} hw' hssh => ?_⟩
  · -- a record that was deleted before is kept
    have hold : ∀ {x}, t.view.vms v = some x → x.deletedAt ≠ none → x'.status = .deleted := by
      intro x hx hdx
      rw [(ht.kept hb hm hx hdx hx').1]
      exact ht.rows hx hdx
    cases hm.vms_back hx' with
    | same h => exact hold h hd
    | @edit w stage y row target hw hv hrow he _ hx'' =>
      obtain ⟨_, _, row', hrow', hag⟩ := hb.exec hw
      obtain rfl := Option.some.inj (hrow.symm.trans (hv ▸ hrow'))
      subst hx''
      rcases he.deletedAt with h | ⟨_, h⟩
      · exact hold hrow (hag.deletedAt.trans h.symm ▸ hd)
      · exact h
    | fail _ _ hrow _ _ _ hx'' | mark _ _ hrow hx'' | recover hrow _ _ hx'' =>
      exact hold hrow (by rwa [hx''] at hd)
    | create _ _ _ _ hx'' =>
      subst hx''
      exact absurd rfl hd
  · cases hm.exec_back hw' with
    | same hw => exact ht.exec hw hssh
    | enter hw hrow hist hw'' =>
      subst hw''
      obtain ⟨job', hbegin, htype, _⟩ := begins_of_enter hb hw hist
      obtain ⟨_, _, _, row', hrow', hag⟩ := hb.loaded hw
      obtain rfl := Option.some.inj (hrow.symm.trans hrow')
      have hlive := hok _ _ _ hbegin (htype ▸ hssh)
      exact .inl (hag.deletedAt.symm.trans hlive)
    | allocated hw hs _ _ _ _ _ hw'' =>
      subst hw''
      rcases ht.exec hw hssh with h | h
      · exact .inl h
      · rw [hs] at h
        cases h
    | reached hw hs _ _ _ _ _ hw'' =>
      subst hw''
      rcases ht.exec hw hssh with h | h
      · exact .inl h
      · rw [hs] at h
        cases h
    | learn hw _ hl _ _ hw'' =>
      subst hw''
      rcases ht.exec hw hssh with h | h
      · exact .inl h
      · cases hl <;> simp_all
    | edit hw he hw'' =>
      subst hw''
      rcases ht.exec hw hssh with h | h
      · rcases he.deletedAt with hx | ⟨hs, _⟩
        · exact .inl (hx.trans h)
        · exact .inr hs
      · exact .inr (he.of_settled h).1

theorem AReachable.terminal (h : AReachable .spared t) : t.view.Terminal := by
  refine h.invariant (P := View.Terminal) (fun t hi => ?_) fun _ _ _ hb _ ht hm hok => ht.step hb hm hok
  refine ⟨fun {v x} hx => ?_, fun {w} hw => (hi.no_exec hw).elim⟩
  simp [Abs.view, hi.vms] at hx

/-- From a state in which the record is deleted, along any run. -/
theorem AReachable.deleted_path (h : AReachable .spared t) {v : VmId} {x : Core}
    (hx : t.view.vms v = some x) (hd : x.deletedAt ≠ none) (hp : Path AStep Cond.spared.aok t t') :
    (∃ x', t'.view.vms v = some x' ∧ x'.status = .deleted ∧ x'.deletedAt = x.deletedAt) ∧
      ∃ evs, t'.view.hist = evs ++ t.view.hist ∧ ∀ ev ∈ evs, ¬ ev.Revives v := by
  induction hp with
  | refl => exact ⟨⟨x, hx, h.terminal.rows hx hd, rfl⟩, [], rfl, fun ev hev => by cases hev⟩
  | @next t₁ t₂ _ hp hs hok ih =>
    obtain ⟨⟨x₁, hx₁, hst₁, hd₁⟩, evs₁, hist₁, hquiet₁⟩ := ih
    have hreach : AReachable .spared t₁ := Reach.path h hp
    have hb := hreach.base
    have hm := hb.move hs
    obtain ⟨x₂, hx₂⟩ := hm.vms_kept hx₁
    obtain ⟨hst₂, hd₂⟩ := hreach.terminal.kept hb hm hx₁ (hd₁ ▸ hd) hx₂
    obtain ⟨evs₂, hist₂, hquiet₂⟩ := hreach.terminal.quiet hb hm hx₁ (hd₁ ▸ hd)
    refine ⟨⟨x₂, hx₂, hst₂.trans hst₁, hd₂.trans hd₁⟩, evs₂ ++ evs₁, ?_, fun ev hev => ?_⟩
    · rw [hist₂, hist₁, List.append_assoc]
    · rcases List.mem_append.mp hev with hev | hev
      · exact hquiet₂ ev hev
      · exact hquiet₁ ev hev

end Run

/-- Once a record is deleted, it stays deleted, and no request for it makes a guest or boots one. -/
theorem deletion_terminal {s s' : Sys} (h : Reachable .spared s) (hp : Path Step Cond.spared.ok s s')
    {v : VmId} {vm : VM} (hv : s.shared.db.vms.get v = some vm) (hd : vm.deletedAt ≠ none) :
    (∃ vm', s'.shared.db.vms.get v = some vm' ∧ vm'.status = .deleted ∧
      vm'.deletedAt = vm.deletedAt) ∧
      ∃ evs, s'.shared.hist = evs ++ s.shared.hist ∧ ∀ ev ∈ evs, ¬ ev.Revives v := by
  obtain ⟨t, ht, hr⟩ := h.abstract
  obtain ⟨t', hp', hr'⟩ := hr.path hp
  rw [hr.shared] at hv ⊢
  rw [hr'.shared]
  have hx : t.view.vms v = some vm.core := congrArg (Option.map VM.core) hv
  obtain ⟨⟨x', hx', hst, hd'⟩, hevs⟩ := ht.deleted_path hx hd hp'
  obtain ⟨vm', hvm', rfl⟩ := Option.map_eq_some_iff.mp hx'
  exact ⟨⟨vm', hvm', hst, hd'⟩, hevs⟩

def Cond.sparedCheck (s s' : Shared) : Bool :=
  match s'.hist with
  | .enter j (some vm) :: _ => vm.deletedAt.isNone ||
    (s.db.jobs.get j).any fun job => job.type = .sshReadinessCheck
  | _ => true

theorem Cond.sparedCheck_sound {s s' : Sys} {l : Label}
    (h : Cond.sparedCheck s.shared s'.shared = true) : Cond.spared.ok s l s' := by
  rintro j job vm ⟨hev, hrow⟩ hssh
  simpa [sparedCheck, hev, hrow, hssh] using h

open Scenario in
/-- A failed creation and the VM's deletion. -/
def deleted : List Choice := failedCreation ++ delete 1 0 "a" ++ deleteBlank

/-- The panel restarts. -/
def restarted : List Choice := .crash :: Scenario.startup [] 0

/-- The run is evaluated once. -/
theorem restarted_ends : (Scenario.panel.run (fun s _ s' => Cond.sparedCheck s.shared s'.shared)
    deleted).any (fun s =>
      (s.run (fun s _ s' => Cond.sparedCheck s.shared s'.shared) restarted).isSome &&
      (s.shared.db.vms.get 0).any fun vm => vm.deletedAt.isSome) = true := by decide +kernel

theorem deleted_runs : (Scenario.panel.run (fun s _ s' => Cond.sparedCheck s.shared s'.shared)
    deleted).isSome = true := Option.isSome_of_any restarted_ends

theorem restarted_runs : (((Scenario.panel.run (fun s _ s' => Cond.sparedCheck s.shared s'.shared)
    deleted).get deleted_runs).run (fun s _ s' => Cond.sparedCheck s.shared s'.shared)
      restarted).isSome = true :=
  ((Bool.and_eq_true _ _).mp (Option.get_of_any_eq_true _ _ restarted_ends)).1

/-- The record is deleted, and still is after the restart. -/
theorem deletion_terminal_restarted :
    let s := (Scenario.panel.run (fun s _ s' => Cond.sparedCheck s.shared s'.shared) deleted).get
      deleted_runs
    let s' := (s.run (fun s _ s' => Cond.sparedCheck s.shared s'.shared) restarted).get restarted_runs
    ∃ vm, s.shared.db.vms.get 0 = some vm ∧ vm.deletedAt ≠ none ∧
      (∃ vm', s'.shared.db.vms.get 0 = some vm' ∧ vm'.status = .deleted ∧
        vm'.deletedAt = vm.deletedAt) ∧
        ∃ evs, s'.shared.hist = evs ++ s.shared.hist ∧ ∀ ev ∈ evs, ¬ ev.Revives 0 := by
  intro s s'
  have hreach : Reachable .spared s :=
    Scenario.reached (fun _ _ _ h => Cond.sparedCheck_sound h) deleted_runs
  have hpath : Path Step Cond.spared.ok s s' :=
    run_path (fun _ _ _ h => Cond.sparedCheck_sound h) (Option.some_get restarted_runs).symm (.refl s)
  obtain ⟨_, hrow⟩ := (Bool.and_eq_true _ _).mp (Option.get_of_any_eq_true _ _ restarted_ends)
  obtain ⟨vm, hv, hd⟩ := (Option.any_eq_true _ _).mp hrow
  have hd : vm.deletedAt ≠ none := Option.isSome_iff_ne_none.mp hd
  exact ⟨vm, hv, hd, deletion_terminal hreach hpath hv hd⟩

open Scenario in
/-- A failed creation; a deletion and a reinstall of the VM are accepted, and the worker deletes it. -/
def deletedFirst : List Choice :=
  failedCreation ++ delete 1 0 "a" ++ reinstall 2 0 "a" ++ deleteBlank

open Scenario in
/-- Then it takes the reinstall and clones a guest. -/
def revived : List Choice :=
  .get :: worker [.none, .none, .none, .none, .none, .none, .none, .none, listing [], .none, .none,
    answer (.int 100) false, answer (.str "clone") true]

theorem deletion_undone : ¬ ∀ s s', Reachable .any s → Path Step Cond.any.ok s s' →
    ∀ v vm, s.shared.db.vms.get v = some vm → vm.deletedAt ≠ none →
      (∃ vm', s'.shared.db.vms.get v = some vm' ∧ vm'.status = .deleted ∧
        vm'.deletedAt = vm.deletedAt) ∧
        ∃ evs, s'.shared.hist = evs ++ s.shared.hist ∧ ∀ ev ∈ evs, ¬ ev.Revives v := by
  intro h
  have hends : (Scenario.panel.run (fun _ _ _ => true) deletedFirst).any (fun s =>
      (s.shared.db.vms.get 0).any (fun vm => vm.deletedAt.isSome) &&
      (s.run (fun _ _ _ => true) revived).any fun s' =>
        (s'.shared.db.vms.get 0).all fun vm => vm.status = .provisioning) = true := by decide +kernel
  obtain ⟨s, hreach, hends⟩ := Scenario.evaluated_any hends
  obtain ⟨hrow, hends⟩ := (Bool.and_eq_true _ _).mp hends
  obtain ⟨s', hs', hrow'⟩ := (Option.any_eq_true _ _).mp hends
  have hpath : Path Step Cond.any.ok s s' :=
    @run_path _ Cond.any (fun _ _ _ _ => trivial) _ _ _ hs' _ (.refl s)
  obtain ⟨vm, hv, hd⟩ := (Option.any_eq_true _ _).mp hrow
  obtain ⟨⟨vm', hv', hs, _⟩, _⟩ := h _ _ hreach hpath 0 vm hv (Option.isSome_iff_ne_none.mp hd)
  rw [hv', Option.all_some, hs] at hrow'
  cases hrow'

end Clusteration
