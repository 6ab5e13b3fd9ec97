import Clusteration.Properties.Ownership

namespace Clusteration

/-- The record is live, running and ready: `open_terminal` may be called with its address. -/
structure Core.Exposed (x : Core) : Prop where
  live : x.deletedAt = none
  running : x.status = .running
  ready : x.ssh = .ready

theorem powerOp_ne_running {type : JobType} {op : PowerOp} (h : powerOp type = some op) :
    op.transient ≠ .running := by
  cases type <;> cases h <;> simp

/-- A record is exposed after an edit if it was before, if its check has just succeeded, or if a
reboot has kept the SSH status it found. -/
theorem Edit.exposed {w : Exec} {stage : Stage} {x row : Core} {target : Option Int}
    (h : Edit w stage x target) (hw : w.Ok) (hag : w.x.Agrees row)
    (he : (Core.written w.x x row).Exposed) : Core.written w.x x row = row ∨
      (w.stage = .reached ∧ x = { w.x with ssh := .ready }) ∨
      ∃ ip, w.stage = .heard ip ∧ w.type = .rebootVm ∧ row.ssh = .ready ∧
        x = { w.x with status := .running, ip := some ip } := by
  have hlive : x.deletedAt = none := he.live
  have hrunning : x.status = .running := he.running
  have hready : x.ssh = .ready := by
    have hx := he.ready
    rcases (hag.written x).ssh with h | h
    · exact h.symm.trans hx
    · rw [h] at hx
      cases hx
  cases h with
  | metadata | target _ | targetLost _ | ready _ => exact .inl (Core.written_self _ _ hag)
  | power _ hop _ => exact absurd hrunning (powerOp_ne_running hop)
  | @addressed op ip hs hop =>
    simp only [Exec.Ok, hs] at hw
    cases ht : w.type with
    | startVm =>
      rw [hw.2.2 ht] at hready
      cases hready
    | rebootVm =>
      rw [ht] at hop
      cases hop
      have hrow : row.ssh = .ready := by
        have hx := he.ready
        simpa [Core.written] using hx
      exact .inr (.inr ⟨ip, hs, rfl, hrow, rfl⟩)
    | stopVm =>
      rw [ht] at hop
      cases hop
      cases hrunning
    | createVm | reinstallVm | deleteVm | sshReadinessCheck =>
      rw [ht] at hop
      cases hop
  | stopped hs hop ht =>
    rw [ht] at hop
    cases hop
    cases hrunning
  | unheard _ _ | prepare _ | noAddress _ | sshFailed _ _ => cases hready
  | delete _ _ | wipe _ _ | deleted _ _ _ | cleared _ _ | adopt _ => cases hrunning
  | booted hs | address hs =>
    simp only [Exec.Ok, hs] at hw
    rw [hw.2.2.2.1] at hready
    cases hready
  | sshReady hs => exact .inr (.inl ⟨hs, rfl⟩)

theorem Core.Backed.agrees {x row : Core} (h : x.Backed) (hag : x.Agrees row) : row.Backed := by
  refine ⟨?_, ?_, fun hr => ?_⟩
  · rw [hag.status, hag.vmid]
    exact h.status
  · rw [hag.ip, hag.vmid]
    exact h.ip
  · rw [hag.vmid]
    rcases hag.ssh with hs | hs
    · exact h.ssh (hs.symm.trans hr)
    · rw [hs] at hr
      cases hr

theorem Core.Backed.recovered {x : Core} (h : x.Backed) (adopted : Option Int) :
    (Core.recovered adopted x).Backed := by
  have hn : x.vmid.isSome = true → (x.vmid <|> adopted).isSome = true := by
    intro hn
    obtain ⟨n, hn⟩ := Option.isSome_iff_exists.mp hn
    simp [hn]
  refine ⟨fun hs => hn (h.status ?_), fun hi => hn (h.ip hi), fun hs => hn (h.ssh hs)⟩
  simp only [Core.recovered] at hs
  split at hs
  · cases hs
  · exact hs

/-- Every record is backed, and every copy of one the worker has. -/
structure View.Backed (m : View) : Prop where
  rows : ∀ {v x}, m.vms v = some x → x.Backed
  loaded : ∀ {p job v vm}, m.worker = .loaded p job v vm → vm.core.Backed
  work : ∀ {w}, m.worker = .exec w → w.x.Backed

section Step
variable {m m' : View} {l : Label}

theorem View.Backed.step (hk : m.Backed) (hb : Base m) (hm : Move m l m') : m'.Backed := by
  have hrows : ∀ {v x'}, m'.vms v = some x' → x'.Backed := by
    intro v x' hx'
    cases hm.vms_back hx' with
    | same h => exact hk.rows h
    | @edit w stage y row target hw hv hrow he _ hx'' =>
      obtain ⟨hok, _, row', hrow', hag⟩ := hb.exec hw
      obtain rfl := Option.some.inj (hrow.symm.trans (hv ▸ hrow'))
      subst hx''
      exact (Core.Backed.edit he hok (hk.work hw)).agrees (hag.written y)
    | @fail _ row _ _ hrow _ _ _ hx'' =>
      subst hx''
      exact ⟨fun h => (by cases h), (hk.rows hrow).ip, (hk.rows hrow).ssh⟩
    | @mark _ vm row _ _ hrow hx'' =>
      subst hx''
      refine ⟨(hk.rows hrow).status, (hk.rows hrow).ip, fun h => ?_⟩
      dsimp only at h
      split at h
      · exact (hk.rows hrow).ssh h
      · cases h
    | recover hrow _ _ hx'' =>
      subst hx''
      exact (hk.rows hrow).recovered _
    | create _ _ _ _ hx'' =>
      subst hx''
      exact ⟨fun h => (by cases h), fun h => (by cases h), fun h => (by cases h)⟩
  refine ⟨hrows, fun {p job v vm} hw' => ?_, fun {w'} hw' => ?_⟩
  · rcases hm.loaded_back hw' with hw | hx
    · exact hk.loaded hw
    · exact hrows hx
  · cases hm.exec_back hw' with
    | same hw => exact hk.work hw
    | enter hw _ _ h =>
      subst h
      exact hk.loaded hw
    | allocated hw _ _ _ _ _ _ h | reached hw _ _ _ _ _ _ h | learn hw _ _ _ _ h =>
      have hx := hk.work hw
      subst h
      exact hx
    | edit hw he h =>
      subst h
      exact Core.Backed.edit he (hb.exec hw).ok (hk.work hw)

theorem View.Backed.init {t : Abs} (hi : AInitial t) : t.view.Backed := by
  refine ⟨fun {v x} hx => ?_, fun {p job v vm} hw => ?_, fun {w} hw => (hi.no_exec hw).elim⟩
  · simp [Abs.view, hi.vms] at hx
  · have hover : t.view.worker = .over := hi.worker
    rw [hover] at hw
    cases hw

theorem AReachable.backed {cond : Cond} {t : Abs} (h : AReachable cond t) : t.view.Backed := by
  apply h.invariant
  · intro t hi
    exact View.Backed.init hi
  · intro t l t' hb _ hk hm _
    exact hk.step hb hm

/-- How a record that is exposed after a step came to be so. -/
inductive ExposedOrigin (m : View) (v : VmId) (x' : Core) : Prop
  | same {x : Core} : m.vms v = some x → x.Exposed → x'.vmid = x.vmid → x'.ip = x.ip →
      ExposedOrigin m v x'
  /-- its check has succeeded -/
  | checked {w : Exec} : m.worker = .exec w → w.v = v → w.stage = .reached → w.x.deletedAt = none →
      w.x.status = .running → x'.vmid = w.x.vmid → x'.ip = w.x.ip → ExposedOrigin m v x'
  /-- a reboot has kept the SSH status it found -/
  | rebooted {w : Exec} {row : Core} {ip : String} : m.worker = .exec w → w.v = v →
      w.stage = .heard ip → w.type = .rebootVm → m.vms v = some row → row.deletedAt = none →
      row.ssh = .ready → row.vmid = w.x.vmid → x'.vmid = w.x.vmid → x'.ip = some ip →
      ExposedOrigin m v x'

theorem Move.exposed_back (hm : Move m l m') (hb : Base m) (hk : m.Backed) {v : VmId} {x' : Core}
    (hx' : m'.vms v = some x') (he : x'.Exposed) : ExposedOrigin m v x' := by
  cases hm.vms_back hx' with
  | same h => exact .same h he rfl rfl
  | @edit w stage y row target hw hwv hrow hedit _ hx'' =>
    obtain ⟨hok, _, row', hrow', hag⟩ := hb.exec hw
    obtain rfl := Option.some.inj (hrow.symm.trans (hwv ▸ hrow'))
    subst hx''
    rcases hedit.exposed hok hag he with heq | ⟨hs, hy⟩ | ⟨ip, hs, ht, hready, hy⟩
    · rw [heq] at he ⊢
      exact .same hrow he rfl rfl
    · have hlive : w.x.deletedAt = none := (congrArg Core.deletedAt hy).symm.trans he.live
      have hrunning : w.x.status = .running := (congrArg Core.status hy).symm.trans he.running
      subst hy
      exact .checked hw hwv hs hlive hrunning rfl rfl
    · have hlive : row.deletedAt = none :=
        (hag.deletedAt.trans (congrArg Core.deletedAt hy).symm).trans he.live
      subst hy
      exact .rebooted hw hwv hs ht hrow hlive hready hag.vmid rfl rfl
  | fail _ _ _ _ _ _ hx'' =>
    rw [hx''] at he
    cases he.running
  | @mark _ vm row _ _ hrow hx'' =>
    subst hx''
    have hready := he.ready
    dsimp only at hready
    split at hready
    · exact .same hrow ⟨he.live, he.running, hready⟩ rfl rfl
    · cases hready
  | @recover adopted row hrow _ _ hx'' =>
    subst hx''
    have hrunning := he.running
    simp only [Core.recovered] at hrunning
    split at hrunning
    · cases hrunning
    · obtain ⟨n, hn⟩ := Option.isSome_iff_exists.mp
        ((hk.rows hrow).status (by rw [hrunning]; rfl))
      refine .same hrow ⟨he.live, hrunning, he.ready⟩ ?_ rfl
      simp [Core.recovered, hn]
  | create _ _ _ _ hx'' =>
    rw [hx''] at he
    cases he.running

/-- Only a job that provisions a live running record sends state-changing requests to its guest. -/
theorem Sent.provisions {w : Exec} {req : Req} {i : HttpIn} (h : Sent m l m' w req i) (ho : m.Owned)
    (hb : Base m) (hget : req.isGet = false) {n : Int} {g : Guest} (ht : req.target = some n)
    (hg : m.pve.find n = some g) {v : VmId} {x : Core} (hx : m.vms v = some x)
    (hn : x.vmid = some n) (hd : x.deletedAt = none) (hr : x.status = .running) :
    w.v = v ∧ w.type.provisions = true ∧ w.x.ssh = .pending := by
  obtain ⟨hok, _, row, hrow, hag⟩ := hb.exec h.work
  obtain ⟨hwn, hssh⟩ := h.target hok hget ht
  -- the guest was cloned for both records, so they are one
  have hv : g.origin.map Caller.vm = some v := by
    by_contra hne
    exact ho.own (.record hx hd hn) ⟨g, hg, hne⟩
  have hw : g.origin.map Caller.vm = some w.v := by
    by_contra hne
    exact ho.work h.work hssh hwn ⟨g, hg, hne⟩
  obtain rfl : w.v = v := Option.some.inj (hw.symm.trans hv)
  obtain rfl := Option.some.inj (hx.symm.trans hrow)
  have hst : w.x.status = .running := hag.status.symm.trans hr
  cases h.calls hget with
  | power _ hs hop _ =>
    simp only [Exec.Ok, hs] at hok
    obtain ⟨⟨op, hop, hst'⟩, _⟩ := hok
    exact absurd (hst'.symm.trans hst) (powerOp_ne_running hop)
  | stop _ hs _ | destroy _ hs _ | config _ _ hs | resize _ _ _ hs | start _ hs =>
    simp only [Exec.Ok, hs, hst] at hok
    cases hok.2.1
  | clone _ _ _ _ => cases ht
  | exec _ _ hs | reboot _ hs =>
    simp only [Exec.Ok, hs] at hok
    exact ⟨rfl, hok.1, hok.2.2.2.1⟩

/-- No job sends a state-changing request to the guest of an exposed record. -/
theorem Sent.not_exposed {w : Exec} {req : Req} {i : HttpIn} (h : Sent m l m' w req i) (ho : m.Owned)
    (hb : Base m) (hget : req.isGet = false) {n : Int} {g : Guest} (ht : req.target = some n)
    (hg : m.pve.find n = some g) {v : VmId} {x : Core} (hx : m.vms v = some x)
    (hn : x.vmid = some n) : ¬ x.Exposed := by
  rintro ⟨hd, hr, hready⟩
  obtain ⟨rfl, _, hpending⟩ := h.provisions ho hb hget ht hg hx hn hd hr
  obtain ⟨_, _, row, hrow, hag⟩ := hb.exec h.work
  obtain rfl := Option.some.inj (hx.symm.trans hrow)
  rcases hag.ssh with hs | hs
  · rw [hs, hpending] at hready
    cases hready
  · rw [hs] at hready
    cases hready

end Step

end Clusteration
