import Clusteration.Properties.Exposure

open Transition

namespace Clusteration

def PowerAction.boots : PowerAction → Bool
  | start | reboot => true
  | shutdown | stop => false

/-- The jobs that start, stop or boot the guest of their record. -/
def JobType.powers : JobType → Bool
  | createVm | reinstallVm | startVm | stopVm | rebootVm => true
  | _ => false

/-- What a record in this status waits for: its guest running, or stopped. -/
def VMStatus.awaited : VMStatus → Option Bool
  | starting | rebooting | provisioning => some true
  | stopping => some false
  | _ => none

/-- The status of a record whose guest runs, or does not. -/
def VMStatus.ofPower (running : Bool) : VMStatus := if running then .running else .stopped

/-- The guest of the VMID exists, and runs or not. -/
def Powered (c : Cluster) (vmid : Option Int) (running : Bool) : Prop :=
  ∃ n g, vmid = some n ∧ c.find n = some g ∧ g.running = running

/-- A task is not reported as ended without an exit status while the guest of the record that waits
for it is in the other power state, and a reboot for a running record leaves its guest running. -/
structure Upheld (s : Shared) (l : Label) (s' : Shared) : Prop where
  ended : ∀ c node u out, l = .await .worker (.http (some c) (.taskStatus node u)) out →
    exitOf out = some "" → ∀ vm running, s.db.vms.get c.vm = some vm →
      vm.status.awaited = some running → vm.proxmoxVmid.isSome = true →
        Powered s.pve vm.proxmoxVmid running
  rebooted : ∀ c node n out, l = .await .worker (.http (some c) (.power node n .reboot)) out →
    ∀ vm, s.db.vms.get c.vm = some vm → vm.status = .running → ∀ g, s'.pve.find n = some g →
      g.running = true

def Cond.upheld : Cond := Upheld

/-- In this step the job ends well, and its record is `v`. -/
structure Succeeds (s s' : Shared) (j : JobId) (v : VmId) : Prop where
  step : ∃ job job', s.db.jobs.get j = some job ∧ job.status ≠ .success ∧
    s'.db.jobs.get j = some job' ∧ job'.status = .success ∧ job'.type.powers = true ∧
      job'.vmId = some v

/-- The record tells the power state of its guest. -/
def Shared.Truthful (s : Shared) (v : VmId) : Prop :=
  ∃ vm running, s.db.vms.get v = some vm ∧ Powered s.pve vm.proxmoxVmid running ∧
    vm.status = .ofPower running

/-- The task it waits for, and the power state the task is to bring about. -/
def Exec.waiting (w : Exec) : Option (String × Bool) :=
  match w.stage with
  | .powering u => (powerOp w.type).map fun op => (u, op.action.boots)
  | .starting _ u => some (u, true)
  | _ => none

/-- The power state it takes its guest to be in. -/
def Exec.taken (w : Exec) : Option Bool :=
  match w.stage with
  | .powered | .heard _ => (powerOp w.type).map fun op => op.action.boots
  | .started _ | .up _ | .named _ _ => some true
  | _ => none

structure Exec.Sure (w : Exec) (pve : Cluster) : Prop where
  waiting : ∀ {u running}, w.waiting = some (u, running) → pve.tasks.lookup u = some true →
    Powered pve w.x.vmid running
  taken : ∀ {running}, w.taken = some running → Powered pve w.x.vmid running
  settled : w.stage = .settled → w.type.powers = true →
    ∃ running, Powered pve w.x.vmid running ∧ w.x.status = .ofPower running

def View.Sure (m : View) : Prop := ∀ {w}, m.worker = .exec w → w.Sure m.pve

theorem Exec.Sure.of_stage {w : Exec} {pve : Cluster} (hw : w.waiting = none) (ht : w.taken = none)
    (hs : w.stage ≠ .settled) : w.Sure pve := by
  refine ⟨fun h => ?_, fun h => ?_, fun h => absurd h hs⟩
  · rw [hw] at h
    cases h
  · rw [ht] at h
    cases h

theorem Exec.Sure.of_taken {w : Exec} {pve : Cluster} {running : Bool} (hw : w.waiting = none)
    (ht : w.taken = some running) (hs : w.stage ≠ .settled) (hp : Powered pve w.x.vmid running) :
    w.Sure pve := by
  refine ⟨fun h => ?_, fun h => ?_, fun h => absurd h hs⟩
  · rw [hw] at h
    cases h
  · rw [ht] at h
    cases h
    exact hp

theorem Exec.Sure.of_settled {w : Exec} {pve : Cluster} (hs : w.stage = .settled)
    (h : w.type.powers = true → ∃ running, Powered pve w.x.vmid running ∧
      w.x.status = .ofPower running) : w.Sure pve := by
  refine ⟨fun hw => ?_, fun ht => ?_, fun _ => h⟩
  · simp only [Exec.waiting, hs] at hw
    cases hw
  · simp only [Exec.taken, hs] at ht
    cases ht

theorem powerOp_power {type : JobType} {op : PowerOp} (h : powerOp type = some op) :
    type.powers = true ∧ op.transient.awaited = some op.action.boots ∧
      op.final = .ofPower op.action.boots := by
  cases type <;> cases h <;> exact ⟨rfl, rfl, rfl⟩

section Serve
variable {c c' : Cluster} {caller : Option Caller} {req : Req} {i : HttpIn} {n : Int}

/-- A power request that is carried out leaves its guest in its target state. -/
theorem serve_power {node : String} {action : PowerAction}
    (h : c.serve caller (.power node n action) i = some c') (hi : i.applied = true) :
    Powered c' (some n) action.boots := by
  have heffect : i.effect (.power node n action) = some (.power node n action) := if_pos hi
  have hboots : i.boots (.power node n action) = action.boots := by
    rw [HttpIn.boots, heffect, Option.any_some]
    cases action <;> rfl
  cases serve_served h with
  | kept hk _ _ =>
    rcases hk with hk | hk
    · rw [heffect] at hk
      cases hk
    · cases hk
  | booted hb ht _ _ hf =>
    cases ht
    exact ⟨n, _, rfl, by rw [hf, Function.update_self], hb.symm.trans hboots⟩
  | halted hreq hb _ _ hf =>
    cases hreq
    exact ⟨n, _, rfl, by rw [hf, Function.update_self], hb.symm.trans hboots⟩
  | cloned hreq _ _ _ _ | renewed hreq _ _ _ _ | removed hreq _ _ _ _ => cases hreq

/-- A command in a guest leaves its power state alone. -/
theorem serve_exec {node script : String} {running : Bool}
    (h : c.serve caller (.exec node n script) i = some c') (hp : Powered c (some n) running) :
    Powered c' (some n) running := by
  obtain ⟨_, g, hn, hg, hrun⟩ := hp
  cases hn
  cases serve_served h with
  | kept _ _ hf => exact ⟨n, g, rfl, hf ▸ hg, hrun⟩
  | renewed hreq _ hg' _ hf =>
    cases hreq
    obtain rfl := Option.some.inj (hg.symm.trans hg')
    exact ⟨n, { g with machineId := .fresh c.drawn }, rfl, by rw [hf, Function.update_self], hrun⟩
  | booted hb _ _ _ _ =>
    obtain ⟨effect, he, hboots⟩ := (Option.any_eq_true _ _).mp hb
    rcases HttpIn.effect_cases he with ⟨_, rfl⟩ | ⟨_, _, _, _, hreq, _⟩
    · cases hboots
    · cases hreq
  | cloned hreq _ _ _ _ | halted hreq _ _ _ _ | removed hreq _ _ _ _ => cases hreq

/-- A power request, carried out or not, leaves its guest where it is. -/
theorem serve_power_exists {node : String} {action : PowerAction}
    (h : c.serve caller (.power node n action) i = some c') (hg : (c.find n).isSome = true) :
    (c'.find n).isSome = true := by
  cases serve_served h with
  | kept _ _ hf => rwa [hf]
  | booted _ ht _ _ hf =>
    cases ht
    rw [hf, Function.update_self]
    rfl
  | halted hreq _ _ _ hf =>
    cases hreq
    rw [hf, Function.update_self]
    rfl
  | cloned hreq _ _ _ _ | renewed hreq _ _ _ _ | removed hreq _ _ _ _ => cases hreq

end Serve

/-- What the job knows of its guest is still so after an edit. -/
theorem Edit.sure {w : Exec} {stage : Stage} {x : Core} {target : Option Int} {pve : Cluster}
    (h : Edit w stage x target) (hok : w.Ok) (hw : w.Sure pve) :
    Exec.Sure { w with stage, x, target } pve := by
  have hop : ∀ {op}, powerOp w.type = some op → w.stage = .powered ∨ (∃ ip, w.stage = .heard ip) →
      ∃ running, Powered pve w.x.vmid running ∧ op.final = .ofPower running := by
    intro op hop hs
    refine ⟨op.action.boots, hw.taken ?_, (powerOp_power hop).2.2⟩
    rcases hs with hs | ⟨ip, hs⟩ <;> simp only [Exec.taken, hs, hop] <;> rfl
  have hup : ∀ {n}, w.stage = .up n → Powered pve w.x.vmid true ∧ w.x.status = .running := by
    intro n hs
    simp only [Exec.Ok, hs] at hok
    exact ⟨hw.taken (by simp only [Exec.taken, hs]), hok.2.1⟩
  cases h with
  | metadata => exact ⟨hw.waiting, hw.taken, hw.settled⟩
  | stopped hs hpower _ | unheard hs hpower => exact .of_settled rfl fun _ => hop hpower (.inl hs)
  | addressed hs hpower => exact .of_settled rfl fun _ => hop hpower (.inr ⟨_, hs⟩)
  | deleted _ _ ht =>
    refine .of_settled rfl fun hp => ?_
    dsimp only at hp
    rw [ht] at hp
    cases hp
  | booted hs => exact .of_taken rfl rfl (by simp) (hw.taken (by simp only [Exec.taken, hs]))
  | address hs => exact .of_taken rfl rfl (by simp) (hw.taken (by simp only [Exec.taken, hs]))
  | noAddress hs | ready hs => exact .of_settled rfl fun _ => ⟨true, hup hs⟩
  | sshReady hs =>
    simp only [Exec.Ok, hs] at hok
    refine .of_settled rfl fun hp => ?_
    dsimp only at hp
    rw [hok.1] at hp
    cases hp
  | sshFailed _ ht =>
    refine .of_settled rfl fun hp => ?_
    dsimp only at hp
    rw [ht] at hp
    cases hp
  | _ => exact .of_stage rfl rfl (by simp)

section Step
variable {t t' : Abs} {l : Label}

theorem Exec.Sure.learn {w : Exec} {req : Req} {i : HttpIn} {stage : Stage} {pve : Cluster}
    (hl : Learns w (.http (some w.caller) req) i.out stage) (hb : Base t.view)
    (hw : t.view.worker = .exec w) (hsure : w.Sure t.view.pve)
    (hserve : t.view.pve.serve (some w.caller) req i = some pve)
    (hok : Upheld t.shared (.await .worker (.http (some w.caller) req) i.out) t'.shared) :
    Exec.Sure { w with stage } pve := by
  obtain ⟨hwok, _, row, hrow, hag⟩ := hb.exec hw
  obtain ⟨vm, hvm, rfl⟩ := Option.map_eq_some_iff.mp hrow
  -- a task that has ended, and what it was to bring about
  have hended : ∀ {node u running}, req = .taskStatus node u → w.waiting = some (u, running) →
      w.x.status.awaited = some running → w.x.vmid.isSome = true →
        exitOf i.out = some "" ∨ exitOf i.out = some "OK" → Powered pve w.x.vmid running := by
    intro node u running hreq hwait hst hvmid hexit
    subst hreq
    obtain ⟨rfl, hhonest⟩ := serve_get rfl hserve
    rcases hexit with hexit | hexit
    · have hst' : vm.status = w.x.status := hag.status
      have hvmid' : vm.proxmoxVmid = w.x.vmid := hag.vmid
      have hp := hok.ended _ node u _ rfl hexit vm running hvm (by rw [hst', hst]) (by rwa [hvmid'])
      rwa [hvmid'] at hp
    · have htask : t.view.pve.tasks.lookup u = some true := by
        simpa [Cluster.honest, hexit] using hhonest
      exact hsure.waiting hwait htask
  cases hl with
  | nextId _ _ | missing _ _ _ | accepted _ _ _ _ | destroyed _ _ _ | unaccepted _ _ _ _ _
  | broken _ _ _ _ => exact .of_stage rfl rfl (by simp)
  | @powering op _ n u node hs hop hn hu =>
    refine ⟨fun hwait htask => ?_, fun h => ?_, fun h => by cases h⟩
    · simp only [Exec.waiting, hop, Option.map_some, Option.some.injEq, Prod.mk.injEq] at hwait
      obtain ⟨rfl, rfl⟩ := hwait
      rw [serve_upid hserve rfl hu] at htask
      have happ : i.applied = true := by simpa using htask
      have hp := serve_power hserve happ
      rwa [← hn] at hp
    · simp only [Exec.taken] at h
      cases h
  | @powered _ u node hs hexit =>
    simp only [Exec.Ok, hs] at hwok
    obtain ⟨⟨op, hop, hst⟩, hvmid, _⟩ := hwok
    have hp := hended rfl (by simp only [Exec.waiting, hs, hop]; rfl)
      (by rw [hst, (powerOp_power hop).2.1]) hvmid hexit
    exact .of_taken rfl (by simp only [Exec.taken, hop]; rfl) (by simp) hp
  | @heard _ n ip node hs hboots hn hip =>
    obtain ⟨rfl, _⟩ := serve_get rfl hserve
    refine ⟨fun h => ?_, fun h => ?_, fun h => by cases h⟩
    · simp only [Exec.waiting] at h
      cases h
    · exact hsure.taken (by simpa only [Exec.taken, hs] using h)
  | @starting _ n u node hs hu =>
    refine ⟨fun hwait htask => ?_, fun h => ?_, fun h => by cases h⟩
    · simp only [Exec.waiting, Option.some.injEq, Prod.mk.injEq] at hwait
      obtain ⟨rfl, rfl⟩ := hwait
      rw [serve_upid hserve rfl hu] at htask
      have happ : i.applied = true := by simpa using htask
      simp only [Exec.Ok, hs] at hwok
      have hp := serve_power hserve happ
      rwa [← hwok.2.2.1] at hp
    · simp only [Exec.taken] at h
      cases h
  | @started _ n u node hs hexit =>
    simp only [Exec.Ok, hs] at hwok
    have hwait : w.waiting = some (u, true) := by simp only [Exec.waiting, hs]
    have hp := hended rfl hwait (by rw [hwok.2.1]; rfl) (by rw [hwok.2.2.1]; rfl) hexit
    exact .of_taken rfl rfl (by simp) hp
  | @named _ n ip node hs _ =>
    obtain ⟨rfl, _⟩ := serve_get rfl hserve
    exact .of_taken rfl rfl (by simp) (hsure.taken (by simp only [Exec.taken, hs]))

/-- What the job knows of its guest is still so after a request that leaves it where it is. -/
theorem Exec.Sure.call {w : Exec} {req : Req} {i : HttpIn} {pve : Cluster} (hc : Calls w req)
    (hb : Base t.view) (hw : t.view.worker = .exec w) (hsure : w.Sure t.view.pve)
    (hserve : t.view.pve.serve (some w.caller) req i = some pve) (hpve : t'.view.pve = pve)
    (hok : Upheld t.shared (.await .worker (.http (some w.caller) req) i.out) t'.shared) :
    w.Sure pve := by
  obtain ⟨hwok, _, row, hrow, hag⟩ := hb.exec hw
  obtain ⟨vm, hvm, rfl⟩ := Option.map_eq_some_iff.mp hrow
  have hstill : ∀ {s}, w.stage = s → (∀ n, s ≠ .up n) → Exec.waiting { w with stage := s } = none →
      Exec.taken { w with stage := s } = none → s ≠ .settled → w.Sure pve := by
    rintro s rfl _ h₁ h₂ h₃
    exact .of_stage h₁ h₂ h₃
  cases hc with
  | power _ hs _ _ | stop _ hs _ | destroy _ hs _ | clone _ _ _ hs | config _ _ hs | resize _ _ _ hs
  | start _ hs => exact hstill hs (by simp) rfl rfl (by simp)
  | @exec n node script hs =>
    have hn : w.x.vmid = some n := by
      simp only [Exec.Ok, hs] at hwok
      exact hwok.2.2.1
    have hp := hsure.taken (show w.taken = some true by simp only [Exec.taken, hs])
    rw [hn] at hp
    have hp' := serve_exec hserve hp
    rw [← hn] at hp'
    exact .of_taken (by simp only [Exec.waiting, hs]) (by simp only [Exec.taken, hs]) (by simp [hs]) hp'
  | @reboot n node hs =>
    simp only [Exec.Ok, hs] at hwok
    have hn : w.x.vmid = some n := hwok.2.2.1
    obtain ⟨n', g, hn', hg, _⟩ := hsure.taken (show w.taken = some true by simp only [Exec.taken, hs])
    obtain rfl := Option.some.inj (hn.symm.trans hn')
    obtain ⟨g', hg'⟩ := Option.isSome_iff_exists.mp (serve_power_exists hserve (by rw [hg]; rfl))
    have hst : vm.status = .running := hag.status.trans hwok.2.1
    have hrun : g'.running = true := by
      subst hpve
      exact hok.rebooted _ node n _ rfl vm hvm hst g' hg'
    exact .of_taken (by simp only [Exec.waiting, hs]) (by simp only [Exec.taken, hs]) (by simp [hs])
      ⟨n, g', hn, hg', hrun⟩

theorem View.Sure.step (ht : t.view.Sure) (hb : Base t.view) (hm : Move t.view l t'.view)
    (hok : Upheld t.shared l t'.shared) : t'.view.Sure := by
  generalize hm' : t'.view = m' at hm ⊢
  intro w' hw'
  cases hm with
  | observe _ _ => exact ht hw'
  | enter _ _ _ =>
    cases hw'
    exact .of_stage rfl rfl (by simp [Exec.begin])
  | http _ hw hcall hserve =>
    cases hw'
    rcases hcall with ⟨hc, rfl⟩ | hl
    · exact .call hc hb hw (ht hw) hserve (congrArg View.pve hm') hok
    · exact .learn hl hb hw (ht hw) hserve hok
  | ssh _ _ _ _ _ =>
    cases hw'
    exact .of_stage rfl rfl (by simp)
  | clock _ _ hlearn =>
    cases hw'
    rcases hlearn.clock_cases with ⟨_, _, rfl⟩ | ⟨_, _, _, rfl, _⟩ <;> exact .of_stage rfl rfl (by simp)
  | edit _ hw _ he =>
    cases hw'
    exact he.sure (hb.exec hw).ok (ht hw)
  | finish _ _ _ =>
    dsimp only at hw'
    split at hw' <;> cases hw'
  | crash _ | restart _ _ | get _ _ _ | job _ _ _ | vm _ _ _ _ | fail _ _ _ _ _ | follow _ _ _
  | followPut _ _ => cases hw'
  | _ => exact ht hw'

end Step

section Step
variable {m m' : View} {l : Label}

/-- Only the last commit of a job makes it a success. -/
theorem Move.succeeded (hm : Move m l m') {j : JobId} {c c' : JobCore}
    (hc : m.jobs j = some c) (hne : c.status ≠ .success) (hc' : m'.jobs j = some c')
    (hs : c'.status = .success) : ∃ w, m.worker = .exec w ∧ w.stage = .settled ∧
      c' = ⟨w.type, .success, some w.v, w.target⟩ ∧ m'.vms = m.vms ∧ m'.pve = m.pve := by
  have hkept : m.jobs j = some c' → False := by
    intro h
    rw [hc] at h
    cases h
    exact hne hs
  have hupdate : ∀ {i : JobId} {c₀ : JobCore}, Function.update m.jobs i (some c₀) j = some c' →
      c₀.status = .success := by
    intro i c₀ h
    rw [Function.update_apply] at h
    split at h
    · cases h
      exact hs
    · exact (hkept h).elim
  cases hm with
  | @finish w _ _ hw hst =>
    dsimp only at hc'
    rw [Function.update_apply] at hc'
    split at hc'
    · cases hc'
      exact ⟨w, hw, hst, rfl, rfl, rfl⟩
    · exact (hkept hc').elim
  | enter _ _ _ | edit _ _ _ _ | fail _ _ _ _ _ | follow _ _ _ | create _ _ _ _ _ _ _ =>
    have hst := hupdate hc'
    cases hst
  | insert _ _ _ _ hcore _ _ _ =>
    have hst := hupdate hc'
    rw [hcore] at hst
    cases hst
  | recover _ _ _ _ =>
    dsimp only at hc'
    rw [hc, Option.map_some, Option.some.injEq] at hc'
    subst hc'
    unfold JobCore.interrupted at hs
    split at hs
    · cases hs
    · exact absurd hs hne
  | abandon _ _ =>
    dsimp only at hc'
    split at hc'
    · rw [hc, Option.map_some, Option.some.injEq] at hc'
      subst hc'
      cases hs
    · exact (hkept hc').elim
  | _ => exact (hkept hc').elim

end Step

theorem AReachable.sure {t : Abs} (h : AReachable .upheld t) : t.view.Sure := by
  refine AReachable.invariant (P := fun m => m.Sure) (fun t hi {w} hw => absurd hw hi.no_exec) ?_ h
  exact fun t l t' hb _ hs hm hok => hs.step hb hm hok

/-- Where a job that powers its guest ends well, its record tells the guest's power state. -/
theorem success_truthful {s s' : Sys} {l : Label} (h : Reachable .upheld s) (hs : Step s l s')
    {j : JobId} {v : VmId} (hj : Succeeds s.shared s'.shared j v) : s'.shared.Truthful v := by
  obtain ⟨t, ht, hr⟩ := h.abstract
  obtain ⟨t', hs', hr'⟩ := hr.step hs
  rw [hr.shared, hr'.shared] at hj
  rw [hr'.shared]
  have hb := ht.base
  obtain ⟨job, job', hjob, hne, hjob', hst, hp, hv⟩ := hj.step
  obtain ⟨w, hw, hstage, hcore, hvms, hpve⟩ := (hb.move hs').succeeded
    (congrArg (Option.map Job.core) hjob) hne (congrArg (Option.map Job.core) hjob') hst
  have htype : job'.type = w.type := congrArg JobCore.type hcore
  have hvm' : some v = some w.v := hv.symm.trans (congrArg JobCore.vmId hcore)
  obtain rfl := Option.some.inj hvm'
  obtain ⟨running, hpow, hstatus⟩ := (ht.sure hw).settled hstage (by rwa [← htype])
  obtain ⟨_, _, row, hrow, hag⟩ := hb.exec hw
  rw [← hvms] at hrow
  obtain ⟨vm, hvm, rfl⟩ := Option.map_eq_some_iff.mp hrow
  have hn : vm.proxmoxVmid = w.x.vmid := hag.vmid
  have hpve' : t'.shared.pve = t.shared.pve := hpve
  refine ⟨vm, running, hvm, ?_, hag.status.trans hstatus⟩
  rw [hn, hpve']
  exact hpow

def poweredCheck (c : Cluster) (vmid : Option Int) (running : Bool) : Bool :=
  vmid.any fun n => (c.find n).any fun g => g.running = running

theorem poweredCheck_iff {c : Cluster} {vmid : Option Int} {running : Bool} :
    poweredCheck c vmid running = true ↔ Powered c vmid running := by
  simp only [poweredCheck, Option.any_eq_true, decide_eq_true_eq, Powered]
  constructor
  · rintro ⟨n, hn, g, hg, hrun⟩
    exact ⟨n, g, hn, hg, hrun⟩
  · rintro ⟨n, g, hn, hg, hrun⟩
    exact ⟨n, hn, g, hg, hrun⟩

def Cond.upheldCheck (s : Shared) (l : Label) (s' : Shared) : Bool :=
  match l with
  | .await .worker (.http (some c) (.taskStatus _ _)) out =>
    exitOf out ≠ some "" || (s.db.vms.get c.vm).all fun vm => vm.status.awaited.all fun running =>
      vm.proxmoxVmid.isNone || poweredCheck s.pve vm.proxmoxVmid running
  | .await .worker (.http (some c) (.power _ n .reboot)) _ =>
    (s.db.vms.get c.vm).all fun vm => vm.status ≠ .running || (s'.pve.find n).all Guest.running
  | _ => true

theorem Cond.upheldCheck_sound {s s' : Sys} {l : Label}
    (h : Cond.upheldCheck s.shared l s'.shared = true) : Cond.upheld.ok s l s' := by
  refine ⟨?_, ?_⟩
  · rintro c node u out rfl hexit vm running hvm hst hn
    have hsome : vm.proxmoxVmid.isNone = false := by
      rwa [Option.isNone_eq_false_iff]
    refine poweredCheck_iff.mp ?_
    simpa [upheldCheck, hexit, hvm, hst, hsome] using h
  · rintro c node n out rfl vm hvm hst g hg
    simpa [upheldCheck, hvm, hst, hg] using h

def succeedsCheck (s s' : Shared) (j : JobId) (v : VmId) : Bool :=
  ((s.db.jobs.get j).any fun job => job.status ≠ .success) &&
    (s'.db.jobs.get j).any fun job => job.status = .success && job.type.powers && job.vmId = some v

theorem succeedsCheck_sound {s s' : Shared} {j : JobId} {v : VmId}
    (h : succeedsCheck s s' j v = true) : Succeeds s s' j v := by
  simp only [succeedsCheck, Option.any_eq_true, Bool.and_eq_true, decide_eq_true_eq] at h
  obtain ⟨⟨job, hj, hne⟩, job', hj', ⟨hst, hp⟩, hv⟩ := h
  exact ⟨⟨job, job', hj, hne, hj', hst, hp, hv⟩⟩

def truthfulCheck (s : Shared) (v : VmId) : Bool :=
  (s.db.vms.get v).any fun vm => [true, false].any fun running =>
    poweredCheck s.pve vm.proxmoxVmid running && vm.status = .ofPower running

theorem truthfulCheck_of {s : Shared} {v : VmId} (h : s.Truthful v) : truthfulCheck s v = true := by
  obtain ⟨vm, running, hvm, hp, hst⟩ := h
  have hcheck := poweredCheck_iff.mpr hp
  cases running <;> simp [truthfulCheck, hvm, hcheck, hst]

namespace Scenario

/-- The worker takes a creation, whose clone boots, up to the wait for its address. -/
def creation : List Choice :=
  startup [] 0 ++ create 0 (body "a" named_a) 100 ++ clone "0" 100 ++ boot "0" 100 "10.0.0.5"

/-- The clone gets a machine-id of its own; the reboot's task fails, and leaves the guest stopped. -/
def halting (k ip : String) : List Choice :=
  worker [.none, .nat 0, interfaces ip, .none, .none, answer (.obj [("pid", .int 1)]) true, .nat 0,
    answer (.obj [("exited", .int 1), ("out-data", .str "reset-ok")]) false,
    .http { left := some false, out := .response 200 { json := some (.obj [("data", .str k)]) } }, .none,
    .nat 0, answer (.obj [("status", .str "stopped"), ("exitstatus", .str "got timeout")]) false, .none]

end Scenario

open Scenario in
def toldCreation : List Choice := creation ++ identifying "0" "10.0.0.5" "10.0.0.6"

/-- The run is evaluated once. -/
theorem toldCreation_ends : (Scenario.panel.run (fun s l s' =>
    Cond.upheldCheck s.shared l s'.shared) toldCreation).any (fun s =>
      (s.step (.run .worker .none)).any fun x => succeedsCheck s.shared x.2.shared 0 0) = true := by
  decide +kernel

theorem toldCreation_runs : (Scenario.panel.run (fun s l s' =>
    Cond.upheldCheck s.shared l s'.shared) toldCreation).isSome = true :=
  Option.isSome_of_any toldCreation_ends

theorem toldCreation_commits : ((Scenario.panel.run (fun s l s' => Cond.upheldCheck s.shared l s'.shared)
    toldCreation).get toldCreation_runs |>.step (.run .worker .none)).isSome = true :=
  Option.isSome_of_any (Option.get_of_any_eq_true _ _ toldCreation_ends)

/-- The creation whose reboot is done. -/
theorem success_truthful_toldCreation :
    let s := (Scenario.panel.run (fun s l s' => Cond.upheldCheck s.shared l s'.shared) toldCreation).get
      toldCreation_runs
    let s' := ((s.step (.run .worker .none)).get toldCreation_commits).2
    Succeeds s.shared s'.shared 0 0 ∧ s'.shared.Truthful 0 := by
  intro s s'
  have hreach : Reachable .upheld s :=
    Scenario.reached (fun _ _ _ h => Cond.upheldCheck_sound h) toldCreation_runs
  have hstep : Step s ((s.step (.run .worker .none)).get toldCreation_commits).1 s' :=
    step_sound (Option.some_get toldCreation_commits).symm
  have hj : Succeeds s.shared s'.shared 0 0 := succeedsCheck_sound
    (Option.get_of_any_eq_true _ _ (Option.get_of_any_eq_true _ _ toldCreation_ends))
  exact ⟨hj, success_truthful hreach hstep hj⟩

/-- A record that stands for a guest has its VMID. -/
theorem on_guest_vmid {s : Sys} (h : Reachable .any s) {v : VmId} {vm : VM}
    (hv : s.shared.db.vms.get v = some vm)
    (hs : vm.status ∈ [VMStatus.running, .stopped, .starting, .stopping, .rebooting]) :
    vm.proxmoxVmid ≠ none := by
  obtain ⟨t, ht, href⟩ := h.abstract
  rw [href.shared] at hv
  have hx : t.view.vms v = some vm.core := congrArg (Option.map VM.core) hv
  have hguest : vm.core.status.onGuest = true := by
    show vm.status.onGuest = true
    generalize vm.status = status at hs
    revert hs
    cases status <;> decide
  have hn : vm.core.vmid.isSome = true := (ht.backed.rows hx).status hguest
  exact Option.isSome_iff_ne_none.mp hn

open Scenario in
theorem creation_ends : (Scenario.panel.run (fun _ _ _ => true) creation).any (fun s =>
    (s.shared.db.vms.get 0).any fun vm => vm.status = .running) = true := by decide +kernel

open Scenario in
theorem creation_runs : (Scenario.panel.run (fun _ _ _ => true) creation).isSome = true :=
  Option.isSome_of_any creation_ends

/-- The clone that has booted. -/
theorem on_guest_vmid_creation :
    let s := (Scenario.panel.run (fun _ _ _ => true) Scenario.creation).get creation_runs
    ∃ vm, s.shared.db.vms.get 0 = some vm ∧ vm.status = .running ∧ vm.proxmoxVmid ≠ none := by
  intro s
  have hreach : Reachable .any s :=
    @Scenario.reached _ Cond.any (fun _ _ _ _ => trivial) _ creation_runs
  have hrow := Option.get_of_any_eq_true _ _ creation_ends
  obtain ⟨vm, hv, hvm⟩ := (Option.any_eq_true _ _).mp hrow
  have hr : vm.status = .running := of_decide_eq_true hvm
  exact ⟨vm, hv, hr, on_guest_vmid hreach hv (by simp [hr])⟩

open Scenario in
def haltedCreation : List Choice := creation ++ halting "reboot" "10.0.0.5"

theorem success_untruthful : ¬ ∀ s s' l j v, Reachable .any s → Step s l s' →
    Succeeds s.shared s'.shared j v → s'.shared.Truthful v := by
  intro h
  have hends : (Scenario.panel.run (fun _ _ _ => true) haltedCreation).any (fun s =>
      (s.step (.run .worker .none)).any fun x =>
        succeedsCheck s.shared x.2.shared 0 0 && !truthfulCheck x.2.shared 0) = true := by
    decide +kernel
  obtain ⟨s, hreach, hends⟩ := Scenario.evaluated_any hends
  obtain ⟨⟨l, s'⟩, hs, hends⟩ := (Option.any_eq_true _ _).mp hends
  obtain ⟨hj, hfalse⟩ := (Bool.and_eq_true _ _).mp hends
  have htrue := truthfulCheck_of (h s s' l 0 0 hreach (step_sound hs) (succeedsCheck_sound hj))
  rw [htrue] at hfalse
  cases hfalse

end Clusteration
