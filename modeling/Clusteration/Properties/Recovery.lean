import Clusteration.Properties.PowerJobs
import Clusteration.Properties.Quiescence

open Async Transition

namespace Clusteration

/-- However Proxmox normally behaves, each of the requests is accepted and carried to its end, and
`Q` holds after the last. -/
def Leads (settings : Settings) (Q : Shared → Prop) : List Request → Shared → Prop
  | [], m => Q m
  | r :: rs, m => (serve settings r).Total NormalAct m fun out m₁ =>
      (∃ resp, out = .ok resp) ∧ DrainsTo settings m₁ (Leads settings Q rs)

/-- The record shows a running VM, and its guest runs. -/
def Up (v : VmId) (m : Shared) : Prop :=
  ∃ vm n g, m.db.vms.get v = some vm ∧ vm.proxmoxVmid = some n ∧ vm.status = .running ∧
    m.pve.find n = some g ∧ g.running = true

/-- Some start, stop and reboot requests bring the VM up. -/
def Recoverable (settings : Settings) (v : VmId) (m : Shared) : Prop :=
  ∃ rs : List Request, (∀ r ∈ rs, ∃ type, r.Powers v type) ∧ Leads settings (Up v) rs m

section Law
variable {settings : Settings} {v : VmId} {n : Int} {node : String} {running : Bool} {status : VMStatus}
  {m : Shared} {Q : Shared → Prop} {rs : List Request} {r : Request} {type : JobType}

/-- The requests can be played, one after the other. -/
theorem Leads.plays (h : Leads settings Q rs m) : ∃ m', Plays settings rs m m' ∧ Q m' := by
  induction rs generalizing m with
  | nil => exact ⟨m, .nil m, h⟩
  | cons r rs ih =>
    obtain ⟨out, m₁, hserve⟩ := h.can
    obtain ⟨⟨resp, rfl⟩, hdrains⟩ := h.each out m₁ hserve
    obtain ⟨m₂, hdrain⟩ := hdrains.can
    obtain ⟨m', hplays, hq⟩ := ih (hdrains.each m₂ hdrain)
    exact ⟨m', .cons hserve hdrain hplays, hq⟩

/-- So the panel has a run that brings the VM up. -/
theorem Recoverable.path {s : Sys} (h : Recoverable s.settings v s.shared) (hs : s.Resting) :
    ∃ s', Path Step Cond.any.ok s s' ∧ s'.Resting ∧ Up v s'.shared := by
  obtain ⟨rs, _, hleads⟩ := h
  obtain ⟨m', hplays, hup⟩ := hleads.plays
  obtain ⟨s', hpath, hrest, rfl⟩ := plays_path hplays hs rfl
  exact ⟨s', hpath, hrest, hup⟩

theorem Request.Powers.op (h : r.Powers v type) : ∃ op, powerOp type = some op := by
  cases h with
  | start | stop | reboot => exact ⟨_, rfl⟩

/-- One accepted request. -/
theorem leads_cons {op : PowerOp} (hr : r.Powers v type) (hop : powerOp type = some op)
    (hst : Stands v n node running status m) (hn : isNodeName node = true) (hq : m.queue = [])
    (ht : type.takes status = true)
    (hrest : ∀ m', Stands v n node (if op.action.admits running then op.action.boots else running)
      (if op.action.admits running then op.final else .error) m' → m'.queue = [] →
        Leads settings Q rs m') : Leads settings Q (r :: rs) m := by
  refine (serve_total (powers_total settings hr hq hst)).mono ?_
  intro out m₁ ho
  cases out with
  | error x =>
    have hno : type.takes status = false := ho
    rw [ht] at hno
    cases hno
  | ok resp =>
    obtain ⟨_, hst₁, p, job, hq₁, hv, hjob, rfl⟩ := ho
    exact ⟨⟨resp, rfl⟩, power_drains hst₁ hn hq₁ hv hjob hop hrest⟩

theorem Stands.up (h : Stands v n node true .running m) : Up v m := by
  obtain ⟨⟨vm, hvm, hn, _, hs⟩, g, hg, _, hrun⟩ := h
  exact ⟨vm, n, g, hvm, hn, hs, hg, hrun⟩

/-- A record in error or stopped, whose guest is stopped, is started. -/
theorem leads_start (hst : Stands v n node false status m) (hn : isNodeName node = true)
    (hq : m.queue = []) (hs : status = .stopped ∨ status = .error) :
    Leads settings (Up v) [.startVm v] m := by
  have htakes : JobType.startVm.takes status = true := by
    rcases hs with rfl | rfl <;> rfl
  refine leads_cons .start rfl hst hn hq htakes ?_
  intro m' hst' _
  exact Stands.up hst'

/-- A record that shows a running VM, or whose guest is stopped, can be brought up. -/
theorem recoverable_of (hst : Stands v n node running status m) (hn : isNodeName node = true)
    (hq : m.queue = []) (hs : status = .running ∨ status = .stopped ∨ status = .error)
    (h : status = .running ∨ running = false) : Recoverable settings v m := by
  cases running with
  | true =>
    obtain rfl : status = .running := by simpa using h
    exact ⟨[], by simp, hst.up⟩
  | false =>
    obtain rfl | hs := hs
    · -- the stop fails, and leaves an error from which the VM is started
      refine ⟨[.stopVm v, .startVm v], ?_, ?_⟩
      · intro r hr
        simp only [List.mem_cons, List.not_mem_nil, or_false] at hr
        rcases hr with rfl | rfl
        · exact ⟨_, .stop⟩
        · exact ⟨_, .start⟩
      · refine leads_cons .stop rfl hst hn hq rfl ?_
        intro m' hst' hq'
        exact leads_start hst' hn hq' (.inr rfl)
    · refine ⟨[.startVm v], ?_, leads_start hst hn hq hs⟩
      intro r hr
      obtain rfl := List.mem_singleton.mp hr
      exact ⟨_, .start⟩

/-- A record that does not show its guest as running never will: a start fails, and the requests
that could stop the guest are refused. -/
theorem not_leads (hst : Stands v n node true status m) (hn : isNodeName node = true) (hq : m.queue = [])
    (hs : status ≠ .running) (hrs : ∀ r ∈ rs, ∃ type, r.Powers v type) :
    ¬ Leads settings (Up v) rs m := by
  induction rs generalizing m status with
  | nil =>
    rintro ⟨vm, k, g, hvm, _, hrun, _⟩
    obtain ⟨vm', hvm', _, _, hs'⟩ := hst.row
    obtain rfl := Option.some.inj (hvm.symm.trans hvm')
    exact hs (hs'.symm.trans hrun)
  | cons r rs ih =>
    intro h
    obtain ⟨type, hr⟩ := hrs r List.mem_cons_self
    obtain ⟨out, m₁, hserve⟩ := h.can
    obtain ⟨⟨resp, rfl⟩, hdrains⟩ := h.each out m₁ hserve
    obtain ⟨htakes, hst₁, p, job, hq₁, hv, hjob, ht⟩ :=
      (serve_total (powers_total settings hr hq hst)).each _ _ hserve
    obtain ⟨m₂, hdrain⟩ := hdrains.can
    have hleads := hdrains.each m₂ hdrain
    cases hr with
    | start =>
      have hop : powerOp job.type = some ⟨.start, .starting, .running⟩ := by rw [ht]; rfl
      have hafter : DrainsTo settings m₁ fun m' => Stands v n node true .error m' ∧ m'.queue = [] :=
        power_drains hst₁ hn hq₁ hv hjob hop fun m' hst' hq' => ⟨hst', hq'⟩
      obtain ⟨hst₂, hq₂⟩ := hafter.each m₂ hdrain
      exact ih hst₂ hq₂ (by simp) (fun r hr => hrs r (List.mem_cons_of_mem _ hr)) hleads
    | stop | reboot => exact hs (by simpa [JobType.takes] using htakes)

end Law

/-- Guests of the panel's own are on nodes that can be named, and a record that shows a deleted VM
is deleted. -/
structure View.Homed (m : View) : Prop where
  nodes : ∀ {n g}, m.pve.find n = some g → g.origin ≠ none → isNodeName g.node = true
  rows : ∀ {v x}, m.vms v = some x → x.status = .deleted → x.deletedAt ≠ none

theorem serve_clone {c c' : Cluster} {caller : Option Caller} {node name : String} {t n : Int}
    {i : HttpIn} (h : c.serve caller (.clone node t n name) i = some c') (hi : i.applied = true) :
    isNodeName node = true := by
  have heffect : i.effect (.clone node t n name) = some (.clone node t n name) := if_pos hi
  unfold Cluster.serve at h
  rw [Option.ite_none_left_eq_some, if_neg (by simp [Req.isGet]), heffect] at h
  obtain ⟨c₁, hc₁, _⟩ := Option.map_eq_some_iff.mp h.2
  simp only [Cluster.apply, Option.ite_none_left_eq_some, Bool.or_eq_true, not_or] at hc₁
  simpa using hc₁.1.2

/-- Only a clone puts a guest on a node. -/
theorem serve_nodes {c c' : Cluster} {caller : Option Caller} {req : Req} {i : HttpIn} {n : Int}
    {g : Guest} (h : c.serve caller req i = some c') (hg : c'.find n = some g) :
    isNodeName g.node = true ∨ ∃ g₀, c.find n = some g₀ ∧ g.origin = g₀.origin ∧ g.node = g₀.node := by
  cases serve_served h with
  | kept _ _ hf => exact .inr ⟨g, hf ▸ hg, rfl, rfl⟩
  | cloned hreq hi _ _ hf =>
    subst hreq
    obtain ⟨rfl, hr⟩ | hold := find_updated hf hg
    · cases hr
      exact .inl (serve_clone h hi)
    · exact .inr ⟨g, hold, rfl, rfl⟩
  | booted _ _ hm _ hf | halted _ _ hm _ hf | renewed _ _ hm _ hf =>
    obtain ⟨rfl, hr⟩ | hold := find_updated hf hg
    · cases hr
      exact .inr ⟨_, hm, rfl, rfl⟩
    · exact .inr ⟨g, hold, rfl, rfl⟩
  | removed _ _ _ _ hf =>
    obtain ⟨_, hr⟩ | hold := find_updated hf hg
    · cases hr
    · exact .inr ⟨g, hold, rfl, rfl⟩

/-- A commit only shows a deleted VM where it deletes the record, or where the record showed one. -/
theorem Edit.shows_deleted {w : Exec} {stage : Stage} {x : Core} {target : Option Int}
    (h : Edit w stage x target) (hx : x.status = .deleted) :
    x.deletedAt ≠ none ∨ (w.x.status = .deleted ∧ x.deletedAt = w.x.deletedAt) := by
  cases h with
  | metadata | prepare _ | target _ | targetLost _ | address _ | noAddress _ | ready _ | sshReady _
  | sshFailed _ _ =>
    exact .inr ⟨hx, rfl⟩
  | power _ hop _ => exact absurd hx (powerOp_ne_deleted hop).1
  | stopped _ hop _ | addressed _ hop | unheard _ hop => exact absurd hx (powerOp_ne_deleted hop).2
  | deleted _ _ _ => exact .inl (by simp)
  | delete _ _ | wipe _ _ | cleared _ _ | adopt _ | booted _ => cases hx

theorem View.Homed.step {m m' : View} {l : Label} (h : m.Homed) (hb : Base m) (hm : Move m l m') :
    m'.Homed := by
  constructor
  case nodes =>
    intro n g hg ho
    rcases hm.sent with hp | ⟨w, req, i, hsent⟩
    · exact h.nodes (hp ▸ hg) ho
    · obtain hn | ⟨g₀, hg₀, horigin, hnode⟩ := serve_nodes hsent.serve hg
      · exact hn
      · rw [hnode]
        exact h.nodes hg₀ (horigin ▸ ho)
  case rows =>
    intro v x' hx' hs
    cases hm.vms_back hx' with
    | same hx => exact h.rows hx hs
    | @edit w stage y row target hw hv hrow he _ hx'' =>
      subst hv hx''
      obtain ⟨_, _, row', hrow', hag⟩ := hb.exec hw
      obtain rfl := Option.some.inj (hrow.symm.trans hrow')
      obtain hd | ⟨hold, hd⟩ := he.shows_deleted hs
      · exact hd
      · have hrow₀ := h.rows hrow (hag.status.trans hold)
        rwa [hag.deletedAt, ← hd] at hrow₀
    | fail _ _ _ _ _ _ hx'' =>
      subst hx''
      cases hs
    | mark _ _ hrow hx'' =>
      subst hx''
      have hd := h.rows hrow hs
      exact hd
    | @recover adopted row hrow _ _ hx'' =>
      subst hx''
      apply h.rows hrow
      by_cases hc : (row.status.transient && row.deletedAt.isNone) = true
      · simp [Core.recovered, hc] at hs
      · simpa [Core.recovered, hc] using hs
    | create _ _ _ _ hx'' =>
      subst hx''
      cases hs

theorem AReachable.homed {cond : Cond} {t : Abs} (h : AReachable cond t) : t.view.Homed := by
  refine h.invariant (P := View.Homed) (fun t hi => ?_) fun _ _ _ hb _ ht hm _ => ht.step hb hm
  constructor
  · intro n g hg ho
    exact absurd (hi.foreign g (List.mem_of_find?_eq_some hg)) ho
  · intro v x hx
    simp [Abs.view, hi.vms] at hx

/-- At rest, a live record that names a guest shows it as running, as stopped, or in error. -/
theorem resting_status {s : Sys} (h : Reachable .any s) (hs : s.Resting) {v : VmId} {vm : VM} {n : Int}
    (hrow : s.shared.db.vms.get v = some vm) (hlive : vm.deletedAt = none) (hn : vm.proxmoxVmid = some n) :
    vm.status = .running ∨ vm.status = .stopped ∨ vm.status = .error := by
  obtain ⟨t, ht, hr⟩ := h.abstract
  rw [hr.shared] at hrow
  have hb := ht.base
  have hboot : t.view.boot = .over := hr.boot_over hs.started
  have hworker : t.view.worker = .over := hr.worker_over hs.idle
  have hx : t.view.vms v = some vm.core := congrArg (Option.map VM.core) hrow
  have halive : t.view.alive = true := hr.alive.symm.trans hs.alive
  have htransient : vm.status.transient = false := by
    rw [Bool.eq_false_iff]
    intro htr
    rcases hb.transient hx hlive htr with hu | ⟨_, i, c, hc, ht, hst, hv⟩ | ⟨w, hw, _⟩
    · simp [View.Unrecovered, halive, hboot] at hu
    · obtain ⟨_, x, hx', hvmid, _⟩ := hb.fresh hc ht hst hv
      obtain rfl := Option.some.inj (hx.symm.trans hx')
      rw [VM.core_vmid, hn] at hvmid
      cases hvmid
    · rw [hworker] at hw
      cases hw
  have hdeleted : vm.status ≠ .deleted := fun hd => ht.homed.rows hx hd hlive
  cases hst : vm.status <;> simp_all [VMStatus.transient]

/-- From every state at rest, a live VM with a guest of its own can be brought up by start, stop and
reboot exactly when its record shows it as running, or its guest is stopped. -/
theorem power_recoverable {s : Sys} (h : Reachable .any s) (hs : s.Resting) {v : VmId} {vm : VM} {n : Int}
    {g : Guest} {c : Caller} (hrow : s.shared.db.vms.get v = some vm) (hlive : vm.deletedAt = none)
    (hn : vm.proxmoxVmid = some n) (hg : s.shared.pve.find n = some g) (ho : g.origin = some c)
    (_ : c.vm = v) :
    Recoverable s.settings v s.shared ↔ vm.status = .running ∨ g.running = false := by
  have hst : Stands v n g.node g.running vm.status s.shared :=
    ⟨⟨vm, hrow, hn, hlive, rfl⟩, g, hg, rfl, rfl⟩
  have hnode : isNodeName g.node = true := by
    obtain ⟨t, ht, hr⟩ := h.abstract
    have hg' : t.view.pve.find n = some g := by rwa [hr.shared] at hg
    exact ht.homed.nodes hg' (by simp [ho])
  constructor
  · rintro ⟨rs, hrs, hleads⟩
    by_cases hstatus : vm.status = .running
    · exact .inl hstatus
    · right
      rw [Bool.eq_false_iff]
      intro hrun
      rw [hrun] at hst
      exact not_leads hst hnode hs.empty hstatus hrs hleads
  · exact recoverable_of hst hnode hs.empty (resting_status h hs hrow hlive hn)

open Scenario in
/-- The configuration of a clone is refused: the creation fails, and the clone has not been started. -/
def unstarted : List Choice :=
  startup [] 0 ++ create 0 (body "a" named_a) 100 ++ clone "0" 100 ++ unconfigured

theorem unstarted_ends : (Scenario.panel.run (fun _ _ _ => true) unstarted).any (fun s =>
    s.Resting ∧ (s.shared.db.vms.get 0).map (fun vm => (vm.status, vm.deletedAt, vm.proxmoxVmid)) =
      some (.error, none, some 100) ∧
    (s.shared.pve.find 100).map (fun g => (g.origin, g.running)) = some (some ⟨0, 0⟩, false)) = true := by
  decide +kernel

theorem unstarted_runs : (Scenario.panel.run (fun _ _ _ => true) unstarted).isSome = true :=
  Option.isSome_of_any unstarted_ends

theorem power_recoverable_unstarted :
    let s := (Scenario.panel.run (fun _ _ _ => true) unstarted).get unstarted_runs
    (∃ vm, s.shared.db.vms.get 0 = some vm ∧ vm.status = .error) ∧ Recoverable s.settings 0 s.shared := by
  intro s
  have hreach : Reachable .any s := @Scenario.reached _ Cond.any (fun _ _ _ _ => trivial) _ unstarted_runs
  obtain ⟨hrest, hrow, hguest⟩ := of_decide_eq_true (Option.get_of_any_eq_true _ _ unstarted_ends)
  obtain ⟨vm, hvm, hcols⟩ := Option.map_eq_some_iff.mp hrow
  obtain ⟨g, hg, hgcols⟩ := Option.map_eq_some_iff.mp hguest
  simp only [Prod.mk.injEq] at hcols hgcols
  exact ⟨⟨vm, hvm, hcols.1⟩,
    (power_recoverable hreach hrest hvm hcols.2.1 hcols.2.2 hg hgcols.1 rfl).mpr (.inr hgcols.2)⟩

open Scenario in
/-- Proxmox starts the clone, and does not answer any more when the panel asks for the task: the
creation fails, with the guest running. -/
def stranded : List Choice :=
  startup [] 0 ++ create 0 (body "a" named_a) 100 ++ clone "0" 100 ++
    worker [.none, answer .null true, .none, listing [100], leased "start0" "10.0.0.5", .none, .nat 0] ++
    worker (List.replicate 4 (.http { out := .connectError })) ++ worker [.none]

theorem stranded_ends : (Scenario.panel.run (fun _ _ _ => true) stranded).any (fun s =>
    s.Resting ∧ (s.shared.db.vms.get 0).map (fun vm => (vm.status, vm.deletedAt, vm.proxmoxVmid)) =
      some (.error, none, some 100) ∧
    (s.shared.pve.find 100).map (fun g => (g.origin, g.node, g.running)) =
      some (some ⟨0, 0⟩, "pve1", true)) = true := by decide +kernel

theorem stranded_runs : (Scenario.panel.run (fun _ _ _ => true) stranded).isSome = true :=
  Option.isSome_of_any stranded_ends

/-- A live VM that no sequence of start, stop and reboot brings up. -/
theorem power_unrecoverable :
    let s := (Scenario.panel.run (fun _ _ _ => true) stranded).get stranded_runs
    Reachable .any s ∧ s.Resting ∧ ∃ vm g c, s.shared.db.vms.get 0 = some vm ∧ vm.deletedAt = none ∧
      vm.proxmoxVmid = some 100 ∧ s.shared.pve.find 100 = some g ∧ g.origin = some c ∧ c.vm = 0 ∧
        ¬ Recoverable s.settings 0 s.shared := by
  intro s
  have hreach : Reachable .any s := @Scenario.reached _ Cond.any (fun _ _ _ _ => trivial) _ stranded_runs
  obtain ⟨hrest, hrow, hguest⟩ := of_decide_eq_true (Option.get_of_any_eq_true _ _ stranded_ends)
  obtain ⟨vm, hvm, hcols⟩ := Option.map_eq_some_iff.mp hrow
  obtain ⟨g, hg, hgcols⟩ := Option.map_eq_some_iff.mp hguest
  simp only [Prod.mk.injEq] at hcols hgcols
  have hst : Stands 0 100 "pve1" true .error s.shared :=
    ⟨⟨vm, hvm, hcols.2.2, hcols.2.1, hcols.1⟩, g, hg, hgcols.2.1, hgcols.2.2⟩
  refine ⟨hreach, hrest, vm, g, _, hvm, hcols.2.1, hcols.2.2, hg, hgcols.1, rfl, ?_⟩
  rintro ⟨rs, hrs, hleads⟩
  exact not_leads hst (by decide) hrest.empty (by simp) hrs hleads

end Clusteration
