import Clusteration.Properties.Identity
import Clusteration.Properties.PowerState

open Transition

namespace Clusteration

/-- Besides what `Attended` and `Upheld` ask: where a job that boots its guest ends well, the guest has
had its machine-id reset since it was cloned, and has booted after that; and a reboot begins on a ready
record only if its status is `running`. -/
structure Identified (s : Shared) (l : Label) (s' : Shared) : Prop where
  network : Network s l s'
  attended : Attended s l s'
  upheld : Upheld s l s'
  renewed : ∀ j n, Booted s s' j n → Renewed s.hist n
  rebooted : ∀ j job vm, Begins s s' j job vm → job.type = .rebootVm → vm.deletedAt = none →
    vm.sshStatus = .ready → vm.status = .running

def Cond.identified : Cond := Identified

/-- The guest of the VMID has the address, and booted with a machine-id of its own. -/
def Placed (c : Cluster) (vmid : Option Int) (ip : Option String) : Prop :=
  ∃ n a g, vmid = some n ∧ ip = some a ∧ c.find n = some g ∧ g.running = true ∧ g.addr = a ∧
    g.Identified

structure View.Addressed (m : View) : Prop where
  ids : m.pve.Distinct
  leases : (∀ v, m.vms v = none) ∨ ∀ n n' g g', m.pve.find n = some g → m.pve.find n' = some g' →
    g.running = true → g'.running = true → g.addr = g'.addr → g.bootId = g'.bootId
  rests : ∀ {v x}, m.Rests v x → x.ip.isSome = true → Placed m.pve x.vmid x.ip
  rows : ∀ {v x}, m.vms v = some x → x.Exposed → Placed m.pve x.vmid x.ip
  rebooting : ∀ {w row n g}, m.worker = .exec w → w.type = .rebootVm → m.vms w.v = some row →
    row.deletedAt = none → row.ssh = .ready → row.vmid = some n → m.pve.find n = some g → g.Identified
  heard : ∀ {w ip}, m.worker = .exec w → w.stage = .heard ip →
    ∃ n g, w.x.vmid = some n ∧ m.pve.find n = some g ∧ g.running = true ∧ g.addr = ip
  reached : ∀ {w}, m.worker = .exec w → w.stage = .reached → w.x.deletedAt = none →
    w.x.status = .running → Placed m.pve w.x.vmid w.x.ip

/-- A record is ready after an edit if it was before, with the same VMID, or if its check has just
succeeded. -/
theorem Edit.ready_back {w : Exec} {stage : Stage} {x row : Core} {target : Option Int} {n : Int}
    (h : Edit w stage x target) (hw : w.Ok) (hag : w.x.Agrees row)
    (hd : (Core.written w.x x row).deletedAt = none) (hr : (Core.written w.x x row).ssh = .ready)
    (hn : (Core.written w.x x row).vmid = some n) :
    (row.deletedAt = none ∧ row.ssh = .ready ∧ row.vmid = some n) ∨
      (w.stage = .reached ∧ x = { w.x with ssh := .ready }) := by
  have hready : x.ssh = .ready := by
    rcases (hag.written x).ssh with h | h
    · exact h.symm.trans hr
    · rw [h] at hr
      cases hr
  have hkept : x.ssh = w.x.ssh → x.vmid = w.x.vmid → row.deletedAt = none ∧ row.ssh = .ready ∧
      row.vmid = some n := by
    intro hs hv
    have hrow : (Core.written w.x x row).ssh = row.ssh := if_pos hs
    exact ⟨hag.deletedAt.trans (h.live hd), hrow.symm.trans hr, hag.vmid.trans (hv.symm.trans hn)⟩
  cases h with
  | metadata | target _ | targetLost _ | ready _ | stopped _ _ _ | addressed _ _ | delete _ _
  | booted _ | address _ =>
    exact .inl (hkept rfl rfl)
  | @power op hs hop hvmid =>
    by_cases ht : w.type = .startVm
    · have hpending : (.pending : SSHStatus) = .ready := (if_pos ht).symm.trans hready
      cases hpending
    · exact .inl (hkept (if_neg ht) rfl)
  | deleted _ _ _ => cases hd
  | cleared _ _ => cases hn
  | adopt hs =>
    simp only [Exec.Ok, hs] at hw
    rw [hw.2.2.1] at hready
    cases hready
  | wipe _ _ | unheard _ _ | prepare _ | noAddress _ | sshFailed _ _ => cases hready
  | sshReady hs => exact .inr ⟨hs, rfl⟩

section Step
variable {m m' : View} {l : Label}

/-- A job that waits to commit what it has learnt sends nothing. -/
theorem Sent.busy {w : Exec} {req : Req} {i : HttpIn} (h : Sent m l m' w req i) :
    w.stage ≠ .reached ∧ ∀ ip, w.stage ≠ .heard ip := by
  rcases h.moves with ⟨hc, _⟩ | ⟨_, hl, _⟩
  · cases hc <;> simp [*]
  · cases hl <;> simp [*]

theorem Move.pve_kept (hm : Move m l m') {w : Exec} (hw : m.worker = .exec w)
    (hs : w.stage = .reached ∨ ∃ ip, w.stage = .heard ip) : m'.pve = m.pve := by
  rcases hm.sent with hp | ⟨w', req, i, hsent⟩
  · exact hp
  · obtain rfl := WorkerPhase.exec.inj (hw.symm.trans hsent.work)
    rcases hs with hs | ⟨ip, hs⟩
    · exact absurd hs hsent.busy.1
    · exact absurd hs (hsent.busy.2 ip)

/-- A guest that is sent no state-changing request stays where it is. -/
theorem Placed.step {vmid : Option Int} {ip : Option String} (h : Placed m.pve vmid ip)
    (hm : Move m l m') (hno : ∀ n w req i g, vmid = some n → Sent m l m' w req i →
      req.isGet = false → req.target = some n → m.pve.find n ≠ some g) : Placed m'.pve vmid ip := by
  rcases hm.sent with hp | ⟨w, req, i, hsent⟩
  · exact hp ▸ h
  · obtain ⟨n, a, g, hn, ha, hg, hplace⟩ := h
    by_cases hget : req.isGet = true
    · obtain ⟨hp, _⟩ := serve_get hget hsent.serve
      exact ⟨n, a, g, hn, ha, hp ▸ hg, hplace⟩
    · have ht : req.target ≠ some n := fun ht => hno n w req i g hn hsent (by simpa using hget) ht hg
      exact ⟨n, a, g, hn, ha, (serve_served hsent.serve).find_other hg ht, hplace⟩

/-- The guest of a ready record was there before the step, and booted with a machine-id of its own if
it did so then. -/
theorem View.Owned.guest_back (ho : m.Owned) (hb : Base m) (hm : Move m l m')
    (hids : m.pve.Distinct) {v : VmId} {x : Core} {n : Int} {g' : Guest} (hx : m'.vms v = some x)
    (hd : x.deletedAt = none) (hn : x.vmid = some n) (hg : m'.pve.find n = some g') :
    ∃ g, m.pve.find n = some g ∧ (g.Identified → g'.Identified) := by
  rcases hm.sent with hp | ⟨w, req, i, hsent⟩
  · exact ⟨g', hp ▸ hg, id⟩
  · have hnow := (serve_served hsent.serve).find_back hg
    have hkept : ∀ g, m.pve.find n = some g → g.Identified → g'.Identified := by
      intro g h hid
      exact hnow.identified hids h hid
    cases hnow with
    | same h => exact ⟨g', h, id⟩
    | cloned hreq hnone _ =>
      -- the VMID would be in the hands of the job that clones, whose record has none yet
      exfalso
      have hs : w.stage = .allocated n := by
        subst hreq
        cases hsent.calls rfl with
        | clone _ _ _ hs => exact hs
      have hrow : m.vms v = some x := hsent.vms ▸ hx
      obtain rfl : v = w.v := ho.sole (.record hrow hd hn) (.given hsent.work rfl (.inl hs))
      obtain ⟨hok, _, row, hrow', hag⟩ := hb.exec hsent.work
      obtain rfl := Option.some.inj (hrow.symm.trans hrow')
      simp only [Exec.Ok, hs] at hok
      rw [hag.vmid, hok.2.1] at hn
      cases hn
    | booted _ h _ | halted _ h _ | renewed _ h _ _ =>
      exact ⟨_, h, hkept _ h⟩

theorem View.Addressed.rows_step (ha : m.Addressed) (hb : Base m) (ho : m.Owned) (hm : Move m l m')
    (hk : m.Backed) {v : VmId} {x' : Core} (hx' : m'.vms v = some x') (he : x'.Exposed) :
    Placed m'.pve x'.vmid x'.ip := by
  cases hm.exposed_back hb hk hx' he with
  | same hx hex hvmid hip =>
    rw [hvmid, hip]
    exact (ha.rows hx hex).step hm fun n w req i g hn hsent hget ht hg =>
      hsent.not_exposed ho hb hget ht hg hx hn hex
  | checked hw _ hs hlive hrunning hvmid hip =>
    rw [hvmid, hip, hm.pve_kept hw (.inl hs)]
    exact ha.reached hw hs hlive hrunning
  | @rebooted w row ip hw hwv hs ht hrow hlive hready hrowid hvmid hip =>
    -- a reboot has kept the status `ready`; its guest kept the machine-id
    obtain ⟨n, g, hn, hg, hrun, haddr⟩ := ha.heard hw hs
    have hident : g.Identified :=
      ha.rebooting hw ht (hwv.symm ▸ hrow) hlive hready (hrowid.trans hn) hg
    rw [hvmid, hip, hm.pve_kept hw (.inr ⟨ip, hs⟩)]
    exact ⟨n, ip, g, hn, rfl, hg, hrun, haddr, hident⟩

end Step

section Run
variable {t t' : Abs} {l : Label}

theorem JobType.powers_of_followedUp {type : JobType} (h : type.followedUp = true) :
    type.powers = true := by
  cases type <;> first | rfl | cases h

/-- A job that ends well leaves its guest running, at the address of the record, with a machine-id of
its own. -/
theorem View.Addressed.rests_step (ha : t.view.Addressed) (htr : Tracked t.view.pve t.view.hist)
    (hsure : t.view.Sure) (htold : t'.view.Told) (hb : Base t.view) (ho : t.view.Owned)
    (hk : t.view.Backed) (hm : Move t.view l t'.view) (hok : Identified t.shared l t'.shared)
    {v : VmId} {x' : Core} (hx' : t'.view.Rests v x') (hip : x'.ip.isSome = true) :
    Placed t'.view.pve x'.vmid x'.ip := by
  obtain ⟨a, hip⟩ := Option.isSome_iff_exists.mp hip
  cases hm.rest_back hb hk hx' with
  | same hx hvmid hxip =>
    rw [hvmid, hxip]
    have hold := ha.rests hx (by rw [← hxip, hip]; rfl)
    exact hold.step hm fun n w req i g hn hsent hget ht hg => hsent.not_rests ho hb hget ht hg hn hx
  | @ended w hw hwv hf hs hx hjob hvms hpve hist =>
    subst hwv
    obtain ⟨_, _, row, hrow, hag⟩ := hb.exec hw
    obtain rfl := Option.some.inj (hx.symm.trans hrow)
    obtain ⟨running, ⟨n, g, hn, hg, hrun⟩, hst⟩ := (hsure hw).settled hs (JobType.powers_of_followedUp hf)
    have hrunning : running = true := by
      have hx := hag.status.symm.trans hx'.running
      rw [hst] at hx
      cases running <;> first | rfl | cases hx
    subst hrunning
    have hxn := hag.vmid.trans hn
    have hbooted := booted_of_ended hb hw hf hx hx'.live hx'.running hxn hip hjob
    have hrep := htold w.v x' n a hx' hxn hip
    rw [hist] at hrep
    rw [hpve]
    exact ⟨n, a, g, hxn, hip, hg, hrun, htr.address hg hrun hrep,
      htr.renewed hg (hok.renewed w.j n hbooted)⟩
  | crashed hw hwv hf hcrash hx =>
    subst hwv
    exact (hok.attended.not_crashed hb hw hf hcrash hx hx'.live hx'.running hip).elim

/-- The guest of a ready record that is being rebooted has a machine-id of its own. -/
theorem View.Addressed.rebooting_step (ha : t.view.Addressed) (hb : Base t.view) (ho : t.view.Owned)
    (hk : t.view.Backed) (hm : Move t.view l t'.view) (hok : Identified t.shared l t'.shared)
    {w' : Exec} {row' : Core} {n : Int} {g' : Guest} (hw' : t'.view.worker = .exec w')
    (ht : w'.type = .rebootVm) (hrow' : t'.view.vms w'.v = some row') (hd : row'.deletedAt = none)
    (hr : row'.ssh = .ready) (hn : row'.vmid = some n) (hg' : t'.view.pve.find n = some g') :
    g'.Identified := by
  obtain ⟨g, hg, hid⟩ := ho.guest_back hb hm ha.ids hrow' hd hn hg'
  have hold : ∀ {row}, t.view.vms w'.v = some row → row.deletedAt = none → row.ssh = .ready →
      row.vmid = some n → g'.Identified := by
    intro row hrow hd hr hn
    apply hid
    cases hm.exec_back hw' with
    | same hw => exact ha.rebooting hw ht hrow hd hr hn hg
    | @enter p job v vm vmRow hw hvmRow hist h =>
      subst h
      obtain rfl := Option.some.inj (hrow.symm.trans hvmRow)
      obtain ⟨job', hbegin, htype, _⟩ := begins_of_enter hb hw hist
      have hrunning := hok.rebooted _ _ _ hbegin (htype.trans ht) hd hr
      obtain ⟨n₀, _, g₀, hn₀, _, hg₀, _, _, hident⟩ := ha.rows hrow ⟨hd, hrunning, hr⟩
      obtain rfl := Option.some.inj (hn.symm.trans hn₀)
      obtain rfl := Option.some.inj (hg.symm.trans hg₀)
      exact hident
    | allocated hw _ _ _ _ _ _ h | reached hw _ _ _ _ _ _ h | learn hw _ _ _ _ h | edit hw _ h =>
      subst h
      exact ha.rebooting hw ht hrow hd hr hn hg
  cases hm.vms_back hrow' with
  | same h => exact hold h hd hr hn
  | @edit w stage y row target hw hwv hrow he hw'' hx'' =>
    obtain rfl := WorkerPhase.exec.inj (hw'.symm.trans hw'')
    obtain ⟨hwok, _, row', hrow', hag⟩ := hb.exec hw
    obtain rfl := Option.some.inj (hrow.symm.trans (hwv ▸ hrow'))
    subst hx''
    rcases he.ready_back hwok hag hd hr hn with ⟨hd, hr, hn⟩ | ⟨hs, _⟩
    · exact hold hrow hd hr hn
    · simp only [Exec.Ok, hs] at hwok
      rw [ht] at hwok
      cases hwok.1
  | fail _ _ _ _ _ hover _ =>
    rw [hover] at hw'
    cases hw'
  | mark _ _ hrow hx'' =>
    subst hx''
    dsimp only at hr
    split at hr
    · exact hold hrow hd hr hn
    · cases hr
  | recover hrow _ _ hx'' =>
    subst hx''
    obtain ⟨k, hk'⟩ := Option.isSome_iff_exists.mp ((hk.rows hrow).ssh hr)
    exact hold hrow hd hr (by simpa [Core.recovered, hk'] using hn)
  | create _ _ _ _ hx'' =>
    rw [hx''] at hr
    cases hr

theorem View.Addressed.step (ha : t.view.Addressed) (htr : Tracked t.view.pve t.view.hist)
    (hsure : t.view.Sure) (htold : t'.view.Told) (hb : Base t.view) (ho : t.view.Owned)
    (hk : t.view.Backed) (hm : Move t.view l t'.view) (hok : Identified t.shared l t'.shared) :
    t'.view.Addressed := by
  have hkept : ∀ {w}, t.view.worker = .exec w → (w.stage = .reached ∨ ∃ ip, w.stage = .heard ip) →
      t'.view.pve = t.view.pve := fun hw hs => hm.pve_kept hw hs
  refine ⟨?_, .inr ?_, fun hx' hip => ?_, fun hx' he => ?_, fun hw' ht hrow' hd hr hn hg' => ?_,
    fun {w' ip} hw' hs => ?_, fun {w'} hw' hs hd hr => ?_⟩
  · rcases hm.sent with hp | ⟨w, req, i, hsent⟩
    · rw [hp]
      exact ha.ids
    · exact ha.ids.served (serve_served hsent.serve)
  · intro n n' g g' hg hg' hrun hrun' haddr
    exact (hok.network.lease n n' g g' hg hg' hrun hrun').mp haddr
  · exact ha.rests_step htr hsure htold hb ho hk hm hok hx' hip
  · exact ha.rows_step hb ho hm hk hx' he
  · exact ha.rebooting_step hb ho hk hm hok hw' ht hrow' hd hr hn hg'
  · cases hm.exec_back hw' with
    | same hw =>
      rw [hkept hw (.inr ⟨ip, hs⟩)]
      exact ha.heard hw hs
    | enter _ _ _ h | allocated _ _ _ _ _ _ _ h | reached _ _ _ _ _ _ _ h =>
      rw [h] at hs
      cases hs
    | @learn w e r stage hw hl hlearns _ _ h =>
      subst h
      cases hs
      cases hlearns with
      | @heard out n _ node _ _ hn hip =>
        obtain ⟨g, hg, hrun, haddr⟩ := hok.network.agent _ _ node n out ip hl hip
        have hp : t'.view.pve = t.view.pve := by
          rcases hm.sent with hp | ⟨w', req, i, hsent⟩
          · exact hp
          · obtain rfl := WorkerPhase.exec.inj (hw.symm.trans hsent.work)
            have hlabel := hl.symm.trans hsent.label
            cases hlabel
            exact (serve_get rfl hsent.serve).1
        rw [hp]
        exact ⟨n, g, hn, hg, hrun, haddr⟩
    | edit hw he h =>
      subst h
      cases he with
      | metadata =>
        rw [hkept hw (.inr ⟨ip, hs⟩)]
        exact ha.heard hw hs
      | _ => cases hs
  · cases hm.exec_back hw' with
    | same hw =>
      rw [hkept hw (.inl hs)]
      exact ha.reached hw hs hd hr
    | enter _ _ _ h | allocated _ _ _ _ _ _ _ h =>
      rw [h] at hs
      cases hs
    | learn _ _ _ _ hne h =>
      rw [h] at hs
      exact absurd hs hne
    | @reached w ip hw _ htype hip _ _ hp h =>
      subst h
      obtain ⟨row, hrests, hvmid, hrowip⟩ := hb.rests_checked hw htype hd hr
      have hplaced := ha.rests hrests (by rw [hrowip, hip]; rfl)
      rw [hvmid, hrowip] at hplaced
      rw [hp]
      exact hplaced
    | edit hw he h =>
      subst h
      cases he with
      | metadata =>
        rw [hkept hw (.inl hs)]
        exact ha.reached hw hs hd hr
      | _ => cases hs

theorem View.Addressed.init (hi : AInitial t) : t.view.Addressed := by
  have hvms : ∀ v, t.view.vms v = none := fun v => by simp [Abs.view, hi.vms]
  have hdrew : ∀ {n g k}, t.view.pve.find n = some g → ¬ g.Drew k := by
    intro n g k hg hk
    have hmem : g ∈ t.shared.pve.guests := List.mem_of_find?_eq_some hg
    obtain ⟨h₁, h₂⟩ := hi.undrawn g hmem k
    rcases hk with hk | hk
    · exact h₁ hk
    · exact h₂ hk
  have hnone : ∀ {v x}, t.view.vms v ≠ some x := by
    intro v x hx
    rw [hvms v] at hx
    cases hx
  refine ⟨⟨fun hg hk => absurd hk (hdrew hg), fun hg _ hk => absurd hk (hdrew hg), fun hg hid => ?_⟩,
    .inl hvms, fun hx => absurd hx.row hnone, fun hx => absurd hx hnone,
    fun hw => absurd hw hi.no_exec, fun hw => absurd hw hi.no_exec, fun hw => absurd hw hi.no_exec⟩
  obtain ⟨k, hk⟩ := hid
  exact absurd (.inr hk) (hdrew hg)

/-- What the addresses rest on: which guests are whose, what the agents have told, and what the jobs
know of their guests. -/
structure View.Located (m : View) : Prop where
  owned : m.Owned
  backed : m.Backed
  latest : m.Latest
  told : m.Told
  sure : m.Sure
  tracked : Tracked m.pve m.hist
  addressed : m.Addressed

theorem View.Located.step (h : t.view.Located) (hb : Base t.view) (hm : Move t.view l t'.view)
    (hok : Identified t.shared l t'.shared) : t'.view.Located := by
  have htold : t'.view.Told := h.told.step h.latest hb h.owned h.backed hm hok.attended
  have hsure : t.view.Sure := h.sure
  exact { owned := h.owned.step hb hm hok.attended.exclusive
          backed := h.backed.step hb hm
          latest := h.latest.step hb hm
          told := htold
          sure := hsure.step hb hm hok.upheld
          tracked := h.tracked.step hm fun w node n ip i hsent hip =>
            hok.network.agent _ _ node n i.out ip hsent.label hip
          addressed := h.addressed.step h.tracked hsure htold hb h.owned h.backed hm hok }

theorem View.Located.init (hi : AInitial t) : t.view.Located where
  owned := View.Owned.init hi
  backed := View.Backed.init hi
  latest := View.Latest.init hi
  told := View.Told.init hi
  sure hw := absurd hw hi.no_exec
  tracked := Tracked.init hi
  addressed := View.Addressed.init hi

end Run

/-- The live, running and ready records. -/
def Shared.exposed (s : Shared) : List (VmId × Option String) :=
  (List.range s.db.vms.next).filterMap fun v => (s.db.vms.get v).bind fun vm =>
    if vm.deletedAt = none ∧ vm.status = .running ∧ vm.sshStatus = .ready then some (v, vm.ipAddress)
    else none

namespace Scenario

/-- Two VMs are created one after the other and checked. -/
def pair (first second : List Choice) : List Choice :=
  startup [] 0 ++ create 0 (body "a" named_a) 100 ++ clone "0" 100 ++ first ++ check ++
    create 1 (body "b" named_b) 101 ++ clone "1" 101 ++ second ++ check

end Scenario

open Scenario in
def identified : List Choice :=
  pair (boot "0" 100 "10.0.0.5" ++ identify "0" "10.0.0.5" "10.0.0.6")
    (boot "1" 101 "10.0.0.5" ++ identify "1" "10.0.0.5" "10.0.0.7")

end Clusteration
