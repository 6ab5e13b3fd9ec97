import Clusteration.Front.Phases
import Clusteration.Properties.Addresses
import Clusteration.Properties.Slugs

open Async Transition

namespace Clusteration

/-- The guest of the VMID has reported the address since its last boot. -/
def Vouched (hist : List Ev) (vmid : Option Int) (ip : Option String) : Prop :=
  ∃ n a, vmid = some n ∧ ip = some a ∧ Ev.report n a ∈ sinceBoot hist n

/-- The guest of a ready VM has reported its address since it booted. -/
structure View.Heard (m : View) : Prop where
  rows : ∀ {v x}, m.vms v = some x → x.Exposed → Vouched m.hist x.vmid x.ip
  reached : ∀ {w}, m.worker = .exec w → w.stage = .reached → w.x.deletedAt = none →
    w.x.status = .running → Vouched m.hist w.x.vmid w.x.ip
  heard : ∀ {w ip}, m.worker = .exec w → w.stage = .heard ip → Vouched m.hist w.x.vmid (some ip)

section Step
variable {m m' : View} {l : Label}

theorem Vouched.step {vmid : Option Int} {ip : Option String} (h : Vouched m.hist vmid ip)
    (hm : Move m l m') (hno : ∀ n w req i g, vmid = some n → Sent m l m' w req i →
      req.isGet = false → req.target = some n → m.pve.find n ≠ some g) :
    Vouched m'.hist vmid ip := by
  obtain ⟨n, a, hn, ha, hrep⟩ := h
  exact ⟨n, a, hn, ha, hm.sinceBoot_kept (fun w req i g => hno n w req i g hn) hrep⟩

/-- A job that waits to commit what it has learnt boots nothing. -/
theorem Vouched.busy {vmid : Option Int} {ip : Option String} (h : Vouched m.hist vmid ip)
    (hm : Move m l m') {w : Exec} (hw : m.worker = .exec w)
    (hs : w.stage = .reached ∨ ∃ ip, w.stage = .heard ip) : Vouched m'.hist vmid ip := by
  apply h.step hm
  intro n w' req i g _ hsent _ _ _
  obtain rfl := WorkerPhase.exec.inj (hw.symm.trans hsent.work)
  rcases hs with hs | ⟨ip', hs⟩
  · exact hsent.busy.1 hs
  · exact hsent.busy.2 ip' hs

/-- A job that comes to hear an address does so in the step that writes the report. -/
theorem Move.hears (hm : Move m l m') {w : Exec} {ip : String} (hw : m'.worker = .exec w)
    (hs : w.stage = .heard ip) : m.worker = .exec w ∨
      (∃ w₀, m.worker = .exec w₀ ∧ w₀.stage = .heard ip ∧ w.x = w₀.x) ∨
      Vouched m'.hist w.x.vmid (some ip) := by
  cases hm with
  | @http w₀ req i stage pve _ hw₀ hcall _ =>
    cases hw
    rcases hcall with ⟨_, rfl⟩ | hl
    · exact .inr (.inl ⟨w₀, hw₀, hs, rfl⟩)
    · cases hs
      cases hl with
      | @heard _ n _ node _ _ hn hip =>
        refine .inr (.inr ⟨n, ip, hn, rfl, ?_⟩)
        simp [httpEvents, hip, sinceBoot, Ev.isBoot]
  | edit _ hw₀ _ he =>
    cases hw
    cases he with
    | metadata => exact .inr (.inl ⟨_, hw₀, hs, rfl⟩)
    | _ => cases hs
  | ssh _ _ _ _ _ | enter _ _ _ =>
    cases hw
    cases hs
  | finish _ _ _ =>
    dsimp only at hw
    split at hw <;> cases hw
  | clock _ _ hl =>
    cases hw
    rcases hl.clock_cases with ⟨_, _, rfl⟩ | ⟨_, _, _, rfl, _⟩ <;> cases hs
  | crash _ | restart _ _ | get _ _ _ | job _ _ _ | vm _ _ _ _ | fail _ _ _ _ _ | follow _ _ _
  | followPut _ _ => cases hw
  | _ => exact .inl hw

end Step

section Run
variable {t t' : Abs} {l : Label}

theorem View.Heard.step (hh : t.view.Heard) (htold : t.view.Told) (hb : Base t.view)
    (ho : t.view.Owned) (hk : t.view.Backed) (hm : Move t.view l t'.view) : t'.view.Heard := by
  refine ⟨fun {v x'} hx' he => ?_, fun {w'} hw' hs hd hr => ?_, fun {w' ip} hw' hs => ?_⟩
  · cases hm.exposed_back hb hk hx' he with
    | same hx hex hvmid hip =>
      rw [hvmid, hip]
      apply (hh.rows hx hex).step hm
      intro n w req i g hn hsent hget ht hg
      exact hsent.not_exposed ho hb hget ht hg hx hn hex
    | checked hw _ hs hlive hrunning hvmid hip =>
      rw [hvmid, hip]
      exact (hh.reached hw hs hlive hrunning).busy hm hw (.inl hs)
    | rebooted hw _ hs _ _ _ _ _ hvmid hip =>
      rw [hvmid, hip]
      exact (hh.heard hw hs).busy hm hw (.inr ⟨_, hs⟩)
  · cases hm.exec_back hw' with
    | same hw => exact (hh.reached hw hs hd hr).busy hm hw (.inl hs)
    | enter _ _ _ h | allocated _ _ _ _ _ _ _ h =>
      rw [h] at hs
      cases hs
    | learn _ _ _ _ hne h =>
      rw [h] at hs
      exact absurd hs hne
    | edit hw he h =>
      subst h
      cases he with
      | metadata => exact (hh.reached hw hs hd hr).busy hm hw (.inl hs)
      | _ => cases hs
    | @reached w ip hw _ htype hip _ hist _ h =>
      subst h
      obtain ⟨n, hn⟩ := Option.isSome_iff_exists.mp ((hk.work hw).status (by rw [hr]; rfl))
      have hrep := htold.checked hb hw htype hd hr hn hip
      rw [hist]
      exact ⟨n, ip, hn, hip, List.mem_cons_of_mem _ hrep⟩
  · rcases hm.hears hw' hs with hw | ⟨w, hw, hstage, hx⟩ | hrep
    · exact (hh.heard hw hs).busy hm hw (.inr ⟨ip, hs⟩)
    · rw [hx]
      exact (hh.heard hw hstage).busy hm hw (.inr ⟨ip, hstage⟩)
    · exact hrep

theorem View.Heard.init (hi : AInitial t) : t.view.Heard := by
  refine ⟨fun {v x} hx => ?_, fun {w} hw => ?_, fun {w ip} hw => ?_⟩
  · simp [Abs.view, hi.vms] at hx
  · exact (hi.no_exec hw).elim
  · exact (hi.no_exec hw).elim

end Run

/-- Since a guest booted with a machine-id of its own, no other guest has reported its address. -/
def Leased (c : Cluster) (hist : List Ev) : Prop :=
  ∀ n g k, c.find n = some g → g.running = true → g.Identified →
    Ev.report k g.addr ∈ sinceBoot hist n → k = n

section Run
variable {t t' : Abs} {l : Label}

theorem Leased.step (h : Leased t.view.pve t.view.hist) (hids : t'.view.pve.Distinct)
    (hm : Move t.view l t'.view) (hnet : Network t.shared l t'.shared) :
    Leased t'.view.pve t'.view.hist := by
  intro n g' k hg hrun hid hrep
  rcases hm.tells with ⟨hpve, evs, hist, haside⟩ | ⟨w, req, i, hsent⟩
  · rw [hpve] at hg
    rw [hist] at hrep
    rcases mem_takeWhile_append hrep with hnew | hold
    · cases haside _ hnew
    · exact h n g' k hg hrun hid hold
  · rw [hsent.hist] at hrep
    cases (serve_served hsent.serve).boot_back hg with
    | @kept g hm _ hboot hpower _ =>
      obtain ⟨hrun₀, haddr⟩ := hpower hrun
      rcases mem_takeWhile_append hrep with hnew | hold
      · -- the agent has just named this address: both guests run, with one machine-id
        cases mem_httpEvents hnew with
        | @report node _ _ hreq hip =>
          subst hreq
          obtain ⟨gk, hgk, hrunk, haddrk⟩ := hnet.agent _ _ node k i.out _ hsent.label hip
          obtain ⟨hsame, _⟩ := serve_get rfl hsent.serve
          have hgk' : t'.view.pve.find k = some gk := by rw [hsame]; exact hgk
          have hboots := (hnet.lease k n gk g' hgk' hg hrunk hrun).mp haddrk
          obtain ⟨d, hd⟩ := hid
          exact hids.unique hgk' hg (.inr (hboots.trans hd)) (.inr hd)
      · have hid₀ : g.Identified := hid.imp fun d hd => hboot.trans hd
        exact h n g k hm hrun₀ hid₀ (haddr ▸ hold)
    | booted hb ht _ _ =>
      rw [sinceBoot_booted hb ht] at hrep
      cases hrep
    | cloned _ hoff =>
      rw [hoff] at hrun
      cases hrun

theorem AReachable.leased (h : AReachable .identified t) :
    t.view.Located ∧ t.view.Heard ∧ Leased t.view.pve t.view.hist := by
  apply h.invariant (P := fun m => m.Located ∧ m.Heard ∧ Leased m.pve m.hist)
  · intro t hi
    refine ⟨View.Located.init hi, View.Heard.init hi, ?_⟩
    have hist : t.view.hist = [] := hi.hist
    intro n g k _ _ _ hrep
    rw [hist] at hrep
    cases hrep
  · rintro t l t' hb _ ⟨hl, hh, hleased⟩ hm hok
    have hl' := hl.step hb hm hok
    exact ⟨hl', hh.step hl.told hb hl.owned hl.backed hm, hleased.step hl'.addressed.ids hm hok.network⟩

end Run

/-- What goes to the address goes to the guest of VM `v`: the VM is live, its guest runs, and no guest
of another live VM has reported the address since that guest did. -/
def Shared.Serves (s : Shared) (v : VmId) (ip : String) : Prop :=
  ∃ vm n g newer older, s.db.vms.get v = some vm ∧ vm.deletedAt = none ∧ vm.proxmoxVmid = some n ∧
    s.pve.find n = some g ∧ g.running = true ∧ s.hist = newer ++ .report n ip :: older ∧
    ∀ w vm' m, w ≠ v → s.db.vms.get w = some vm' → vm'.deletedAt = none →
      vm'.proxmoxVmid = some m → Ev.report m ip ∉ newer

end Clusteration

namespace Clusteration.Front

/-- The panel's steps are those of a network that keeps its running guests apart. -/
def Cond.environment : Cond := fun s l s' =>
  ∀ l', l = .panel l' → Clusteration.Cond.identified.ok s.panel l' s'.panel

/-- Besides: a lookup finds the VM it has an address for running and ready for a terminal. -/
structure Cond.current (s : Sys) (l : Label) (s' : Sys) : Prop where
  panel : Cond.environment s l s'
  ready : ∀ i v vm slug row, l = .await i (.getVM v) (some vm) →
    ⟨i, .selectEnabledSlug slug, some row⟩ ∈ s.hist → vm.deletedAt = none →
      vm.ipAddress.getD "" ≠ "" → vm.status = .running ∧ vm.sshStatus = .ready

/-- A request that holds an exposure has found it by a slug. -/
def Selected (s : Sys) (φs : List Phase) : Prop :=
  ∀ (i : Nat) row, φs[i]? = some (.exposed row) →
    ∃ slug, (⟨i, .selectEnabledSlug slug, some row⟩ : Entry) ∈ s.hist

theorem Selected.step {s s' : Sys} {φs φs' : List Phase} {l : Label} (h : Selected s φs)
    (hp : PStep s φs l s' φs') : Selected s' φs' := by
  intro i row hi
  cases hp with
  | panel _ _ => exact h i row hi
  | crash _ =>
    rw [List.getElem?_map] at hi
    obtain ⟨_, _, hover⟩ := Option.map_eq_some_iff.mp hi
    cases hover
  | receive r =>
    rw [List.getElem?_append] at hi
    split at hi
    · exact h i row hi
    · have hmem := List.mem_of_getElem? hi
      cases List.mem_singleton.mp hmem
  | @await j e a sh requests φ φ' hφ ht hact =>
    rw [List.getElem?_set] at hi
    have hkept : φs[i]? = some (.exposed row) →
        ∃ slug, (⟨i, .selectEnabledSlug slug, some row⟩ : Entry) ∈ ⟨j, e, a⟩ :: s.hist := by
      intro hi
      obtain ⟨slug, hmem⟩ := h i row hi
      exact ⟨slug, List.mem_cons_of_mem _ hmem⟩
    split at hi
    · next heq =>
      subst heq
      split at hi
      · cases hi
        cases ht with
        | aside _ _ => exact hkept hφ
        | exposed => exact ⟨_, List.mem_cons_self⟩
      · cases hi
    · exact hkept hi

/-- Only a lookup that has read a VM answers with an upstream. -/
theorem Phase.Returns.looked {φ : Phase} {ds : List String} {dial : String}
    (h : φ.Returns (.ok (.upstream ds))) (hdial : dial ∈ ds) :
    ∃ row vm, φ = .looked row vm ∧ ds = dials row vm := by
  have hnone : (∀ ds', (.ok (.upstream ds) : Except Exc Reply) = .ok (.upstream ds') → ds' = []) →
      False := by
    intro h
    rw [h ds rfl] at hdial
    cases hdial
  cases φ with
  | refused => cases h
  | looked row vm =>
    cases h
    exact ⟨row, vm, rfl, rfl⟩
  | _ => exact (hnone h.2).elim

namespace Trials
open Scenario

end Trials

/-- The exposure a lookup has found. -/
def Entry.exposure : Entry → Option VMExposure
  | ⟨_, .selectEnabledSlug _, row⟩ => row
  | _ => none

end Clusteration.Front
