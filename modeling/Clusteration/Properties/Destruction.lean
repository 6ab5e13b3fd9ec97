import Clusteration.Invariants.Guests
import Clusteration.Properties.JobLife

open Transition

namespace Clusteration

def Ev.isCall : Ev → Bool
  | .call _ _ _ => true
  | _ => false

/-- The last state-changing request in the history is the destruction of guest `n` for `c`. -/
def Destroying (hist : List Ev) (c : Caller) (n : Int) : Prop :=
  ∃ node g, hist.find? Ev.isCall = some (.call (some c) (.destroy node n) g)

/-- While the guest of a record in `deleting` exists, `resolve_vm_node` does not miss it in the
listing, and the task of its destruction is not reported as ended without an exit status. -/
def Cond.candid : Cond := fun s l _ => ∀ c req out, l = .await .worker (.http (some c) req) out →
  ∀ vm n, s.db.vms.get c.vm = some vm → vm.status = .deleting → vm.proxmoxVmid = some n →
    s.pve.find n ≠ none → (req = .clusterResources → missing n out = false) ∧
      ∀ node u, req = .taskStatus node u → Destroying s.hist c n → exitOf out ≠ some ""

/-- In this step the job marks its record as deleted, or clears the VMID, which was `n`. -/
structure GivesUp (s s' : Shared) (j : JobId) (n : Int) : Prop where
  step : ∃ job v vm vm', s.db.jobs.get j = some job ∧ job.status = .running ∧ job.vmId = some v ∧
    s.db.vms.get v = some vm ∧ vm.proxmoxVmid = some n ∧ vm.status ≠ .deleted ∧
      s'.db.vms.get v = some vm' ∧ (vm'.status = .deleted ∨ vm'.proxmoxVmid = none)

/-- Guest `n` exists in every state of some run from `s` to `s'`. -/
structure Present (n : Int) (s s' : Sys) : Prop where
  first : s.shared.pve.find n ≠ none
  path : Path Step (fun _ _ s' => s'.shared.pve.find n ≠ none) s s'

theorem Present.last {n : Int} {s s' : Sys} (h : Present n s s') : s'.shared.pve.find n ≠ none := by
  obtain ⟨hf, hp⟩ := h
  cases hp with
  | refl => exact hf
  | next _ _ hok => exact hok

/-- What the job at work takes for gone is gone. -/
structure Exec.Sworn (w : Exec) (pve : Cluster) (hist : List Ev) : Prop where
  gone : w.stage = .gone → ∀ n, w.x.vmid = some n → pve.find n = none
  destroying : ∀ n u, w.stage = .destroying n u → Destroying hist w.caller n ∧
    (pve.tasks.lookup u = some true → pve.find n = none)

def View.Sworn (m : View) : Prop := ∀ w, m.worker = .exec w → w.Sworn m.pve m.hist

theorem Exec.Sworn.of_stage {w : Exec} {pve : Cluster} {hist : List Ev} (hg : w.stage ≠ .gone)
    (hd : ∀ n u, w.stage ≠ .destroying n u) : w.Sworn pve hist :=
  ⟨fun h => absurd h hg, fun n u h => absurd h (hd n u)⟩

theorem Calls.stage_ne {w : Exec} {req : Req} (h : Calls w req) :
    w.stage ≠ .gone ∧ ∀ n u, w.stage ≠ .destroying n u := by
  cases h with
  | power _ h _ _ | stop _ h _ | destroy _ h _ | clone _ _ _ h | config _ _ h | resize _ _ _ h
  | start _ h | exec _ _ h | reboot _ h => simp [h]

theorem Edit.sworn {w : Exec} {stage : Stage} {x : Core} {target : Option Int}
    {pve : Cluster} {hist : List Ev} (h : Edit w stage x target) (hw : w.Sworn pve hist) :
    Exec.Sworn { w with stage, x, target } pve hist := by
  cases h with
  | metadata => exact ⟨hw.gone, hw.destroying⟩
  | address hs => exact .of_stage (by simp) (by simp)
  | _ => exact .of_stage (by simp) (by simp)

section Step
variable {t t' : Abs} {l : Label}

theorem find_isCall_append {evs hist : List Ev} (h : ∀ ev ∈ evs, ev.Quiet) :
    (evs ++ hist).find? Ev.isCall = hist.find? Ev.isCall := by
  have hnone : evs.find? Ev.isCall = none := by
    rw [List.find?_eq_none]
    intro ev hev
    have hq := h ev hev
    cases ev with
    | time _ => simp [Ev.isCall]
    | _ => exact hq.elim
  rw [List.find?_append, hnone, Option.none_or]

/-- The row of a record the job at work has put in `deleting`. -/
theorem Base.deleting_row (hb : Base t.view) {w : Exec} (hw : t.view.worker = .exec w)
    (hs : w.x.status = .deleting) {n : Int} (hn : w.x.vmid = some n) :
    ∃ vm, t.shared.db.vms.get w.caller.vm = some vm ∧ vm.status = .deleting ∧ vm.proxmoxVmid = some n := by
  obtain ⟨_, _, row, hrow, hag⟩ := hb.exec hw
  obtain ⟨vm, hvm, rfl⟩ := Option.map_eq_some_iff.mp hrow
  exact ⟨vm, hvm, hag.status.trans hs, hag.vmid.trans hn⟩

theorem View.Sworn.step (ht : t.view.Sworn) (hb : Base t.view) (hm : Move t.view l t'.view)
    (hok : Cond.candid t.shared l t'.shared) : t'.view.Sworn := by
  generalize hm' : t'.view = m' at hm ⊢
  intro w' hw'
  cases hm with
  | observe evs hq =>
    obtain ⟨hg, hd⟩ := ht w' hw'
    refine ⟨hg, fun n u hs => ?_⟩
    obtain ⟨⟨node, g, hcall⟩, htask⟩ := hd n u hs
    exact ⟨⟨node, g, by rw [find_isCall_append hq, hcall]⟩, htask⟩
  | enter _ _ _ =>
    cases hw'
    exact .of_stage (by simp [Exec.begin]) (by simp [Exec.begin])
  | @http w req i stage pve _ hw hcall hserve =>
    cases hw'
    have hw₀ := (hb.exec hw).ok
    rcases hcall with ⟨hc, rfl⟩ | hl
    · exact .of_stage hc.stage_ne.1 hc.stage_ne.2
    · cases hl with
      | nextId _ _ | powering _ _ _ _ _ | powered _ _ _ | heard _ _ _ _ _ | starting _ _ _
      | started _ _ _ | unaccepted _ _ _ _ _ | broken _ _ _ _ | named _ _ _ => exact .of_stage (by simp) (by simp)
      | missing hs hn hmiss =>
        refine ⟨fun _ n hn' => ?_, by simp⟩
        obtain ⟨rfl, _⟩ := serve_get rfl hserve
        simp only [Exec.Ok, hs] at hw₀
        obtain ⟨vm, hvm, hst, hvmid⟩ := hb.deleting_row hw hw₀.2.1 hn'
        by_contra hfind
        have := (hok _ _ _ rfl vm n hvm hst hvmid hfind).1 rfl
        rw [Option.some.inj (hn'.symm.trans hn)] at this
        rw [this] at hmiss
        cases hmiss
      | @accepted _ n u node hs hn hu =>
        refine ⟨by simp, fun n' u' hst => ?_⟩
        obtain ⟨rfl, rfl⟩ := Stage.destroying.inj hst
        have hcall : Destroying (httpEvents t.view.pve (some w.caller) (.destroy node n) i ++ t.view.hist)
            w.caller n := ⟨node, t.view.pve.find n, by simp [httpEvents, Req.isGet, Ev.isCall, Req.target]⟩
        refine ⟨hcall, fun htask => ?_⟩
        have htasks := serve_upid hserve rfl hu
        have happ : i.applied = true := by simpa [htasks] using htask
        cases serve_served hserve with
        | kept h _ _ => simp [HttpIn.effect, happ, Req.configures] at h
        | removed h _ _ _ hf =>
          cases h
          simp [hf]
        | booted h _ _ _ _ => simp [HttpIn.boots, HttpIn.effect, happ, Req.boots] at h
        | cloned h _ _ _ _ | renewed h _ _ _ _ | halted h _ _ _ _ => cases h
      | @destroyed _ n u node hs hexit =>
        refine ⟨fun _ n' hn' => ?_, by simp⟩
        obtain ⟨rfl, hhonest⟩ := serve_get rfl hserve
        simp only [Exec.Ok, hs] at hw₀
        obtain rfl : n = n' := Option.some.inj (hw₀.2.2.1.symm.trans hn')
        obtain ⟨hcall, htask⟩ := (ht w hw).destroying n u hs
        rcases hexit with hexit | hexit
        · obtain ⟨vm, hvm, hst, hvmid⟩ := hb.deleting_row hw hw₀.2.1 hn'
          by_contra hfind
          exact (hok _ _ _ rfl vm n hvm hst hvmid hfind).2 node u rfl hcall hexit
        · refine htask ?_
          simpa [Cluster.honest, hexit] using hhonest
  | ssh _ _ _ _ _ =>
    cases hw'
    exact .of_stage (by simp) (by simp)
  | clock _ _ hl =>
    cases hw'
    cases hl <;> exact .of_stage (by simp) (by simp)
  | edit _ hw _ he =>
    cases hw'
    exact he.sworn (ht _ hw)
  | crash _ | restart _ _ | get _ _ _ | job _ _ _ | vm _ _ _ _ | fail _ _ _ _ _ | follow _ _ _
  | followPut _ _ => cases hw'
  | finish _ _ _ =>
    simp only at hw'
    split at hw' <;> cases hw'
  | _ => exact ht w' hw'

theorem AReachable.sworn (h : AReachable .candid t) : t.view.Sworn := by
  refine h.invariant (P := View.Sworn) (fun t hi => ?_) fun _ _ _ hb _ ht hm hok => ht.step hb hm hok
  exact fun w hw => (hi.no_exec hw).elim

end Step

/-- Only a job that takes its guest for gone gives it up. -/
theorem Edit.gives_up {w : Exec} {stage : Stage} {x : Core} {target : Option Int}
    (h : Edit w stage x target) (hx : x.status = .deleted ∨ x.vmid = none) :
    w.x.status = .deleted ∨ w.x.vmid = none ∨ w.Gone := by
  cases h with
  | deleted _ hg _ | cleared hg _ => exact .inr (.inr hg)
  | metadata | target _ | targetLost _ | noAddress _ | address _ | ready _ | sshReady _ | sshFailed _ _
  | prepare _ => exact hx.imp id .inl
  | power _ hop _ => exact hx.imp (fun h => absurd h (powerOp_ne_deleted hop).1) .inl
  | stopped _ hop _ | addressed _ hop | unheard _ hop =>
    exact hx.imp (fun h => absurd h (powerOp_ne_deleted hop).2) .inl
  | delete _ _ | wipe _ _ | booted _ => simp_all
  | adopt _ => simp at hx

theorem AReachable.given_up {t t' : Abs} {l : Label} (h : AReachable .candid t) (hs : AStep t l t')
    {j : JobId} {n : Int} (hg : GivesUp t.shared t'.shared j n) : t.shared.pve.find n = none := by
  have hb := h.base
  obtain ⟨job, v, vm, vm', _, _, _, hvm, hn, hst, hvm', hx⟩ := hg.step
  have hv : t.view.vms v = some vm.core := congrArg (Option.map VM.core) hvm
  have hv' : t'.view.vms v = some vm'.core := congrArg (Option.map VM.core) hvm'
  have hsame : ∀ {x : Core}, t.view.vms v = some x → x = vm.core :=
    fun h => Option.some.inj (h.symm.trans hv)
  have hkept : vm'.core.status ≠ .deleted → vm'.core.vmid ≠ none → t.shared.pve.find n = none :=
    fun hs hn => (hx.elim hs hn).elim
  cases (hb.move hs).vms_back hv' with
  | same h =>
    have hcore := hsame h
    exact hkept (by rw [hcore]; exact hst) (by rw [hcore]; simp [hn])
  | @edit w stage y row target hw hwv hrow he _ hx' =>
    obtain rfl := hsame hrow
    obtain ⟨_, _, row', hrow', hag⟩ := hb.exec hw
    obtain rfl := hsame (hwv ▸ hrow')
    have hy : y.status = .deleted ∨ y.vmid = none :=
      hx.imp (congrArg Core.status hx').symm.trans (congrArg Core.vmid hx').symm.trans
    have hwn : w.x.vmid = some n := hag.vmid.symm.trans hn
    rcases he.gives_up hy with hd | hnone | hgone | ⟨_, hnone⟩
    · exact absurd (hag.status.trans hd) hst
    · rw [hwn] at hnone
      cases hnone
    · exact (h.sworn w hw).gone hgone n hwn
    · rw [hwn] at hnone
      cases hnone
  | fail _ _ hrow _ _ _ hx' =>
    obtain rfl := hsame hrow
    exact hkept (by rw [hx']; simp) (by rw [hx']; simp [hn])
  | mark _ _ hrow hx' =>
    obtain rfl := hsame hrow
    exact hkept (by rw [hx']; exact hst) (by rw [hx']; simp [hn])
  | recover hrow _ _ hx' =>
    obtain rfl := hsame hrow
    refine hkept ?_ (by rw [hx']; simp [Core.recovered, hn])
    rw [hx', Core.recovered]
    split
    · simp
    · exact hst
  | create _ _ _ hnone _ =>
    rw [hv] at hnone
    cases hnone

/-- When a job gives up its record's guest, then in any run up to this step there is a state in
which the guest does not exist. -/
theorem given_up_absent {s s' s'' : Sys} {l : Label} (h : Reachable .candid s)
    (hp : Path Step Cond.candid.ok s s') (hs : Step s' l s'') {j : JobId} {n : Int}
    (hg : GivesUp s'.shared s''.shared j n) : ¬ Present n s s' := by
  intro hpresent
  obtain ⟨t, ht, hr⟩ := Reachable.abstract (h.path hp)
  obtain ⟨t', hs', hr'⟩ := hr.step hs
  refine hpresent.last ?_
  rw [hr.shared] at hg ⊢
  rw [hr'.shared] at hg
  exact ht.given_up hs' hg

def Cond.candidCheck (s : Shared) : Label → Bool
  | .await .worker (.http (some c) req) out =>
    (s.db.vms.get c.vm).all fun vm => vm.status ≠ .deleting || vm.proxmoxVmid.all fun n =>
      (s.pve.find n).isNone || match req with
        | .clusterResources => !missing n out
        | .taskStatus _ _ => exitOf out ≠ some ""
        | _ => true
  | _ => true

theorem Cond.candidCheck_sound {s s' : Sys} {l : Label} (h : Cond.candidCheck s.shared l = true) :
    Cond.candid.ok s l s' := by
  rintro c req out rfl vm n hvm hst hn hfind
  have hsome : (s.shared.pve.find n).isNone = false := by
    rwa [Option.isNone_eq_false_iff, Option.isSome_iff_ne_none]
  refine ⟨?_, ?_⟩
  · rintro rfl
    simpa [candidCheck, hvm, hst, hn, hsome] using h
  · rintro node u rfl _
    simpa [candidCheck, hvm, hst, hn, hsome] using h

def givesUpCheck (s s' : Shared) (j : JobId) (n : Int) : Bool :=
  (s.db.jobs.get j).any fun job => job.status = .running && job.vmId.any fun v =>
    ((s.db.vms.get v).any fun vm => vm.proxmoxVmid = some n && vm.status ≠ .deleted) &&
      (s'.db.vms.get v).any fun vm => vm.status = .deleted || vm.proxmoxVmid = none

theorem givesUpCheck_sound {s s' : Shared} {j : JobId} {n : Int} (h : givesUpCheck s s' j n = true) :
    GivesUp s s' j n := by
  simp only [givesUpCheck, Option.any_eq_true, Bool.and_eq_true, Bool.or_eq_true,
    decide_eq_true_eq] at h
  obtain ⟨job, hj, hst, v, hv, ⟨vm, hvm, hn, hne⟩, vm', hvm', hx⟩ := h
  exact ⟨⟨job, v, vm, vm', hj, hst, hv, hvm, hn, hne, hvm', hx⟩⟩

open Scenario in
/-- The creation of a VM fails once the clone is recorded; then the worker begins to delete the VM. -/
def deletionBegun : List Choice :=
  startup [] 0 ++ create 0 (body "a" named_a) 100 ++ clone "0" 100 ++
    unconfigured ++ delete 1 0 "a" ++ deleting

open Scenario in
/-- The guest is destroyed. -/
def destroyed : List Choice := destroying ++ worker [.none, .nat 0, stopped, .nat 0]

/-- The run is evaluated once. -/
theorem destroyed_ends : ((Scenario.panel.run (fun s l _ => Cond.candidCheck s.shared l)
    deletionBegun).any fun s => (s.run (fun s l _ => Cond.candidCheck s.shared l) destroyed).any fun s' =>
      (s'.step (.run .worker .none)).any fun x => givesUpCheck s'.shared x.2.shared 1 100) = true := by
  decide +kernel

theorem deletionBegun_runs : (Scenario.panel.run (fun s l _ => Cond.candidCheck s.shared l)
    deletionBegun).isSome = true := Option.isSome_of_any destroyed_ends

theorem destroyed_runs : (((Scenario.panel.run (fun s l _ => Cond.candidCheck s.shared l)
    deletionBegun).get deletionBegun_runs).run (fun s l _ => Cond.candidCheck s.shared l)
      destroyed).isSome = true :=
  Option.isSome_of_any (Option.get_of_any_eq_true _ _ destroyed_ends)

theorem destroyed_commits : ((((Scenario.panel.run (fun s l _ => Cond.candidCheck s.shared l)
    deletionBegun).get deletionBegun_runs).run (fun s l _ => Cond.candidCheck s.shared l)
      destroyed).get destroyed_runs |>.step (.run .worker .none)).isSome = true :=
  Option.isSome_of_any
    (Option.get_of_any_eq_true _ _ (Option.get_of_any_eq_true _ _ destroyed_ends))

/-- The deletion that destroys its guest. -/
theorem given_up_absent_destroyed :
    let s := (Scenario.panel.run (fun s l _ => Cond.candidCheck s.shared l) deletionBegun).get
      deletionBegun_runs
    let s' := (s.run (fun s l _ => Cond.candidCheck s.shared l) destroyed).get destroyed_runs
    let s'' := ((s'.step (.run .worker .none)).get destroyed_commits).2
    GivesUp s'.shared s''.shared 1 100 ∧ ¬ Present 100 s s' := by
  intro s s' s''
  have hreach : Reachable .candid s :=
    Scenario.reached (fun _ _ _ h => Cond.candidCheck_sound h) deletionBegun_runs
  have hpath : Path Step Cond.candid.ok s s' :=
    run_path (fun _ _ _ h => Cond.candidCheck_sound h) (Option.some_get destroyed_runs).symm (.refl s)
  have hstep : Step s' ((s'.step (.run .worker .none)).get destroyed_commits).1 s'' :=
    step_sound (Option.some_get destroyed_commits).symm
  have hg : GivesUp s'.shared s''.shared 1 100 := givesUpCheck_sound
    (Option.get_of_any_eq_true _ _
      (Option.get_of_any_eq_true _ _ (Option.get_of_any_eq_true _ _ destroyed_ends)))
  exact ⟨hg, given_up_absent hreach hpath hstep hg⟩

open Scenario in
/-- The guest's node does not answer for it, and the listing comes without data. -/
def unlisted : List Choice := worker [refusal, answer .null false, .nat 0]

theorem given_up_present : ¬ ∀ s s' l s'' j row n, Reachable .any s →
    s.shared.hist.head? = some (.enter j row) → Path Step Cond.any.ok s s' → Step s' l s'' →
      GivesUp s'.shared s''.shared j n → ¬ Present n s s' := by
  intro h
  have hends : ((Scenario.panel.run (fun _ _ _ => true) deletionBegun).any fun s =>
      s.shared.hist.head?.any (Ev.enters 1) && (s.shared.pve.find 100).isSome &&
        (s.run (fun _ _ s' => (s'.shared.pve.find 100).isSome) unlisted).any fun s' =>
          (s'.step (.run .worker .none)).any fun x => givesUpCheck s'.shared x.2.shared 1 100) =
      true := by decide +kernel
  obtain ⟨s, hs, hends⟩ := (Option.any_eq_true _ _).mp hends
  rw [Bool.and_eq_true, Bool.and_eq_true] at hends
  obtain ⟨⟨hbegun, hthere⟩, hends⟩ := hends
  obtain ⟨s', hs', hends⟩ := (Option.any_eq_true _ _).mp hends
  obtain ⟨⟨l, s''⟩, hs'', hg⟩ := (Option.any_eq_true _ _).mp hends
  have hreach : Reachable .any s :=
    @run_reachable _ Cond.any (fun _ _ _ _ => trivial) _ _ _ (.start Scenario.panel_initial) hs
  have hpath : Path Step Cond.any.ok s s' :=
    @run_path _ Cond.any (fun _ _ _ _ => trivial) _ _ _ hs' _ (.refl s)
  have hpresent : Present 100 s s' := by
    refine ⟨Option.isSome_iff_ne_none.mp hthere, ?_⟩
    exact @run_path _ (fun _ _ s' => s'.pve.find 100 ≠ none)
      (fun _ _ _ hok => Option.isSome_iff_ne_none.mp hok) _ _ _ hs' _ (.refl s)
  obtain ⟨ev, hev, hen⟩ := (Option.any_eq_true _ _).mp hbegun
  cases ev with
  | enter j row =>
    obtain rfl : j = 1 := of_decide_eq_true hen
    exact h s s' l s'' 1 row 100 hreach hev hpath (step_sound hs'') (givesUpCheck_sound hg) hpresent
  | _ => cases hen

end Clusteration
