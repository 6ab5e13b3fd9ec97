import Clusteration.Invariants.Guests
import Clusteration.Properties.Deletion

open Transition

namespace Clusteration

/-- `/cluster/nextid` names no VMID that a live record of another VM still holds, and no job
begins on a deleted record while a guest of another record has its VMID. -/
structure Exclusive (s : Shared) (l : Label) (s' : Shared) : Prop where
  allocated : ∀ c out n, l = .await .worker (.http (some c) .nextId) out → nextIdOf out = some n →
    ∀ v vm, s.db.vms.get v = some vm → vm.deletedAt = none → vm.proxmoxVmid = some n → v = c.vm
  begun : ∀ j job vm, Begins s s' j job vm → job.type ≠ .sshReadinessCheck → vm.deletedAt ≠ none →
    ∀ n g, vm.proxmoxVmid = some n → s.pve.find n = some g → g.origin.map Caller.vm = job.vmId

def Cond.exclusive : Cond := Exclusive

/-- The VMID `n` names a guest that was not cloned for the record `v`. -/
def View.Alien (m : View) (v : VmId) (n : Int) : Prop :=
  ∃ g, m.pve.find n = some g ∧ g.origin.map Caller.vm ≠ some v

/-- The VMID `n` is in the hands of `v`: its live record holds it, or the recovery would hand it
over, or its job has been told to use it. -/
inductive View.Claims (m : View) (v : VmId) (n : Int) : Prop
  | record {x : Core} : m.vms v = some x → x.deletedAt = none → x.vmid = some n → View.Claims m v n
  | target {i : JobId} {c : JobCore} : m.jobs i = some c → c.status = .running → c.vmId = some v →
      c.target = some n → View.Claims m v n
  | given {w : Exec} : m.worker = .exec w → w.v = v →
      w.stage = .allocated n ∨ w.stage = .lost n → View.Claims m v n

structure View.Owned (m : View) : Prop where
  sole : ∀ {v v' n}, m.Claims v n → m.Claims v' n → v = v'
  own : ∀ {v n}, m.Claims v n → ¬ m.Alien v n
  work : ∀ {w n}, m.worker = .exec w → w.type ≠ .sshReadinessCheck → w.x.vmid = some n →
    ¬ m.Alien w.v n
  calls : ∀ {c req g}, Ev.call (some c) req (some g) ∈ m.hist → g.origin.map Caller.vm = some c.vm

section Step
variable {m m' : View} {l : Label}

/-- The target of a request a job sends to an existing guest. -/
theorem Sent.target {w : Exec} {req : Req} {i : HttpIn} (h : Sent m l m' w req i) (hw : w.Ok)
    (hg : req.isGet = false) {n : Int} (ht : req.target = some n) :
    w.x.vmid = some n ∧ w.type ≠ .sshReadinessCheck := by
  have hc := h.calls hg
  refine ⟨?_, hc.ne_ssh hw⟩
  cases hc with
  | power _ _ _ hn | stop _ _ hn | destroy _ _ hn =>
    cases ht
    exact hn
  | clone _ _ _ _ => cases ht
  | config _ _ hs | resize _ _ _ hs | start _ hs | exec _ _ hs | reboot _ hs =>
    cases ht
    simp only [Exec.Ok, hs] at hw
    exact hw.2.2.1

theorem View.Alien.back {v : VmId} {n : Int} (h : m'.Alien v n) (hm : Move m l m') :
    m.Alien v n ∨ ∃ w stage, m.worker = .exec w ∧ m'.worker = .exec { w with stage } ∧
      w.stage = .allocated n ∧ w.v ≠ v := by
  obtain ⟨g, hg, hv⟩ := h
  cases hm.find_back hg with
  | old hg' ho => exact .inl ⟨_, hg', ho ▸ hv⟩
  | @cloned w stage hw hw' hs _ ho _ _ =>
    refine .inr ⟨w, stage, hw, hw', hs, ?_⟩
    rintro rfl
    exact hv (by rw [ho]; rfl)

/-- A claim after a step was one before, or the job at work has just been given a free VMID. -/
theorem View.Claims.back {v : VmId} {n : Int} (h : m'.Claims v n) (hb : Base m) (hm : Move m l m') :
    m.Claims v n ∨ ∃ w out, m.worker = .exec w ∧ w.v = v ∧ w.stage = .prepared ∧
      l = .await .worker (.http (some w.caller) .nextId) out ∧ nextIdOf out = some n ∧
      m.pve.find n = none ∧ m'.worker = .exec { w with stage := .allocated n } ∧ m'.pve = m.pve := by
  cases h with
  | record hx' hd hn =>
    rcases hm.live_back hb hx' hd with ⟨x, hx, hd'⟩ | hnone
    · cases hm.vmid_back hb hx hx' with
      | kept h => exact .inl (.record hx hd' (h.symm.trans hn))
      | cleared _ _ _ _ h =>
        rw [hn] at h
        cases h
      | @adopted w n' start hw hv hs _ h =>
        obtain rfl := Option.some.inj (hn.symm.trans h)
        obtain ⟨hok, hj, _⟩ := hb.exec hw
        simp only [Exec.Ok, hs] at hok
        exact .inl (.target hj rfl (congrArg some hv) hok.2.2.2)
      | recovered hc hs hv ht _ h =>
        obtain rfl := Option.some.inj (hn.symm.trans h)
        exact .inl (.target hc hs hv ht)
    · rw [hn] at hnone
      cases hnone
  | target hc hs hv ht =>
    rcases hm.target_back hb hc hs ht with hc' | ⟨w, hw, hst, hv'⟩
    · exact .inl (.target hc' hs hv ht)
    · exact .inl (.given hw (Option.some.inj (hv'.symm.trans hv)) hst)
  | given hw' hv hs =>
    cases hm.exec_back hw' with
    | same hw => exact .inl (.given hw hv hs)
    | enter _ _ _ h =>
      rw [h] at hs
      rcases hs with hs | hs <;> cases hs
    | @allocated w out n' hw hst hl hout _ hfind hpve h =>
      subst h
      rcases hs with hs | hs <;> cases hs
      exact .inr ⟨w, out, hw, hv, hst, hl, hout, hfind, hw', hpve⟩
    | reached _ _ _ _ _ _ _ h =>
      subst h
      rcases hs with hs | hs <;> cases hs
    | learn hw _ hl hne _ h =>
      subst h
      rcases hs with hs | hs
      · exact absurd hs (hne n)
      · have hheld := hb.exec hw
        cases hl with
        | unaccepted _ _ _ hs' _ =>
          cases hs
          exact .inl (.given hw hv (.inl hs'))
        | broken _ _ hs' _ | late hs' _ =>
          cases hs
          have hok := hheld.ok
          simp only [Exec.Ok, hs'] at hok
          exact .inl (.target hheld.job rfl (congrArg some hv) hok.2.2.2)
        | _ => cases hs
    | edit hw he h =>
      subst h
      refine .inl (.given hw hv ?_)
      cases he with
      | metadata => exact hs
      | targetLost hs' =>
        rcases hs with hs | hs <;> cases hs
        exact .inr hs'
      | _ => rcases hs with hs | hs <;> cases hs

end Step

section Run
variable {t t' : Abs} {l : Label}

/-- A VMID just given to the job at work is claimed by nobody else. -/
theorem Exclusive.fresh (hok : Exclusive t.shared l t'.shared) (hb : Base t.view)
    {w : Exec} {out : HttpOutcome} {n : Int} (hw : t.view.worker = .exec w) (hs : w.stage = .prepared)
    (hl : l = .await .worker (.http (some w.caller) .nextId) out) (hn : nextIdOf out = some n)
    {v : VmId} (hc : t.view.Claims v n) : v = w.v := by
  cases hc with
  | record hx hd hvmid =>
    obtain ⟨vm, hvm, rfl⟩ := Option.map_eq_some_iff.mp hx
    exact hok.allocated _ _ _ hl hn v vm hvm hd hvmid
  | target hc hst hv _ =>
    obtain rfl := hb.single hc (hb.exec hw).job hst rfl
    have hvm := congrArg JobCore.vmId (Option.some.inj (hc.symm.trans (hb.exec hw).job))
    exact Option.some.inj (hv.symm.trans hvm)
  | given hw' _ hs' =>
    obtain rfl := WorkerPhase.exec.inj (hw.symm.trans hw')
    rw [hs] at hs'
    rcases hs' with hs' | hs' <;> cases hs'

theorem View.Owned.step (ho : t.view.Owned) (hb : Base t.view) (hm : Move t.view l t'.view)
    (hok : Exclusive t.shared l t'.shared) : t'.view.Owned := by
  refine ⟨fun {v v' n} hc hc' => ?_, fun {v n} hc hal => ?_, fun {w' n} hw' hssh hn hal => ?_,
    fun {c req g} hev => ?_⟩
  · rcases hc.back hb hm with hc | ⟨w, out, hw, rfl, hs, hl, hout, _, _, _⟩
    · rcases hc'.back hb hm with hc' | ⟨w, out, hw, rfl, hs, hl, hout, _, _, _⟩
      · exact ho.sole hc hc'
      · exact hok.fresh hb hw hs hl hout hc
    · rcases hc'.back hb hm with hc' | ⟨w', _, hw', rfl, _⟩
      · exact (hok.fresh hb hw hs hl hout hc').symm
      · obtain rfl := WorkerPhase.exec.inj (hw.symm.trans hw')
        rfl
  · rcases hc.back hb hm with hc | ⟨w, out, hw, rfl, hs, _, _, hfind, _, hpve⟩
    · rcases hal.back hm with hal | ⟨w, _, hw, _, hs, hv⟩
      · exact ho.own hc hal
      · exact hv (ho.sole (.given hw rfl (.inl hs)) hc)
    · obtain ⟨g, hg, _⟩ := hal
      rw [hpve, hfind] at hg
      cases hg
  · have hold : t.view.Alien w'.v n := by
      rcases hal.back hm with hal | ⟨w, stage, _, hw, _, hv⟩
      · exact hal
      · obtain rfl : { w with stage } = w' := WorkerPhase.exec.inj (hw.symm.trans hw')
        exact absurd rfl hv
    cases hm.exec_back hw' with
    | same hw => exact ho.work hw hssh hn hold
    | @enter p job v vm row hw hrow hist h =>
      subst h
      obtain ⟨_, _, _, row', hrow', hag⟩ := hb.loaded hw
      obtain rfl := Option.some.inj (hrow.symm.trans hrow')
      by_cases hd : row.core.deletedAt = none
      · exact ho.own (.record hrow hd (hag.vmid.trans hn)) hold
      · obtain ⟨job', hbegin, htype, hv⟩ := begins_of_enter hb hw hist
        obtain ⟨g, hg, hne⟩ := hold
        exact hne ((hok.begun _ _ _ hbegin (htype ▸ hssh) hd n g (hag.vmid.trans hn) hg).trans hv)
    | allocated hw _ _ _ _ _ _ h | reached hw _ _ _ _ _ _ h | learn hw _ _ _ _ h =>
      subst h
      exact ho.work hw hssh hn hold
    | edit hw he h =>
      subst h
      rcases he.vmid with h | ⟨h, _⟩ | ⟨n', start, hs, _, h⟩
      · exact ho.work hw hssh (h.symm.trans hn) hold
      · rw [hn] at h
        cases h
      · obtain rfl := Option.some.inj (hn.symm.trans h)
        obtain ⟨hok', hj, _⟩ := hb.exec hw
        simp only [Exec.Ok, hs] at hok'
        exact ho.own (.target hj rfl rfl hok'.2.2.2) hold
  · rcases hm.call_back hev with hev | ⟨w, i, hsent, hc, hg, hget⟩
    · exact ho.calls hev
    · cases hc
      obtain ⟨n, ht, hfind⟩ := Option.bind_eq_some_iff.mp hg.symm
      obtain ⟨hn, hssh⟩ := hsent.target (hb.exec hsent.work).ok hget ht
      by_contra hne
      exact ho.work hsent.work hssh hn ⟨g, hfind, hne⟩

end Run

theorem View.Owned.init {t : Abs} (hi : AInitial t) : t.view.Owned := by
  have hclaims : ∀ {v n}, ¬ t.view.Claims v n := by
    rintro v n (⟨hx, _, _⟩ | ⟨hc, _, _, _⟩ | ⟨hw, _, _⟩)
    · simp [Abs.view, hi.vms] at hx
    · simp [Abs.view, hi.jobs] at hc
    · exact hi.no_exec hw
  refine ⟨fun h => absurd h hclaims, fun h => absurd h hclaims, fun {w n} hw => ?_, fun {c req g} hev => ?_⟩
  · exact (hi.no_exec hw).elim
  · have hnil : t.view.hist = [] := hi.hist
    rw [hnil] at hev
    cases hev

theorem AReachable.owned {t : Abs} (h : AReachable .exclusive t) : t.view.Owned :=
  h.invariant (P := View.Owned) (fun _ => View.Owned.init) fun _ _ _ hb _ ho hm hok => ho.step hb hm hok

/-- A job sends state-changing requests only to guests cloned for its own record, and no two live
records hold one VMID. -/
theorem guests_owned {s : Sys} (h : Reachable .exclusive s) :
    (∀ c req g c', Ev.call (some c) req (some g) ∈ s.shared.hist → g.origin = some c' →
      c'.vm = c.vm) ∧
      ∀ v v' vm vm' n, s.shared.db.vms.get v = some vm → s.shared.db.vms.get v' = some vm' →
        vm.deletedAt = none → vm'.deletedAt = none → vm.proxmoxVmid = some n →
          vm'.proxmoxVmid = some n → v = v' := by
  obtain ⟨t, ht, hr⟩ := h.abstract
  rw [hr.shared]
  refine ⟨fun c req g c' hev hor => ?_, fun v v' vm vm' n hv hv' hd hd' hn hn' => ?_⟩
  · have hvm := ht.owned.calls hev
    rw [hor] at hvm
    exact Option.some.inj hvm
  · have hx : t.view.vms v = some vm.core := congrArg (Option.map VM.core) hv
    have hx' : t.view.vms v' = some vm'.core := congrArg (Option.map VM.core) hv'
    exact ht.owned.sole (.record hx hd hn) (.record hx' hd' hn')

def Cond.exclusiveCheck (s : Shared) (l : Label) (s' : Shared) : Bool :=
  (match l with
  | .await .worker (.http (some c) .nextId) out => (nextIdOf out).all fun n =>
    (List.range s.db.vms.next).all fun v => v = c.vm || (s.db.vms.get v).all fun vm =>
      vm.deletedAt.isSome || vm.proxmoxVmid ≠ some n
  | _ => true) && Cond.sparedCheck s s'

theorem Cond.exclusiveCheck_sound {s s' : Sys} {l : Label}
    (h : Cond.exclusiveCheck s.shared l s'.shared = true) : Cond.exclusive.ok s l s' := by
  unfold exclusiveCheck at h
  rw [Bool.and_eq_true] at h
  obtain ⟨hid, hspared⟩ := h
  refine ⟨?_, fun j job vm hbegin hssh hd => ?_⟩
  · rintro c out n rfl hn v vm hv hd hvmid
    simp only [hn, Option.all_some] at hid
    have hrow := List.all_eq_true.mp hid v (List.mem_range.mpr (Table.get_lt hv))
    simpa [hv, hd, hvmid] using hrow
  · exact absurd (Cond.sparedCheck_sound (l := l) hspared j job vm hbegin hssh) hd

open Scenario in
/-- Two VMs get guests of their own, and the first is deleted. -/
def neighbours : List Choice :=
  startup [] 0 ++ create 0 (body "a" named_a) 100 ++ clone "0" 100 ++ unconfigured ++
    create 1 (body "b" named_b) 101 ++ clone "1" 101 ++ unconfigured ++ delete 2 0 "a" ++
    deleting ++ destroying

theorem neighbours_ends : (Scenario.panel.run (fun s l s' =>
    Cond.exclusiveCheck s.shared l s'.shared) neighbours).any (fun s =>
      s.shared.pve.find 100 = none) = true := by decide +kernel

theorem neighbours_runs : (Scenario.panel.run (fun s l s' =>
    Cond.exclusiveCheck s.shared l s'.shared) neighbours).isSome = true :=
  Option.isSome_of_any neighbours_ends

/-- The guest destroyed was the first VM's. -/
theorem guests_owned_neighbours :
    let s := (Scenario.panel.run (fun s l s' => Cond.exclusiveCheck s.shared l s'.shared)
      neighbours).get neighbours_runs
    s.shared.pve.find 100 = none ∧ (∀ c req g c', Ev.call (some c) req (some g) ∈ s.shared.hist →
      g.origin = some c' → c'.vm = c.vm) ∧
      ∀ v v' vm vm' n, s.shared.db.vms.get v = some vm → s.shared.db.vms.get v' = some vm' →
        vm.deletedAt = none → vm'.deletedAt = none → vm.proxmoxVmid = some n →
          vm'.proxmoxVmid = some n → v = v' := by
  intro s
  have hreach : Reachable .exclusive s :=
    Scenario.reached (fun _ _ _ h => Cond.exclusiveCheck_sound h) neighbours_runs
  exact ⟨of_decide_eq_true (Option.get_of_any_eq_true _ _ neighbours_ends), guests_owned hreach⟩

/-- A request of a job went to a guest of another record. -/
def Ev.strays : Ev → Bool
  | .call (some c) _ (some g) => g.origin.any fun c' => c'.vm ≠ c.vm
  | _ => false

theorem Ev.of_strays {ev : Ev} (h : ev.strays = true) : ∃ c req g c',
    ev = .call (some c) req (some g) ∧ g.origin = some c' ∧ c'.vm ≠ c.vm := by
  unfold strays at h
  split at h
  · next c req g =>
    obtain ⟨c', ho, hne⟩ := (Option.any_eq_true _ _).mp h
    exact ⟨c, req, g, c', rfl, ho, of_decide_eq_true hne⟩
  · cases h

open Scenario in
/-- Proxmox takes the clone for the first VM as guest 100 but does not carry it out, and the process
ends; the recovery puts the VMID into the record. The VMID is free, so the second VM gets it, and the
deletion of the first VM destroys the guest of the second. -/
def vmidReused : List Choice :=
  startup [] 0 ++ create 0 (body "a" named_a) 100 ++ .get :: worker [.none, .none, .none, .none,
    .none, .none, listing [], .none, .none, answer (.int 100) false, answer (.str "clone0") false, .none] ++
    .crash :: startup [] 0 ++ create 0 (body "b" named_b) 100 ++ clone "1" 100 ++ unconfigured ++
    delete 1 0 "a" ++ deleting ++ destroying

theorem guest_of_another : ¬ ∀ s, Reachable .any s →
    (∀ c req g c', Ev.call (some c) req (some g) ∈ s.shared.hist → g.origin = some c' →
      c'.vm = c.vm) ∧
      ∀ v v' vm vm' n, s.shared.db.vms.get v = some vm → s.shared.db.vms.get v' = some vm' →
        vm.deletedAt = none → vm'.deletedAt = none → vm.proxmoxVmid = some n →
          vm'.proxmoxVmid = some n → v = v' := by
  intro h
  have hends : (Scenario.panel.run (fun _ _ _ => true) vmidReused).any (fun s =>
      s.shared.hist.any Ev.strays) = true := by decide +kernel
  obtain ⟨s, hreach, hbad⟩ := Scenario.evaluated_any hends
  obtain ⟨hcalls, _⟩ := h s hreach
  obtain ⟨ev, hev, hstray⟩ := List.any_eq_true.mp hbad
  obtain ⟨c, req, g, c', rfl, ho, hne⟩ := Ev.of_strays hstray
  exact hne (hcalls c req g c' hev ho)

end Clusteration
