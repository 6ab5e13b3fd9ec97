import Clusteration.Properties.Freshness

open Transition

namespace Clusteration

/-- The readiness check of `v` has succeeded, against an address its guest has reported, since the
guest's last boot. -/
def Shown (hist : List Ev) (v : VmId) (vmid : Option Int) (ip : Option String) : Prop :=
  ∃ n a, vmid = some n ∧ ip = some a ∧ Ev.sshOk v a ∈ sinceBoot hist n ∧
    Ev.report n a ∈ sinceBoot hist n

/-- Besides what `Attended` asks: no reboot begins on a record whose SSH is ready. -/
structure Refreshed (s : Shared) (l : Label) (s' : Shared) : Prop where
  attended : Attended s l s'
  rebooted : ∀ j job vm, Begins s s' j job vm → job.type = .rebootVm → vm.sshStatus ≠ .ready

def Cond.refreshed : Cond := Refreshed

structure View.Verified (m : View) : Prop where
  rows : ∀ {v x}, m.vms v = some x → x.Exposed → Shown m.hist v x.vmid x.ip
  reached : ∀ {w}, m.worker = .exec w → w.stage = .reached → w.x.deletedAt = none →
    w.x.status = .running → Shown m.hist w.v w.x.vmid w.x.ip
  rebooting : ∀ {w row}, m.worker = .exec w → w.type = .rebootVm → m.vms w.v = some row →
    row.ssh ≠ .ready

section Step
variable {m m' : View} {l : Label}

/-- What was shown stays shown while nothing boots the guest. -/
theorem Shown.step {v : VmId} {vmid : Option Int} {ip : Option String} (h : Shown m.hist v vmid ip)
    (hm : Move m l m') (hno : ∀ n w req i g, vmid = some n → Sent m l m' w req i →
      req.isGet = false → req.target = some n → m.pve.find n ≠ some g) : Shown m'.hist v vmid ip := by
  obtain ⟨n, a, hn, ha, hok, hrep⟩ := h
  have hkept := hm.sinceBoot_kept fun w req i g => hno n w req i g hn
  exact ⟨n, a, hn, ha, hkept hok, hkept hrep⟩

theorem Edit.rebooting {w : Exec} {stage : Stage} {x row : Core} {target : Option Int}
    (h : Edit w stage x target) (hw : w.Ok) (ht : w.type = .rebootVm) (hrow : row.ssh ≠ .ready) :
    (Core.written w.x x row).ssh ≠ .ready := by
  have hkept : x.ssh = w.x.ssh → (Core.written w.x x row).ssh ≠ .ready := by
    intro hx
    simpa [Core.written, hx] using hrow
  have hother : x.ssh ≠ .ready → (Core.written w.x x row).ssh ≠ .ready := by
    intro hx
    unfold Core.written
    dsimp only
    split
    · exact hrow
    · exact hx
  cases h with
  | power _ _ _ => exact hkept (if_neg (by simp [ht]))
  | sshReady hs =>
    simp only [Exec.Ok, hs] at hw
    rw [ht] at hw
    cases hw.1
  | wipe _ _ | unheard _ _ | prepare _ | noAddress _ | sshFailed _ _ => exact hother (by simp)
  | _ => exact hkept rfl

end Step

section Run
variable {t t' : Abs} {l : Label}

/-- A job that has reached its VM sends Proxmox nothing. -/
theorem Base.reached_quiet (hb : Base t.view) {w : Exec} (hw : t.view.worker = .exec w)
    (hs : w.stage = .reached) {m' : View} {w' : Exec} {req : Req} {i : HttpIn}
    (hsent : Sent t.view l m' w' req i) (hget : req.isGet = false) {n : Int} :
    req.target ≠ some n := by
  intro ht
  obtain rfl := WorkerPhase.exec.inj (hw.symm.trans hsent.work)
  have hok := (hb.exec hw).ok
  have hssh := (hsent.target hok hget ht).2
  simp only [Exec.Ok, hs] at hok
  exact hssh hok.1

theorem View.Verified.step (hv : t.view.Verified) (htold : t.view.Told) (hb : Base t.view)
    (ho : t.view.Owned) (hk : t.view.Backed) (hm : Move t.view l t'.view)
    (hok : Refreshed t.shared l t'.shared) : t'.view.Verified := by
  have hreached : ∀ {w}, t.view.worker = .exec w → w.stage = .reached → w.x.deletedAt = none →
      w.x.status = .running → Shown t'.view.hist w.v w.x.vmid w.x.ip := by
    intro w hw hs hd hr
    exact (hv.reached hw hs hd hr).step hm fun n w' req i g _ hsent hget ht _ =>
      hb.reached_quiet hw hs hsent hget ht
  refine ⟨fun {v x'} hx' he => ?_, fun {w'} hw' hs hd hr => ?_, fun {w' row'} hw' ht hrow' => ?_⟩
  · have hold : ∀ {x}, t.view.vms v = some x → x.Exposed → Shown t'.view.hist v x.vmid x.ip := by
      intro x hx hex
      refine (hv.rows hx hex).step hm fun n w req i g hn hsent hget ht hg => ?_
      exact hsent.not_exposed ho hb hget ht hg hx hn hex
    cases hm.exposed_back hb hk hx' he with
    | same hx hex hvmid hip =>
      rw [hvmid, hip]
      exact hold hx hex
    | checked hw hwv hs hlive hrunning hvmid hip =>
      rw [hvmid, hip, ← hwv]
      exact hreached hw hs hlive hrunning
    | rebooted hw hwv _ ht hrow _ hready _ _ _ =>
      exact absurd hready (hv.rebooting hw ht (hwv ▸ hrow))
  · cases hm.exec_back hw' with
    | same hw => exact hreached hw hs hd hr
    | enter _ _ _ h | allocated _ _ _ _ _ _ _ h =>
      rw [h] at hs
      cases hs
    | learn _ _ _ _ hne h =>
      rw [h] at hs
      exact absurd hs hne
    | edit hw he h =>
      subst h
      cases he with
      | metadata => exact hreached hw hs hd hr
      | _ => cases hs
    | @reached w ip hw _ htype hip _ hist _ h =>
      subst h
      obtain ⟨n, hn⟩ := Option.isSome_iff_exists.mp ((hk.work hw).status (by rw [hr]; rfl))
      have hrep := htold.checked hb hw htype hd hr hn hip
      rw [hist]
      exact ⟨n, ip, hn, hip, List.mem_cons_self, List.mem_cons_of_mem _ hrep⟩
  · have hrow : ∀ {row}, t.view.vms w'.v = some row → row.ssh ≠ .ready := by
      intro row hrow
      cases hm.exec_back hw' with
      | same hw => exact hv.rebooting hw ht hrow
      | @enter p job v vm vmRow hw hvmRow hist h =>
        subst h
        obtain rfl := Option.some.inj (hrow.symm.trans hvmRow)
        obtain ⟨job', hbegin, htype, _⟩ := begins_of_enter hb hw hist
        exact hok.rebooted _ _ _ hbegin (htype.trans ht)
      | allocated hw _ _ _ _ _ _ h | reached hw _ _ _ _ _ _ h | learn hw _ _ _ _ h | edit hw _ h =>
        subst h
        exact hv.rebooting hw ht hrow
    cases hm.vms_back hrow' with
    | same h => exact hrow h
    | @edit w stage y row target hw hwv hwrow hedit hw'' hx'' =>
      obtain rfl := WorkerPhase.exec.inj (hw'.symm.trans hw'')
      subst hx''
      exact hedit.rebooting (hb.exec hw).ok ht (hrow hwrow)
    | fail _ _ _ _ _ hover _ =>
      rw [hover] at hw'
      cases hw'
    | mark _ _ hmrow hx'' =>
      subst hx''
      dsimp only
      split
      · exact hrow hmrow
      · simp
    | recover hrrow _ _ hx'' =>
      subst hx''
      have hne := hrow hrrow
      exact hne
    | create _ _ _ _ hx'' =>
      subst hx''
      simp

end Run

/-- A live, running and ready VM has an address its guest has reported since its last boot, and the
check of that address has succeeded since. -/
theorem ready_verified {s : Sys} (h : Reachable .refreshed s) {v : VmId} {vm : VM}
    (hv : s.shared.db.vms.get v = some vm) (hd : vm.deletedAt = none) (hr : vm.status = .running)
    (hready : vm.sshStatus = .ready) : Shown s.shared.hist v vm.proxmoxVmid vm.ipAddress := by
  obtain ⟨t, ht, href⟩ := h.abstract
  have hinv : (t.view.Owned ∧ t.view.Backed) ∧ (t.view.Latest ∧ t.view.Told) ∧ t.view.Verified := by
    apply ht.invariant (P := fun m => (m.Owned ∧ m.Backed) ∧ (m.Latest ∧ m.Told) ∧ m.Verified)
    · intro t hi
      refine ⟨⟨View.Owned.init hi, View.Backed.init hi⟩, ⟨View.Latest.init hi, View.Told.init hi⟩,
        ⟨fun {v x} hx => ?_, fun {w} hw => ?_, fun {w row} hw => ?_⟩⟩
      · simp [Abs.view, hi.vms] at hx
      · exact (hi.no_exec hw).elim
      · exact (hi.no_exec hw).elim
    · rintro t l t' hb _ ⟨⟨ho, hk⟩, ⟨hl, htold⟩, hv⟩ hm hok
      exact ⟨⟨ho.step hb hm hok.attended.exclusive, hk.step hb hm⟩,
        ⟨hl.step hb hm, htold.step hl hb ho hk hm hok.attended⟩, hv.step htold hb ho hk hm hok⟩
  rw [href.shared] at hv ⊢
  have hx : t.view.vms v = some vm.core := congrArg (Option.map VM.core) hv
  exact hinv.2.2.rows hx ⟨hd, hr, hready⟩

def Cond.refreshedCheck (s : Shared) (l : Label) (s' : Shared) : Bool :=
  Cond.attendedCheck s l s' && match s'.hist with
  | .enter j (some vm) :: _ => vm.sshStatus ≠ .ready ||
    (s.db.jobs.get j).all fun job => job.type ≠ .rebootVm
  | _ => true

theorem Cond.refreshedCheck_sound {s s' : Sys} {l : Label}
    (h : Cond.refreshedCheck s.shared l s'.shared = true) : Cond.refreshed.ok s l s' := by
  unfold refreshedCheck at h
  rw [Bool.and_eq_true] at h
  obtain ⟨hattended, hreboot⟩ := h
  refine ⟨Cond.attendedCheck_sound hattended, ?_⟩
  rintro j job vm ⟨hev, hrow⟩ ht
  simpa [hev, hrow, ht] using hreboot

open Scenario in
/-- A VM is created, given a machine-id of its own, and checked. -/
def checked : List Choice :=
  startup [] 0 ++ create 0 (body "a" named_a) 100 ++ clone "0" 100 ++ boot "0" 100 "10.0.0.5" ++
    identify "0" "10.0.0.5" "10.0.0.6" ++ check

theorem checked_ends : (Scenario.panel.run (fun s l s' => Cond.refreshedCheck s.shared l s'.shared)
    checked).any (fun s => (s.shared.db.vms.get 0).any fun vm =>
      vm.deletedAt = none && vm.status = .running && vm.sshStatus = .ready) = true := by decide +kernel

theorem checked_runs : (Scenario.panel.run (fun s l s' => Cond.refreshedCheck s.shared l s'.shared)
    checked).isSome = true := Option.isSome_of_any checked_ends

/-- It is ready as it runs now. -/
theorem ready_verified_checked :
    let s := (Scenario.panel.run (fun s l s' => Cond.refreshedCheck s.shared l s'.shared)
      checked).get checked_runs
    ∃ vm, s.shared.db.vms.get 0 = some vm ∧ vm.status = .running ∧ vm.sshStatus = .ready ∧
      Shown s.shared.hist 0 vm.proxmoxVmid vm.ipAddress := by
  intro s
  have hreach : Reachable .refreshed s :=
    Scenario.reached (fun _ _ _ h => Cond.refreshedCheck_sound h) checked_runs
  have hrow := Option.get_of_any_eq_true _ _ checked_ends
  obtain ⟨vm, hv, hvm⟩ := (Option.any_eq_true _ _).mp hrow
  simp only [Bool.and_eq_true, decide_eq_true_eq] at hvm
  obtain ⟨⟨hd, hr⟩, hready⟩ := hvm
  exact ⟨vm, hv, hr, hready, ready_verified hreach hv hd hr hready⟩

open Scenario in
/-- Then it is rebooted and gets another address. -/
def rebooted : List Choice := checked ++ reboot 1 0 ++ rebooting "1" "10.0.0.7"

def Ev.isSshOk (v : VmId) (ip : String) : Ev → Bool
  | .sshOk u a => u = v && a = ip
  | _ => false

theorem ready_unverified : ¬ ∀ s, Reachable .any s → ∀ v vm, s.shared.db.vms.get v = some vm →
    vm.deletedAt = none → vm.status = .running → vm.sshStatus = .ready →
      Shown s.shared.hist v vm.proxmoxVmid vm.ipAddress := by
  intro h
  have hends : (Scenario.panel.run (fun _ _ _ => true) rebooted).any (fun s =>
      (s.shared.db.vms.get 0).any (fun vm => vm.deletedAt = none && vm.status = .running &&
        vm.sshStatus = .ready && vm.ipAddress = some "10.0.0.7") = true ∧
      s.shared.hist.any (Ev.isSshOk 0 "10.0.0.7") = false) = true := by decide +kernel
  obtain ⟨s, hreach, hends⟩ := Scenario.evaluated_any hends
  obtain ⟨hrow, hunchecked⟩ := of_decide_eq_true hends
  obtain ⟨vm, hv, hvm⟩ := (Option.any_eq_true _ _).mp hrow
  simp only [Bool.and_eq_true, decide_eq_true_eq] at hvm
  obtain ⟨⟨⟨hd, hr⟩, hready⟩, hip⟩ := hvm
  obtain ⟨n, a, _, ha, hok, _⟩ := h s hreach 0 vm hv hd hr hready
  obtain rfl : a = "10.0.0.7" := Option.some.inj (ha.symm.trans hip)
  have hmem : Ev.sshOk 0 "10.0.0.7" ∈ s.shared.hist :=
    (List.takeWhile_prefix _).subset hok
  rw [List.any_eq_false] at hunchecked
  exact hunchecked _ hmem rfl

end Clusteration
