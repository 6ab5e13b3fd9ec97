import Clusteration.Properties.NormalProxmox

open Async Task

namespace Clusteration

theorem VM.merge_self (base cur : VM) : VM.merge base cur base = cur := by
  simp only [VM.merge, column_of_row]

/-- The session of a job of the VM: its record is live and its guest there. -/
structure Scene (c : Caller) (n : Int) (node : String) (running : Bool) (queue : List Payload)
    (s : Session) (m : Shared) : Prop where
  row : m.db.vms.get c.vm = some s.vm0
  guest : m.pve.Has n node running
  queue : m.queue = queue
  vmid0 : s.vm0.proxmoxVmid = some n
  vmid : s.vm.proxmoxVmid = some n
  live0 : s.vm0.deletedAt = none
  live : s.vm.deletedAt = none

variable {c : Caller} {n : Int} {node : String} {running : Bool} {queue : List Payload} {s : Session}
  {m m' : Shared} {α : Type} {Q : α → Session → Shared → Prop} {F : Exc → Session → Shared → Prop}

theorem Scene.same (h : Scene c n node running queue s m) (hm : m.Same m') :
    Scene c n node running queue s m' :=
  { h with
    row := by rw [hm.db, h.row]
    guest := by rw [hm.pve]; exact h.guest
    queue := hm.queue.trans h.queue }

/-- The guest has another power state. -/
theorem Scene.served {running' : Bool} (h : Scene c n node running queue s m) (hdb : m'.db = m.db)
    (hq : m'.queue = m.queue) (hg : m'.pve.Has n node running') : Scene c n node running' queue s m' :=
  { h with
    row := by rw [hdb, h.row]
    guest := hg
    queue := hq.trans h.queue }

/-- The session gives its record other values. -/
theorem Scene.edit {s' : Session} (h : Scene c n node running queue s m) (h₀ : s'.vm0 = s.vm0)
    (hn : s'.vm.proxmoxVmid = some n) (hd : s'.vm.deletedAt = none) : Scene c n node running queue s' m :=
  { h with
    row := by rw [h₀, h.row]
    vmid0 := by rw [h₀, h.vmid0]
    live0 := by rw [h₀, h.live0]
    vmid := hn
    live := hd }

theorem theVm_total {f : VM → Work α} (h : Task.Total NormalAct (f s.vm) s m Q F) :
    Task.Total NormalAct (theVm >>= f) s m Q F :=
  total_bind (total_bind (total_session (total_pure h)))

theorem setVm_total {g : VM → VM} {f : Unit → Work α}
    (h : Task.Total NormalAct (f ()) { s with vm := g s.vm } m Q F) :
    Task.Total NormalAct (setVm g >>= f) s m Q F :=
  total_bind (total_assign h)

variable {Q : Unit → Session → Shared → Prop}

theorem commit_total (h : Scene c n node running queue s m)
    (hQ : ∀ m', m'.pve = m.pve → Scene c n node running queue { s with job0 := s.job, vm0 := s.vm } m' →
      Q () { s with job0 := s.job, vm0 := s.vm } m') : Task.Total NormalAct (commit c) s m Q F := by
  let f : Flush := ⟨[⟨c.job, s.job0, s.job⟩], [⟨c.vm, s.vm0, s.vm⟩]⟩
  refine total_bind (total_session (total_bind (total_await ?_ ?_)))
  · have hact : Act m (.commit f) () { m with db := m.db.flush f, hist := enterEvents m.db f ++ m.hist } :=
      ⟨.none, rfl⟩
    exact ⟨(), _, normalAct_of_act (by simp) hact⟩
  · intro _ m' ha
    obtain rfl := act_commit.mp ha.act
    apply total_assign
    apply hQ
    · rfl
    have hrow : (m.db.flush f).vms.get c.vm = some s.vm := by
      rw [flush_vms_one, Table.get_update_self, h.row, Option.map_some, VM.merge_self]
    exact { h with row := hrow, vmid0 := h.vmid, live0 := h.live }

theorem setJobMeta_total (patch : JobMeta) (h : Scene c n node running queue s m)
    (hQ : ∀ s' m', s'.vm = s.vm → m'.pve = m.pve → Scene c n node running queue s' m' → Q () s' m') :
    Task.Total NormalAct (setJobMeta c patch) s m Q F := by
  refine total_bind (total_assign (commit_total (h.edit rfl h.vmid h.live) ?_))
  intro m' hpve h'
  exact hQ _ m' rfl hpve h'

/-- The address of a guest that has booted, or a note that there is none. -/
theorem awaitAddress_total (type : JobType) (op : PowerOp) (h : Scene c n node running queue s m)
    (hQ : ∀ s' m', s'.vm.status = s.vm.status → Scene c n node running queue s' m' → Q () s' m') :
    Task.Total NormalAct (awaitAddress c type op node n) s m Q F := by
  unfold awaitAddress
  split
  · refine total_catch (total_bind (total_mono (ProxmoxClient.waitForIp_total 300) ?_ ?_))
    · rintro ip _ m' ⟨rfl, hm⟩
      apply total_assign
      exact hQ _ m' rfl ((h.same hm).edit rfl h.vmid h.live)
    · rintro _ _ m' ⟨rfl, hm, t, rfl⟩
      refine setVm_total (setJobMeta_total _ ((h.same hm).edit rfl h.vmid h.live) ?_)
      intro s' m'' hvm _ h'
      exact hQ s' m'' (by rw [hvm]) h'
  · exact total_pure (hQ s m rfl h)

/-- `power_job`: it leaves the guest in the power state the record then shows, or it finds it in a
power state in which the task fails, and leaves it in that. -/
theorem powerGuest_total (type : JobType) (op : PowerOp) (h : Scene c n node running queue s m)
    (hn : isNodeName node = true) :
    Task.Total NormalAct (powerGuest c type op n) s m
      (fun _ s' m' => op.action.admits running = true ∧ s'.vm0 = s'.vm ∧ s'.vm.status = op.final ∧
        Scene c n node op.action.boots queue s' m')
      fun _ s' m' => op.action.admits running = false ∧ Scene c n node running queue s' m' := by
  refine setVm_total (total_bind (commit_total (h.edit rfl h.vmid h.live) ?_))
  intro m₁ _ h₁
  apply theVm_total
  refine total_bind (total_mono (ProxmoxClient.resolveVmNode_total h₁.guest hn _) ?_ fun _ _ _ hF => hF.elim)
  rintro _ _ m₂ ⟨rfl, hm₂, rfl⟩
  have h₂ := h₁.same hm₂
  refine setVm_total (total_bind (total_mono (ProxmoxClient.power_total h₂.guest) ?_ fun _ _ _ hF => hF.elim))
  rintro _ _ m₃ ⟨rfl, hdb, hq, u, rfl, htask, hhas⟩
  have h₃ := h₂.served hdb hq hhas
  refine total_bind (setJobMeta_total _ (h₃.edit rfl h₂.vmid h₂.live) ?_)
  intro s₄ m₄ _ hpve h₄
  refine total_bind (total_mono (ProxmoxClient.waitForTask_total u) ?_ ?_)
  · rintro _ _ m₅ ⟨rfl, hm₅, hdone⟩
    rw [hpve, htask, Option.some.injEq] at hdone
    rw [hdone, if_pos rfl] at h₄
    have h₅ := h₄.same hm₅
    refine setVm_total (total_bind (awaitAddress_total type op (h₅.edit rfl h₅.vmid h₅.live) ?_))
    intro s₆ m₆ hst h₆
    apply commit_total h₆
    intro m₇ _ h₇
    exact ⟨hdone, rfl, hst, h₇⟩
  · rintro _ _ m₅ ⟨rfl, hm₅, hfailed⟩
    rw [hpve, htask, Ne, Option.some.injEq, Bool.not_eq_true] at hfailed
    rw [hfailed, if_neg Bool.false_ne_true] at h₄
    exact ⟨hfailed, h₄.same hm₅⟩

/-- The record is live, names guest `n` and shows `status`. -/
structure Stands (v : VmId) (n : Int) (node : String) (running : Bool) (status : VMStatus) (m : Shared) :
    Prop where
  row : ∃ vm, m.db.vms.get v = some vm ∧ vm.proxmoxVmid = some n ∧ vm.deletedAt = none ∧ vm.status = status
  guest : m.pve.Has n node running

/-- Nothing is queued, or only a readiness check of the VM. -/
def CheckAtMost (v : VmId) (m : Shared) : Prop :=
  m.queue = [] ∨ ∃ j job, m.queue = [sshPayload j v] ∧ m.db.jobs.get j = some job ∧
    job.type = .sshReadinessCheck

theorem Scene.stands (h : Scene c n node running queue s m) (hs : s.vm0 = s.vm) :
    Stands c.vm n node running s.vm.status m :=
  ⟨⟨s.vm, by rw [h.row, hs], h.vmid, h.live, rfl⟩, h.guest⟩

/-- An await that can only end in one way. -/
theorem await_total {σ β : Type} {e : Eff} {a : Ans e} {f : Ans e → Task Eff Ans σ Exc β} {t : σ}
    {Q : β → σ → Shared → Prop} {F : Exc → σ → Shared → Prop}
    (he : ∀ caller req, e ≠ .http caller req) (hact : ∀ a₁ m₁, Act m e a₁ m₁ ↔ a₁ = a ∧ m₁ = m')
    (h : Task.Total NormalAct (f a) t m' Q F) : Task.Total NormalAct (Task.await e >>= f) t m Q F := by
  refine total_bind (total_await ⟨a, m', normalAct_of_act he ((hact a m').mpr ⟨rfl, rfl⟩)⟩ ?_)
  intro a₁ m₁ ha
  obtain ⟨rfl, rfl⟩ := (hact a₁ m₁).mp ha.act
  exact h

/-- A job that ends well, and is followed up by a readiness check if it booted the guest. -/
theorem finish_total (follow : Bool) (h : Scene c n node running [] s m)
    (hQ : ∀ s' m', Stands c.vm n node running s.vm.status m' → CheckAtMost c.vm m' → Q () s' m') :
    Task.Total NormalAct (do succeed c; if follow then followUp c else pure ()) s m Q F := by
  refine total_bind (total_bind (total_assign (commit_total (h.edit rfl h.vmid h.live) ?_)))
  intro m₁ _ h₁
  have hst := h₁.stands rfl
  cases follow with
  | false => exact total_pure (hQ _ m₁ hst (.inl h₁.queue))
  | true =>
    let job : Job := { type := .sshReadinessCheck, vmId := some c.vm }
    refine await_total (by simp) (fun a₁ m₂ => act_insertJob) ?_
    refine total_await ⟨(), _, normalAct_of_act (by simp) (act_put.mpr rfl)⟩ ?_
    intro _ m₂ ha
    obtain rfl := act_put.mp ha.act
    apply hQ
    · exact ⟨hst.row, hst.guest⟩
    · refine .inr ⟨m₁.db.jobs.next, job, ?_, ?_, rfl⟩
      · simp [h₁.queue, sshPayload]
      · exact Table.get_insert_self _ _

/-- A job that fails leaves the record in error. -/
theorem jobFailed_total (exc : Exc) (h : Scene c n node running queue s m)
    (hQ : ∀ s' m', Stands c.vm n node running .error m' → m'.queue = queue → Q () s' m') :
    Task.Total NormalAct (jobFailed c exc) s m Q F := by
  refine setVm_total (total_bind (total_assign (commit_total (h.edit rfl h.vmid h.live) ?_)))
  intro m' _ h'
  exact hQ _ m' (h'.stands rfl) h'.queue

theorem execute_power {settings : Settings} {payload : Payload} {job : Job} {op : PowerOp}
    (hop : powerOp job.type = some op) : execute settings payload c job = (do
      powerJob c job.type
      succeed c
      if job.type.bootsVm then followUp c else pure ()) := by
  unfold execute
  cases ht : job.type <;> rw [ht] at hop <;> first | rfl | cases hop

/-- A power job: the record then shows the power state of its guest, or an error. -/
theorem powerJob_runs {job : Job} {op : PowerOp} (settings : Settings) (payload : Payload)
    (h : Scene c n node running [] s m) (hn : isNodeName node = true) (hop : powerOp job.type = some op)
    (hQ : ∀ s' m', Stands c.vm n node (if op.action.admits running then op.action.boots else running)
      (if op.action.admits running then op.final else .error) m' → CheckAtMost c.vm m' → Q () s' m') :
    Task.Total NormalAct (runJob settings payload c job) s m Q F := by
  refine total_bind (total_assign (total_bind (commit_total (h.edit rfl h.vmid h.live) ?_)))
  intro m₁ _ h₁
  apply total_catch
  rw [execute_power hop]
  refine total_bind (theVm_total ?_)
  dsimp only
  rw [h₁.vmid, hop]
  refine total_mono (powerGuest_total job.type op h₁ hn) ?_ ?_
  · rintro _ s₂ m₂ ⟨hadm, hs, hst, h₂⟩
    rw [if_pos hadm, if_pos hadm] at hQ
    refine finish_total _ h₂ ?_
    rw [hst]
    exact hQ
  · rintro x s₂ m₂ ⟨hadm, h₂⟩
    rw [hadm, if_neg Bool.false_ne_true, if_neg Bool.false_ne_true] at hQ
    refine jobFailed_total x h₂ ?_
    intro s' m' hst hq
    exact hQ s' m' hst (.inl hq)

/-- A readiness check leaves the record's status and the guest as they are. -/
theorem checkSshReady_total (h : Scene c n node running queue s m) :
    Task.Total NormalAct (checkSshReady c) s m
      (fun _ s' m' => s'.vm.status = s.vm.status ∧ Scene c n node running queue s' m')
      fun _ _ _ => False := by
  let I : Session → Shared → Prop := fun s' m' =>
    s'.vm.status = s.vm.status ∧ Scene c n node running queue s' m'
  have hfailed : ∀ {s' m'}, I s' m' → Task.Total NormalAct (sshFailed c) s' m'
      (fun _ s' m' => I s' m') fun _ _ _ => False := by
    intro s₁ m₁ h₁
    refine setVm_total (total_bind (commit_total (h₁.2.edit rfl h₁.2.vmid h₁.2.live) ?_))
    intro m₂ _ h₂
    exact total_pure ⟨h₁.1, h₂⟩
  apply theVm_total
  split
  · exact hfailed ⟨rfl, h⟩
  · next ip _ =>
    split
    · exact hfailed ⟨rfl, h⟩
    · have hread : ∀ s' m₁ m₂, I s' m₁ → m₁.Same m₂ → I s' m₂ := fun _ _ _ h h' =>
        ⟨h.1, h.2.same h'⟩
      refine ProxmoxClient.pollUntil_total (I := I) hread ?_ ⟨rfl, h⟩
      intro s₁ m₁ h₁
      have hconnect : ∃ a m', NormalAct m₁ (.connect c.vm ip) a m' :=
        ⟨none, m₁, normalAct_of_act (by simp) (act_connect.mpr rfl)⟩
      refine total_bind (total_bind (total_await hconnect ?_))
      intro conn m₂ ha
      obtain rfl := act_connect.mp ha.act
      cases conn with
      | none => exact total_pure (total_pure ⟨h₁, fun m' h' => hfailed (hread s₁ m₂ m' h₁ h')⟩)
      | some conn =>
        have hssh : ∃ a m', NormalAct m₂ (.ssh c.vm ip) a m' :=
          ⟨false, _, normalAct_of_act (by simp) (act_ssh.mpr rfl)⟩
        refine total_bind (total_await hssh ?_)
        intro created m₃ ha
        obtain rfl := act_ssh.mp ha.act
        cases created with
        | false => exact total_pure (total_pure ⟨h₁, fun m' h' => hfailed (hread s₁ m₂ m' h₁ h')⟩)
        | true =>
          have h₂ : Scene c n node running queue s₁ { m₂ with hist := .sshOk c.vm ip :: m₂.hist } :=
            h₁.2.same ⟨rfl, rfl, rfl⟩
          have hclose : ∃ a m', NormalAct { m₂ with hist := .sshOk c.vm ip :: m₂.hist }
              (.closeConnection conn) a m' :=
            ⟨(), _, normalAct_of_act (by simp) (act_closeConnection.mpr rfl)⟩
          refine total_pure (total_bind (total_await hclose ?_))
          intro _ m₃ ha
          obtain rfl := act_closeConnection.mp ha.act
          refine setVm_total (total_bind (commit_total (h₂.edit rfl h₂.vmid h₂.live) ?_))
          intro m₄ _ h₄
          exact total_pure ⟨h₁.1, h₄⟩

theorem check_runs {job : Job} (settings : Settings) (payload : Payload)
    (h : Scene c n node running queue s m) (ht : job.type = .sshReadinessCheck)
    (hQ : ∀ s' m', Stands c.vm n node running s.vm.status m' → m'.queue = queue → Q () s' m') :
    Task.Total NormalAct (runJob settings payload c job) s m Q F := by
  refine total_bind (total_assign (total_bind (commit_total (h.edit rfl h.vmid h.live) ?_)))
  intro m₁ _ h₁
  apply total_catch
  have hexec : execute settings payload c job = (do
      let _ ← checkSshReady c
      succeed c) := by
    unfold execute
    rw [ht]
  rw [hexec]
  refine total_bind (total_mono (checkSshReady_total h₁) ?_ fun _ _ _ hF => hF.elim)
  rintro _ s₂ m₂ ⟨hst, h₂⟩
  refine total_bind (total_assign (commit_total (h₂.edit rfl h₂.vmid h₂.live) ?_))
  intro m₃ _ h₃
  apply hQ
  · have hstands := h₃.stands rfl
    rwa [show s.vm.status = _ from hst.symm]
  · exact h₃.queue

/-- `dispatch` of a job whose rows are there runs it. -/
theorem dispatch_total {payload : Payload} {v : VmId} {status : VMStatus} {job : Job} (settings : Settings)
    (hst : Stands v n node running status m) (hv : payload.vmId = some v)
    (hjob : m.db.jobs.get payload.jobId = some job) {R : Shared → Prop}
    (h : ∀ s, Scene ⟨payload.jobId, v⟩ n node running m.queue s m → s.vm.status = status →
      Task.Total NormalAct (runJob settings payload ⟨payload.jobId, v⟩ job) s m (fun _ _ m' => R m')
        fun _ _ _ => False) :
    (dispatch settings payload).Total NormalAct m fun _ m' => R m' := by
  obtain ⟨vm, hvm, hn, hd, hstatus⟩ := hst.row
  have hgetJob : ∃ a m', NormalAct m (.getJob payload.jobId) a m' :=
    ⟨_, m, normalAct_of_act (by simp) (act_getJob.mpr ⟨rfl, rfl⟩)⟩
  have hgetVM : ∃ a m', NormalAct m (.getVM v) a m' :=
    ⟨_, m, normalAct_of_act (by simp) (act_getVM.mpr ⟨rfl, rfl⟩)⟩
  refine Prog.total_await hgetJob ?_
  intro a m₁ ha
  obtain ⟨rfl, rfl⟩ := act_getJob.mp ha.act
  rw [hjob]
  dsimp only
  rw [hv]
  refine Prog.total_await hgetVM ?_
  intro a m₂ ha
  obtain ⟨rfl, rfl⟩ := act_getVM.mp ha.act
  rw [hvm]
  refine Prog.total_bind ((h _ ⟨hvm, hst.guest, rfl, hn, hn, hd, hd⟩ hstatus).prog.mono ?_)
  rintro ⟨r, s'⟩ m' hr
  apply Prog.total_ret
  cases r with
  | ok a => exact hr
  | error x => exact hr.elim

/-- The worker can empty the queue, and whenever it does, `Q` holds. -/
structure DrainsTo (settings : Settings) (m : Shared) (Q : Shared → Prop) : Prop where
  can : ∃ m', Drains settings m m'
  each : ∀ m', Drains settings m m' → Q m'

section Drains
variable {settings : Settings} {Q : Shared → Prop} {v : VmId} {status : VMStatus}

theorem drainsTo_idle (hq : m.queue = []) (h : Q m) : DrainsTo settings m Q := by
  refine ⟨⟨m, .idle hq⟩, ?_⟩
  intro m' hd
  cases hd with
  | idle _ => exact h
  | job hq' _ _ =>
    rw [hq] at hq'
    cases hq'

theorem drainsTo_job {p : Payload} {rest : List Payload} (hq : m.queue = p :: rest)
    (h : (dispatch settings p).Total NormalAct
      { m with queue := rest, hist := .dispatch p.jobId :: m.hist } fun _ m' => DrainsTo settings m' Q) :
    DrainsTo settings m Q := by
  constructor
  · obtain ⟨a, m₁, he⟩ := h.can
    obtain ⟨m', hd⟩ := (h.each a m₁ he).can
    exact ⟨m', .job hq he hd⟩
  · intro m' hd
    cases hd with
    | idle hq' =>
      rw [hq] at hq'
      cases hq'
    | job hq' he hd =>
      rw [hq] at hq'
      cases hq'
      exact (h.each _ _ he).each m' hd

theorem Stands.same (h : Stands v n node running status m) (hdb : m'.db = m.db) (hpve : m'.pve = m.pve) :
    Stands v n node running status m' :=
  ⟨by rw [hdb]; exact h.row, by rw [hpve]; exact h.guest⟩

/-- The check that may be left changes nothing of this. -/
theorem check_drains (hst : Stands v n node running status m) (hm : CheckAtMost v m)
    (hQ : ∀ m', Stands v n node running status m' → m'.queue = [] → Q m') : DrainsTo settings m Q := by
  obtain hq | ⟨j, job, hq, hjob, ht⟩ := hm
  · exact drainsTo_idle hq (hQ m hst hq)
  · apply drainsTo_job hq
    let m₁ : Shared := { m with queue := [], hist := .dispatch j :: m.hist }
    have hst₁ : Stands v n node running status m₁ := hst.same rfl rfl
    have hjob₁ : m₁.db.jobs.get (sshPayload j v).jobId = some job := hjob
    refine dispatch_total settings hst₁ rfl hjob₁ ?_
    intro s h hs
    refine check_runs settings _ h ht ?_
    intro s' m' hst' hq'
    rw [hs] at hst'
    exact drainsTo_idle hq' (hQ m' hst' hq')

/-- A power job, with the check that may follow it. -/
theorem power_drains {p : Payload} {job : Job} {op : PowerOp} (hst : Stands v n node running status m)
    (hn : isNodeName node = true) (hq : m.queue = [p]) (hv : p.vmId = some v)
    (hjob : m.db.jobs.get p.jobId = some job) (hop : powerOp job.type = some op)
    (hQ : ∀ m', Stands v n node (if op.action.admits running then op.action.boots else running)
      (if op.action.admits running then op.final else .error) m' → m'.queue = [] → Q m') :
    DrainsTo settings m Q := by
  apply drainsTo_job hq
  let m₁ : Shared := { m with queue := [], hist := .dispatch p.jobId :: m.hist }
  have hst₁ : Stands v n node running status m₁ := hst.same rfl rfl
  have hjob₁ : m₁.db.jobs.get p.jobId = some job := hjob
  refine dispatch_total settings hst₁ hv hjob₁ ?_
  intro s h _
  refine powerJob_runs settings p h hn hop ?_
  intro s' m' hst' hm'
  exact check_drains hst' hm' hQ

end Drains

/-- The requests that start, stop or reboot the VM, with the job each asks for. -/
inductive Request.Powers (v : VmId) : Request → JobType → Prop
  | start : Request.Powers v (.startVm v) .startVm
  | stop : Request.Powers v (.stopVm v) .stopVm
  | reboot : Request.Powers v (.rebootVm v) .rebootVm

/-- The statuses in which such a job is accepted. -/
def JobType.takes : JobType → VMStatus → Bool
  | startVm, status => status = .stopped || status = .error
  | stopVm, status | rebootVm, status => status = .running
  | _, _ => false

/-- A job of this type is all that is queued, for the VM. -/
def Awaits (v : VmId) (type : JobType) (m : Shared) : Prop :=
  ∃ p job, m.queue = [p] ∧ p.vmId = some v ∧ m.db.jobs.get p.jobId = some job ∧ job.type = type

section Requests
variable {v : VmId} {status : VMStatus} {β : Type} {Q : β → Unit → Shared → Prop}
  {F : Exc → Unit → Shared → Prop} {R : Response → Unit → Shared → Prop}

theorem getLiveVm_total {f : VM → Route β} (h : Stands v n node running status m)
    (hf : ∀ vm : VM, vm.status = status → vm.proxmoxVmid = some n → Task.Total NormalAct (f vm) () m Q F) :
    Task.Total NormalAct (getLiveVm v >>= f) () m Q F := by
  obtain ⟨vm, hvm, hn, hd, hs⟩ := h.row
  refine total_bind (await_total (by simp) (fun a₁ m₁ => act_getVM) ?_)
  rw [hvm]
  dsimp only
  rw [if_pos hd]
  exact total_pure (hf vm hs hn)

theorem refuseIf_total {condition : Bool} {exc : Exc} {f : Unit → Route β}
    (hf : condition = false → Task.Total NormalAct (f ()) () m Q F) (hF : condition = true → F exc () m) :
    Task.Total NormalAct (refuseIf condition exc >>= f) () m Q F := by
  apply total_bind
  unfold refuseIf
  cases condition with
  | true => exact total_raise (hF rfl)
  | false => exact total_pure (hf rfl)

theorem enqueuePowerJob_total {type : JobType} (hq : m.queue = []) (h : Stands v n node running status m)
    (hR : ∀ resp m', Stands v n node running status m' → Awaits v type m' → R resp () m') :
    Task.Total NormalAct (enqueuePowerJob v type) () m R F := by
  refine await_total (by simp) (fun a₁ m₁ => act_insertJob) ?_
  refine total_bind (total_await ⟨(), _, normalAct_of_act (by simp) (act_put.mpr rfl)⟩ ?_)
  intro _ m₁ ha
  obtain rfl := act_put.mp ha.act
  apply total_pure
  apply hR
  · exact ⟨h.row, h.guest⟩
  · let job : Job := { type, vmId := some v }
    refine ⟨{ type, jobId := m.db.jobs.next, vmId := some v }, job, ?_, rfl, ?_, rfl⟩
    · simp [hq]
    · exact Table.get_insert_self _ _

/-- Such a request is answered at once: its job is queued, or the status does not admit it. -/
theorem powers_total {r : Request} {type : JobType} (settings : Settings) (hr : r.Powers v type)
    (hq : m.queue = []) (h : Stands v n node running status m) :
    Task.Total NormalAct (handle settings r) () m
      (fun _ _ m' => type.takes status = true ∧ Stands v n node running status m' ∧ Awaits v type m')
      fun _ _ _ => type.takes status = false := by
  cases hr with
  | start =>
    refine getLiveVm_total h ?_
    rintro vm rfl hn
    refine refuseIf_total (fun ht => ?_) fun ht => ?_
    · refine refuseIf_total (fun _ => ?_) fun hnone => ?_
      · apply enqueuePowerJob_total hq h
        intro resp m' hst haw
        rw [Bool.not_eq_false'] at ht
        exact ⟨ht, hst, haw⟩
      · rw [hn] at hnone
        cases hnone
    · simpa [JobType.takes] using ht
  | stop | reboot =>
    refine getLiveVm_total h ?_
    rintro vm rfl hn
    refine refuseIf_total (fun ht => ?_) fun ht => ?_
    · apply enqueuePowerJob_total hq h
      intro resp m' hst haw
      exact ⟨by simpa [JobType.takes] using ht, hst, haw⟩
    · simpa [JobType.takes] using ht

theorem serve_total {r : Request} {settings : Settings}
    (h : Task.Total NormalAct (handle settings r) () m R F) :
    (serve settings r).Total NormalAct m fun out m' =>
      match out with
      | .ok resp => R resp () m'
      | .error x => F x () m' := by
  refine Prog.total_bind (h.prog.mono ?_)
  rintro ⟨out, ⟨⟩⟩ m' hr
  apply Prog.total_ret
  cases out with
  | ok resp => exact hr
  | error x => exact hr

end Requests

end Clusteration
