import Clusteration.Invariants.Acts
import Clusteration.Invariants.Base

namespace Clusteration

section Rows
variable {m m' : View} {l : Label}

theorem Base.exec (hb : Base m) {w : Exec} (hw : m.worker = .exec w) : w.Holds m := by
  have h := hb.worker
  rwa [hw] at h

/-- The payload the worker is about to start. -/
theorem Base.loaded (hb : Base m) {p : Payload} {job : Job} {v : VmId} {vm : VM}
    (hw : m.worker = .loaded p job v vm) :
    m.jobs p.jobId = some ⟨p.type, .queued, some v, none⟩ ∧
      job.core = ⟨p.type, .queued, some v, none⟩ ∧ p ∈ m.payloads ∧
        ∃ row, m.vms v = some row ∧ vm.core.Agrees row := by
  have h := hb.worker
  rw [hw] at h
  obtain ⟨hj, hv, hrow⟩ := h
  have hp : p ∈ m.payloads := by simp [View.payloads, hw, WorkerPhase.payloads]
  obtain ⟨v', hv', hj'⟩ := (hb.carried hp).1
  obtain rfl : v' = v := Option.some.inj (hv'.symm.trans hv)
  exact ⟨hj', Option.some.inj (hj.symm.trans hj'), hp, hrow⟩

theorem Base.open_of_request (hb : Base m) {i : Nat} {φ : RequestPhase}
    (hφ : m.requests[i]? = some φ) : m.Open := by
  by_contra h
  rw [hb.closed h] at hφ
  simp at hφ

theorem Base.late (hb : Base m) (hw : m.worker ≠ .over ∨ m.queue ≠ []) : ¬ m.Early := by
  intro h
  obtain ⟨h₁, h₂⟩ := hb.early h
  rcases hw with hw | hw
  · exact hw h₁
  · exact hw h₂

theorem Base.adds (hb : Base m) {i : Nat} {φ : RequestPhase} {type : JobType} {v : VmId}
    (hφ : m.requests[i]? = some φ) (h : φ.Adds type v) : m.Known v ∧ type ≠ .createVm := by
  have hr := hb.requests (List.mem_of_getElem? hφ)
  cases h with
  | accepted type v => exact ⟨hr.1, hr.2.1⟩
  | marked v => exact ⟨hr, by simp⟩

/-- Rows are never removed. -/
theorem Move.vms_kept (hm : Move m l m') {v : VmId} {x : Core} (hx : m.vms v = some x) :
    ∃ x', m'.vms v = some x' := by
  cases hm with
  | recover adopted _ _ _ => exact ⟨_, by simp [hx]; rfl⟩
  | @edit w _ _ _ _ _ _ _ _ _ | @fail w _ _ _ _ _ _ _ =>
    by_cases h : v = w.v
    · exact ⟨_, by simp [h]; rfl⟩
    · exact ⟨x, by simp [Function.update_of_ne h, hx]⟩
  | @mark _ u _ _ _ _ _ _ | @create _ _ u _ _ _ _ _ _ _ _ _ _ _ =>
    by_cases h : v = u
    · exact ⟨_, by simp [h]; rfl⟩
    · exact ⟨x, by simp [Function.update_of_ne h, hx]⟩
  | _ => exact ⟨x, hx⟩

/-- A job row after a step: the same job, and queued only if nothing was done to it; or new. -/
inductive JobOrigin (m : View) (l : Label) (m' : View) (i : JobId) (c' : JobCore) : Prop
  | same {c : JobCore} : m.jobs i = some c → c'.type = c.type → c'.vmId = c.vmId →
      (c'.status = .queued → c' = c) → JobOrigin m l m' i c'
  | added {type : JobType} {v : VmId} : m.jobs i = none → c' = ⟨type, .queued, some v, none⟩ →
      type ≠ .createVm → m.Known v →
      (type = .sshReadinessCheck ∨
        ∃ n job, l = .await (.request n) (.insertJob job) i ∧ job.core = c') → JobOrigin m l m' i c'
  | created {v : VmId} {hostname : String} : m.jobs i = none →
      c' = ⟨.createVm, .queued, some v, none⟩ →
      m.vms v = none → m'.vms v = some ⟨.creating, .pending, none, none, none, hostname⟩ →
      (∀ i' c, m'.jobs i' = some c → i' = i ∨ m.jobs i' = some c) → JobOrigin m l m' i c'

theorem Move.jobs_back (hb : Base m) (hm : Move m l m') {i : JobId} {c' : JobCore}
    (h : m'.jobs i = some c') : JobOrigin m l m' i c' := by
  cases hm with
  | recover adopted _ _ _ =>
    simp only [Option.map_eq_some_iff] at h
    obtain ⟨c, hc, rfl⟩ := h
    refine .same hc ?_ ?_ ?_ <;> unfold JobCore.interrupted <;> split <;> simp
  | abandon _ _ =>
    simp only at h
    split at h
    · simp only [Option.map_eq_some_iff] at h
      obtain ⟨c, hc, rfl⟩ := h
      exact .same hc rfl rfl (by simp)
    · exact .same h rfl rfl fun _ => rfl
  | enter _ hw _ =>
    obtain ⟨hj, _, _, _⟩ := hb.loaded hw
    simp only [Function.update_apply] at h
    split at h
    · next hi =>
      subst hi
      cases h
      exact .same hj rfl rfl (by simp)
    · exact .same h rfl rfl fun _ => rfl
  | edit _ hw _ _ | fail _ hw _ _ _ | finish _ hw _ =>
    simp only [Function.update_apply] at h
    split at h
    · next hi =>
      subst hi
      cases h
      exact .same (hb.exec hw).job rfl rfl (by simp)
    · exact .same h rfl rfl fun _ => rfl
  | follow _ hw hj =>
    simp only [Function.update_apply] at h
    split at h
    · next hi =>
      subst hi
      cases h
      have hk := hb.worker
      rw [hw] at hk
      exact .added hj rfl (by simp) hk (.inl rfl)
    · exact .same h rfl rfl fun _ => rfl
  | insert _ hφ ha hj hc _ _ _ =>
    simp only [Function.update_apply] at h
    split at h
    · next hi =>
      subst hi
      cases h
      obtain ⟨hk, ht⟩ := hb.adds hφ ha
      exact .added hj hc ht hk (.inr ⟨_, _, rfl, rfl⟩)
    · exact .same h rfl rfl fun _ => rfl
  | create _ _ hv hj _ _ _ =>
    simp only [Function.update_apply] at h
    split at h
    · next hi =>
      subst hi
      cases h
      refine .created hj rfl hv (Function.update_self _ _ _) fun i' c hc => ?_
      simp only [Function.update_apply] at hc
      split at hc
      · next hi => exact .inl hi
      · exact .inr hc
    · exact .same h rfl rfl fun _ => rfl
  | _ => exact .same h rfl rfl fun _ => rfl

theorem View.Known.step {v : VmId} (hk : m.Known v) (hb : Base m) (hm : Move m l m') :
    m'.Known v := by
  obtain ⟨⟨x, hx⟩, hf⟩ := hk
  refine ⟨hm.vms_kept hx, ?_⟩
  rintro ⟨i, c', hc', ht, hs, hv⟩
  cases hm.jobs_back hb hc' with
  | same hc ht' hv' hq =>
    cases hq hs
    exact hf ⟨i, _, hc, ht, hs, hv⟩
  | added _ hc hne _ _ =>
    subst hc
    exact hne ht
  | created _ hc hn _ _ =>
    subst hc
    cases hv
    rw [hx] at hn
    cases hn

/-- A record after a step: as it was, or what the job at work, a re-check, the recovery or a
creation has made of it. -/
inductive RowOrigin (m : View) (l : Label) (m' : View) (v : VmId) (x' : Core) : Prop
  | same : m.vms v = some x' → RowOrigin m l m' v x'
  | edit {w : Exec} {stage : Stage} {x row : Core} {target : Option Int} : m.worker = .exec w →
      w.v = v → m.vms v = some row → Edit w stage x target →
      m'.worker = .exec { w with stage, x, target } → x' = Core.written w.x x row →
      RowOrigin m l m' v x'
  | fail {w : Exec} {row : Core} : m.worker = .exec w → w.v = v → m.vms v = some row →
      w.stage.raises = true → w.type ≠ .sshReadinessCheck → m'.worker = .over →
      x' = { row with status := .error } → RowOrigin m l m' v x'
  | mark {n : Nat} {vm : VM} {row : Core} : m.requests[n]? = some (.recheck v vm) →
      m'.requests = m.requests.set n (.marked v) → m.vms v = some row →
      x' = { row with ssh := if vm.sshStatus = .pending then row.ssh else .pending } →
      RowOrigin m l m' v x'
  | recover {adopted : Option Int} {row : Core} : m.vms v = some row →
      (∀ n, adopted = some n ↔ ∃ i c, m.jobs i = some c ∧ c.status = .running ∧
        c.vmId = some v ∧ c.target = some n ∧ n ≠ 0) →
      (∀ i, m'.jobs i = (m.jobs i).map JobCore.interrupted) →
      x' = Core.recovered adopted row → RowOrigin m l m' v x'
  | create {n : Nat} {hostname : String} {p : Payload} : m.requests[n]? = some (.vacant hostname) →
      m'.requests = m.requests.set n (.created p) →
      (∀ u x, m'.vms u = some x → u = v ∨ m.vms u = some x) → m.vms v = none →
      x' = ⟨.creating, .pending, none, none, none, hostname⟩ → RowOrigin m l m' v x'

theorem Move.vms_back (hm : Move m l m') {v : VmId} {x' : Core} (h : m'.vms v = some x') :
    RowOrigin m l m' v x' := by
  cases hm with
  | recover adopted _ _ hadopted =>
    simp only [Option.map_eq_some_iff] at h
    obtain ⟨row, hrow, rfl⟩ := h
    exact .recover hrow (hadopted v) (fun _ => rfl) rfl
  | @edit w _ _ _ _ _ _ hw hrow he =>
    simp only [Function.update_apply] at h
    split at h
    · next hv =>
      subst hv
      exact .edit hw rfl hrow he rfl (Option.some.inj h).symm
    · exact .same h
  | @fail w _ _ _ hw hrow hns hnssh =>
    simp only [Function.update_apply] at h
    split at h
    · next hv =>
      subst hv
      exact .fail hw rfl hrow hns hnssh rfl (Option.some.inj h).symm
    · exact .same h
  | mark _ hφ hrow =>
    simp only [Function.update_apply] at h
    split at h
    · next hv =>
      subst hv
      exact .mark hφ rfl hrow (Option.some.inj h).symm
    · exact .same h
  | @create _ _ v' _ _ _ _ _ hφ hv _ _ _ _ =>
    simp only [Function.update_apply] at h
    split at h
    · next hv' =>
      subst hv'
      refine .create hφ rfl (fun u x hu => ?_) hv (Option.some.inj h).symm
      simp only [Function.update_apply] at hu
      split at hu
      · next hu' => exact .inl hu'
      · exact .inr hu
    · exact .same h
  | _ => exact .same h

/-- The job at work after a step: just begun, or what the step has made of the one before. -/
inductive ExecOrigin (m : View) (l : Label) (m' : View) (w' : Exec) : Prop
  | same : m.worker = .exec w' → ExecOrigin m l m' w'
  | enter {p : Payload} {job : Job} {v : VmId} {vm row : VM} : m.worker = .loaded p job v vm →
      m.vms v = some row.core → m'.hist = .enter p.jobId (some row) :: m.hist →
      w' = Exec.begin p job v vm → ExecOrigin m l m' w'
  | allocated {w : Exec} {out : HttpOutcome} {n : Int} : m.worker = .exec w → w.stage = .prepared →
      l = .await .worker (.http (some w.caller) .nextId) out → nextIdOf out = some n →
      100 ≤ n → m.pve.find n = none → m'.pve = m.pve → w' = { w with stage := .allocated n } →
      ExecOrigin m l m' w'
  | reached {w : Exec} {ip : String} : m.worker = .exec w → w.stage = .entry →
      w.type = .sshReadinessCheck → w.x.ip = some ip → l = .await .worker (.ssh w.v ip) true →
      m'.hist = .sshOk w.v ip :: m.hist → m'.pve = m.pve → w' = { w with stage := .reached } →
      ExecOrigin m l m' w'
  | learn {w : Exec} {e : Eff} {r : Ans e} {stage : Stage} : m.worker = .exec w →
      l = .await .worker e r → Learns w e r stage → (∀ n, stage ≠ .allocated n) → stage ≠ .reached →
      w' = { w with stage } → ExecOrigin m l m' w'
  | edit {w : Exec} {stage : Stage} {x : Core} {target : Option Int} : m.worker = .exec w →
      Edit w stage x target → w' = { w with stage, x, target } → ExecOrigin m l m' w'

theorem Move.exec_back (hm : Move m l m') {w' : Exec} (h : m'.worker = .exec w') :
    ExecOrigin m l m' w' := by
  cases hm with
  | enter _ hw hv =>
    cases h
    exact .enter hw hv rfl rfl
  | http _ hw hcall hserve =>
    cases h
    rcases hcall with ⟨_, rfl⟩ | hl
    · exact .same hw
    · have hlearns := hl
      cases hl with
      | nextId hs hn =>
        obtain ⟨hpve, hhonest⟩ := serve_get rfl hserve
        simp only [Cluster.honest, hn, Bool.and_eq_true, decide_eq_true_eq,
          Option.isNone_iff_eq_none] at hhonest
        exact .allocated hw hs rfl hn hhonest.1 hhonest.2 hpve rfl
      | _ => exact .learn hw rfl hlearns (by simp) (by simp) rfl
  | ssh _ hw hs ht hip =>
    cases h
    exact .reached hw hs ht hip rfl rfl rfl rfl
  | clock _ hw hl =>
    cases h
    have hlearns := hl
    cases hl <;> exact .learn hw rfl hlearns (by simp) (by simp) rfl
  | edit _ hw _ he =>
    cases h
    exact .edit hw he rfl
  | crash _ | restart _ _ | get _ _ _ | job _ _ _ | vm _ _ _ _ | fail _ _ _ _ _ | follow _ _ _
  | followPut _ _ => cases h
  | finish _ _ _ =>
    simp only at h
    split at h <;> cases h
  | _ => exact .same h

theorem Move.loaded_back (hm : Move m l m') {p : Payload} {job : Job} {v : VmId} {vm : VM}
    (hw : m'.worker = .loaded p job v vm) :
    m.worker = .loaded p job v vm ∨ m'.vms v = some vm.core := by
  cases hm with
  | vm _ _ _ hv =>
    cases hw
    exact .inr hv
  | crash _ | restart _ _ | get _ _ _ | job _ _ _ | enter _ _ _ | http _ _ _ _ | ssh _ _ _ _ _
  | clock _ _ _ | edit _ _ _ _ | fail _ _ _ _ _ | follow _ _ _ | followPut _ _ => cases hw
  | finish _ _ _ =>
    simp only at hw
    split at hw <;> cases hw
  | _ => exact .inl hw

/-- What an edit makes of the VMID. -/
theorem Edit.vmid {w : Exec} {stage : Stage} {x : Core} {target : Option Int}
    (h : Edit w stage x target) :
    x.vmid = w.x.vmid ∨ (x.vmid = none ∧ w.Gone ∧ w.type = .reinstallVm) ∨
      ∃ n start, w.stage = .copying n start ∧ stage = .created n ∧ x.vmid = some n := by
  cases h with
  | cleared hg ht => exact .inr (.inl ⟨rfl, hg, ht⟩)
  | adopt hs => exact .inr (.inr ⟨_, _, hs, rfl, rfl⟩)
  | _ => exact .inl rfl

/-- The VMID of a record after a step. -/
inductive VmidOrigin (m m' : View) (v : VmId) (x x' : Core) : Prop
  | kept : x'.vmid = x.vmid → VmidOrigin m m' v x x'
  | cleared {w : Exec} : m.worker = .exec w → w.v = v → w.Gone → w.type = .reinstallVm →
      x'.vmid = none → VmidOrigin m m' v x x'
  | adopted {w : Exec} {n : Int} {start : Nat} : m.worker = .exec w → w.v = v →
      w.stage = .copying n start →
      x.vmid = none → x'.vmid = some n → VmidOrigin m m' v x x'
  | recovered {i : JobId} {c : JobCore} {n : Int} : m.jobs i = some c → c.status = .running →
      c.vmId = some v → c.target = some n → x.vmid = none → x'.vmid = some n →
      VmidOrigin m m' v x x'

theorem Move.vmid_back (hb : Base m) (hm : Move m l m') {v : VmId} {x x' : Core}
    (hx : m.vms v = some x) (hx' : m'.vms v = some x') : VmidOrigin m m' v x x' := by
  cases hm.vms_back hx' with
  | same h =>
    obtain rfl := Option.some.inj (hx.symm.trans h)
    exact .kept rfl
  | @edit w stage y row target hw hv hrow he _ hx'' =>
    obtain rfl := Option.some.inj (hx.symm.trans hrow)
    obtain ⟨hok, _, row', hrow', hag⟩ := hb.exec hw
    obtain rfl := Option.some.inj (hx.symm.trans (hv ▸ hrow'))
    subst hx''
    rcases he.vmid with h | ⟨h, hg, ht⟩ | ⟨n, start, hs, _, h⟩
    · exact .kept (h.trans hag.vmid.symm)
    · exact .cleared hw hv hg ht h
    · simp only [Exec.Ok, hs] at hok
      exact .adopted hw hv hs (hag.vmid.trans hok.2.1) h
  | fail _ _ hrow _ _ _ hx'' | mark _ _ hrow hx'' =>
    obtain rfl := Option.some.inj (hx.symm.trans hrow)
    subst hx''
    exact .kept rfl
  | @recover adopted row hrow hadopted _ hx'' =>
    obtain rfl := Option.some.inj (hx.symm.trans hrow)
    subst hx''
    cases hn : x.vmid with
    | some n => exact .kept (by simp [Core.recovered, hn])
    | none =>
      cases ha : adopted with
      | none => exact .kept (by simp [Core.recovered, hn])
      | some n =>
        obtain ⟨i, c, hc, hs, hcv, ht, _⟩ := (hadopted n).mp ha
        exact .recovered hc hs hcv ht hn (by simp [Core.recovered, hn])
  | create _ _ _ h _ =>
    rw [hx] at h
    cases h

theorem Edit.target_eq {w : Exec} {stage : Stage} {x : Core} {target : Option Int}
    (h : Edit w stage x target) :
    target = w.target ∨
      ∃ n, (w.stage = .allocated n ∨ w.stage = .lost n) ∧ target = some n := by
  cases h with
  | target hs => exact .inr ⟨_, .inl hs, rfl⟩
  | targetLost hs => exact .inr ⟨_, .inr hs, rfl⟩
  | _ => exact .inl rfl

/-- A running job's target was there before, or the job has just noted it. -/
theorem Move.target_back (hb : Base m) (hm : Move m l m') {i : JobId} {c' : JobCore} {n : Int}
    (h : m'.jobs i = some c') (hs : c'.status = .running) (ht : c'.target = some n) :
    m.jobs i = some c' ∨
      ∃ w, m.worker = .exec w ∧ (w.stage = .allocated n ∨ w.stage = .lost n) ∧
        c'.vmId = some w.v := by
  cases hm with
  | recover _ _ _ _ =>
    obtain ⟨c, _, rfl⟩ := Option.map_eq_some_iff.mp h
    unfold JobCore.interrupted at hs
    split at hs
    · cases hs
    · next hne => exact absurd hs hne
  | abandon _ _ =>
    simp only at h
    split at h
    · obtain ⟨c, _, rfl⟩ := Option.map_eq_some_iff.mp h
      cases hs
    · exact .inl h
  | @enter p _ _ _ _ _ _ _ _ =>
    simp only [Function.update_apply] at h
    split at h
    · cases h
      cases ht
    · exact .inl h
  | @edit w stage x row target _ _ hw _ he =>
    simp only [Function.update_apply] at h
    split at h
    · next hi =>
      subst hi
      cases h
      rcases he.target_eq with rfl | ⟨n', hst, rfl⟩
      · exact .inl (hb.exec hw).job
      · cases ht
        exact .inr ⟨w, hw, hst, rfl⟩
    · exact .inl h
  | fail _ _ _ _ _ | finish _ _ _ | follow _ _ _ | create _ _ _ _ _ _ _ =>
    simp only [Function.update_apply] at h
    split at h
    · cases h
      cases hs
    · exact .inl h
  | insert _ _ _ _ hc _ _ _ =>
    simp only [Function.update_apply, hc] at h
    split at h
    · cases h
      cases hs
    · exact .inl h
  | _ => exact .inl h

/-- No step makes a deleted record live again. -/
theorem Edit.live {w : Exec} {stage : Stage} {x : Core} {target : Option Int}
    (h : Edit w stage x target) (hx : x.deletedAt = none) : w.x.deletedAt = none := by
  cases h with
  | deleted _ _ _ => cases hx
  | _ => exact hx

theorem Move.live_back (hb : Base m) (hm : Move m l m') {v : VmId} {x' : Core}
    (hx' : m'.vms v = some x') (hd : x'.deletedAt = none) :
    (∃ x, m.vms v = some x ∧ x.deletedAt = none) ∨ x'.vmid = none := by
  cases hm.vms_back hx' with
  | same h => exact .inl ⟨x', h, hd⟩
  | @edit w stage y row target hw hv hrow he _ hx'' =>
    subst hv hx''
    obtain ⟨_, _, row', hrow', hag⟩ := hb.exec hw
    exact .inl ⟨row', hrow', hag.deletedAt.trans (he.live hd)⟩
  | fail _ _ hrow _ _ _ hx'' | mark _ _ hrow hx'' | recover hrow _ _ hx'' =>
    subst hx''
    exact .inl ⟨_, hrow, hd⟩
  | create _ _ _ _ hx'' => exact .inr (by rw [hx''])

end Rows

end Clusteration
