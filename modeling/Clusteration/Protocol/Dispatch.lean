import Clusteration.Protocol.Jobs

open Async Task

namespace Clusteration

variable {c : Caller} {w : Exec} {s : Session}

/-- The worker has nothing left to do for this payload. -/
def IsOver {α : Type} (_ : α) (_ : Session) (φ : WorkerPhase) : Prop := φ = .over

/-- What makes `dispatch` go to its exception handler. The readiness check never does. -/
def Raises (c : Caller) (type : JobType) (x : Exc) (s : Session) (φ : WorkerPhase) : Prop :=
  Fails c type x s φ ∧ type ≠ .sshReadinessCheck

theorem succeed_spec {type : JobType} {φ : WorkerPhase} {F : Exc → Session → WorkerPhase → Prop}
    (h : Settles c type s φ) :
    Spec WorkerT (succeed c) s φ
      (fun _ _ φ' => φ' = if type.followedUp then .succeeded c.vm else .over) F := by
  obtain ⟨w, rfl, rfl, hs, h⟩ := h
  have hc : Commits w ⟨[⟨c.job, s.job0, { s.job with status := .success }⟩], [⟨c.vm, s.vm0, s.vm⟩]⟩
      .success w.target w.x := by
    refine ⟨s.job0, { s.job with status := .success }, s.vm0, s.vm, ?_, h.base, rfl, h.target0,
      h.target, h.core0, h.core⟩
    rw [← h.caller]
    rfl
  refine spec_bind (spec_assign (spec_bind (spec_session (spec_bind (spec_await fun _ => ?_)))))
  refine ⟨_, .finish hs hc, spec_assign ?_⟩
  rw [← h.caller]
  rfl

theorem followUp_spec {F : Exc → Session → WorkerPhase → Prop} :
    Spec WorkerT (followUp c) s (.succeeded c.vm) IsOver F := by
  refine spec_bind (spec_await fun j => ⟨_, .insert rfl, ?_⟩)
  exact spec_await fun _ => ⟨_, .put, rfl⟩

/-- The last two steps of a job that is followed up. -/
theorem finish_spec {type : JobType} {φ : WorkerPhase} {F : Exc → Session → WorkerPhase → Prop}
    (h : Settles c type s φ) (hf : type.followedUp = true) :
    Spec WorkerT (do succeed c; followUp c) s φ IsOver F := by
  refine spec_bind (spec_mono (succeed_spec h) ?_ fun _ _ _ hF => hF)
  rintro _ s' _ rfl
  rw [if_pos hf]
  exact followUp_spec

theorem finishAlone_spec {type : JobType} {φ : WorkerPhase} {F : Exc → Session → WorkerPhase → Prop}
    (h : Settles c type s φ) (hf : type.followedUp = false) :
    Spec WorkerT (succeed c) s φ IsOver F := by
  refine spec_mono (succeed_spec h) ?_ fun _ _ _ hF => hF
  rintro _ s' _ rfl
  simp [IsOver, hf]

theorem rootPassword_spec {payload : Payload} {φ : WorkerPhase}
    {Q : String → Session → WorkerPhase → Prop} {F : Exc → Session → WorkerPhase → Prop}
    (hQ : ∀ password, Q password s φ) (hF : ∀ x, F x s φ) :
    Spec WorkerT (rootPassword payload) s φ Q F := by
  unfold rootPassword
  cases payload.rootPassword with
  | some password => exact spec_pure (hQ password)
  | none => exact spec_raise (hF _)

/-- A job's body, then its last steps. -/
theorem body_spec {type : JobType} {m rest : Work Unit} (hne : type ≠ .sshReadinessCheck)
    (hm : Spec WorkerT m s (.exec w) (fun _ => Settles c type) (Fails c type))
    (hrest : ∀ s' φ', Settles c type s' φ' → Spec WorkerT rest s' φ' IsOver (Raises c type)) :
    Spec WorkerT (do m; rest) s (.exec w) IsOver (Raises c type) :=
  spec_bind (spec_mono hm (fun _ s' φ' h => hrest s' φ' h) fun _ _ _ h => ⟨h, hne⟩)

theorem execute_spec {settings : Settings} {payload : Payload} {job : Job} (h : Fits c w w.x s)
    (hs : w.stage = .entry) (ht : w.type = job.type) :
    Spec WorkerT (execute settings payload c job) s (.exec w) IsOver (Raises c job.type) := by
  have hraise : ∀ x, Fails c w.type x s (.exec w) := fun x => h.fails rfl (by rw [hs]; rfl)
  have hpower : ∀ type, w.type = type → type ≠ .sshReadinessCheck →
      type.followedUp = type.bootsVm → Spec WorkerT (do
        powerJob c type
        succeed c
        if type.bootsVm then followUp c else pure ()) s (.exec w) IsOver (Raises c type) := by
    intro type hw hne hfb
    refine body_spec hne (powerJob_spec h hs hw) fun s' φ' h' => ?_
    refine spec_bind (spec_mono (succeed_spec h') ?_ fun _ _ _ hF => hF)
    rintro _ s'' _ rfl
    rw [hfb]
    split
    · exact followUp_spec
    · exact spec_pure rfl
  unfold execute
  cases hj : job.type <;> rw [hj] at ht <;> dsimp only
  case createVm =>
    refine spec_bind (rootPassword_spec (fun password => ?_) fun x => ⟨ht ▸ hraise x, by simp⟩)
    exact body_spec (by simp) (createVmJob_spec h hs ht) fun _ _ h' => finish_spec h' rfl
  case reinstallVm =>
    refine spec_bind (rootPassword_spec (fun password => ?_) fun x => ⟨ht ▸ hraise x, by simp⟩)
    exact body_spec (by simp) (reinstallVmJob_spec h hs ht) fun _ _ h' => finish_spec h' rfl
  case startVm => exact hpower _ ht (by simp) rfl
  case stopVm => exact hpower _ ht (by simp) rfl
  case rebootVm => exact hpower _ ht (by simp) rfl
  case deleteVm =>
    exact body_spec (by simp) (deleteVmJob_spec h hs ht) fun _ _ h' => finishAlone_spec h' rfl
  case sshReadinessCheck =>
    refine spec_bind (spec_mono (checkSshReady_spec h hs ht) ?_ fun _ _ _ hF => hF.elim)
    exact fun _ s' φ' h' => finishAlone_spec h' rfl

theorem jobFailed_spec {type : JobType} {x : Exc} {φ : WorkerPhase}
    {F : Exc → Session → WorkerPhase → Prop} (h : Raises c type x s φ) :
    Spec WorkerT (jobFailed c x) s φ IsOver F := by
  obtain ⟨⟨w, y, rfl, rfl, hs, h, hy⟩, hne⟩ := h
  have hcore : ({ s.vm with status := .error } : VM).core = { w.x with status := .error } := by
    rw [← hy, ← h.core]
    rfl
  have hc : Commits w
      ⟨[⟨c.job, s.job0,
          { s.job with status := .failed, error := some (sanitizeJobError x) }⟩],
        [⟨c.vm, s.vm0, { s.vm with status := .error }⟩]⟩
      .failed w.target { w.x with status := .error } := by
    refine ⟨s.job0, { s.job with status := .failed, error := some (sanitizeJobError x) }, s.vm0,
      { s.vm with status := .error }, ?_, h.base, rfl, h.target0, h.target, h.core0, hcore⟩
    rw [← h.caller]
    rfl
  refine spec_bind (spec_assign (spec_bind (spec_assign (spec_bind (spec_session
    (spec_bind (spec_await fun _ => ?_)))))))
  exact ⟨_, .fail hs hne hc, spec_assign rfl⟩

theorem runJob_spec {settings : Settings} {p : Payload} {job : Job} {v : VmId} {vm : VM} :
    Spec WorkerT (runJob settings p ⟨p.jobId, v⟩ job) ⟨job, job, vm, vm⟩ (.loaded p job v vm)
      IsOver IsOver := by
  refine spec_bind (spec_assign (spec_bind (spec_bind (spec_session (spec_bind (spec_await fun _ =>
    ⟨_, .enter, spec_assign ?_⟩))))))
  refine spec_catch (spec_mono (execute_spec (w := Exec.begin p job v vm) ?_ rfl rfl)
    (fun _ _ _ hQ => hQ) fun x s' φ' h => jobFailed_spec h)
  exact ⟨rfl, rfl, rfl, rfl, rfl, rfl, rfl⟩

/-- The worker's coroutine keeps to its protocol. -/
theorem dispatch_follows (settings : Settings) (p : Payload) :
    (dispatch settings p).Follows WorkerT (.fetched p) fun _ φ => φ = .over := by
  have hwithout : ∀ job, (dispatchWithoutVm p.jobId job).Follows WorkerT (.noVm p.jobId job)
      fun _ φ => φ = .over :=
    fun job _ => ⟨_, .orphan, fun _ => ⟨_, .orphanFailed rfl rfl, rfl⟩⟩
  intro job
  cases job with
  | none => exact ⟨_, .jobMissing p, rfl⟩
  | some job =>
    cases hv : p.vmId with
    | none =>
      refine ⟨_, .jobAlone job hv, ?_⟩
      dsimp only
      exact hwithout job
    | some v =>
      refine ⟨_, .job job (by simp [hv]), ?_⟩
      dsimp only
      intro vm
      cases vm with
      | none => exact ⟨_, .vmMissing hv, hwithout job⟩
      | some vm =>
        refine ⟨_, .vm vm hv, Prog.follows_bind runJob_spec.follows ?_⟩
        rintro ⟨r, s'⟩ φ' hr
        cases r with
        | ok u => exact hr
        | error x => exact hr

end Clusteration
