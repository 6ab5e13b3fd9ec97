import Clusteration.Protocol.Walks

open Async Task

namespace Clusteration

/-- The await leaves the rows of jobs alone; a job it adds is queued, and nothing of it is done. -/
def Eff.aside : Eff → Bool
  | .commit f => f.jobs.isEmpty
  | .insertJob job | .insertVM _ job => job.status = .queued && job.progress = 0
  | .recover => false
  | _ => true

theorem aside_of_isRead {caller : Option Caller} {e : Eff} (h : IsRead caller e) :
    e.aside = true := by
  cases h with
  | clock hc => cases hc <;> rfl
  | _ => rfl

inductive ProgressPhase where
  | free
  /-- the worker has loaded the row of a queued job -/
  | loaded (j : JobId) (job : Job)
  /-- it has begun the job, whose `meta` is this -/
  | held (j : JobId) (type : JobType) (metadata : JobMeta)
  /-- it has loaded a row that no queued job has -/
  | lost

/-- A commit of the job's session. The progress does not fall, and a provisioning that succeeds has come
as far as the address. -/
structure Advances (j : JobId) (type : JobType) (m m' : JobMeta) (f : Flush) : Prop where
  rows : ∃ b c, f.jobs = [⟨j, b, c⟩] ∧ b.metadata = m ∧ c.metadata = m' ∧ c.status ≠ .queued ∧
    (c.status = .success → type.provisions = true → 6 ≤ c.progress)
  forward : keyIndex (operationKey m.operation) ≤ keyIndex (operationKey m'.operation)

inductive ProgressT : ProgressPhase → (e : Eff) → Ans e → ProgressPhase → Prop
  | aside {φ : ProgressPhase} {e : Eff} {r : Ans e} : e.aside = true → ProgressT φ e r φ
  | load {j : JobId} {job : Job} : job.status = .queued → job.progress = 0 →
      ProgressT .free (.getJob j) (some job) (.loaded j job)
  | stray {j : JobId} {job : Job} : ¬ (job.status = .queued ∧ job.progress = 0) →
      ProgressT .free (.getJob j) (some job) .lost
  | begin {j : JobId} {job : Job} {vms : List (Dirty VM)} :
      ProgressT (.loaded j job) (.commit ⟨[⟨j, job, job.running⟩], vms⟩) () (.held j job.type job.metadata)
  | advance {j : JobId} {type : JobType} {m m' : JobMeta} {f : Flush} : Advances j type m m' f →
      ProgressT (.held j type m) (.commit f) () (.held j type m')
  | anything {e : Eff} {r : Ans e} : ProgressT .lost e r .lost

/-- The session of a job that has come to step `k`: what it has last committed is not ahead of it, and a
provisioning that is taken as done has come as far as the address. -/
structure Bar (c : Caller) (type : JobType) (k : Nat) (s : Session) (φ : ProgressPhase) : Prop where
  phase : φ = .held c.job type s.job0.metadata
  base : s.job0.progress ≤ k
  index : s.job.progress = k
  begun : s.job.status ≠ .queued
  done : s.job.status = .success → type.provisions = true → 6 ≤ k

theorem Bar.advances {c : Caller} {type : JobType} {k : Nat} {s : Session} {φ : ProgressPhase}
    (h : Bar c type k s φ) {job : Job} {vms : List (Dirty VM)} (hmeta : job.metadata = s.job.metadata)
    (hbegun : job.status ≠ .queued)
    (hdone : job.status = .success → type.provisions = true → 6 ≤ k) :
    Advances c.job type s.job0.metadata s.job.metadata ⟨[⟨c.job, s.job0, job⟩], vms⟩ := by
  have hprogress : job.progress = k := by
    unfold Job.progress
    rw [hmeta]
    exact h.index
  have hforward : s.job0.progress ≤ s.job.progress := h.base.trans (Nat.le_of_eq h.index.symm)
  refine ⟨⟨s.job0, job, rfl, rfl, hmeta, hbegun, ?_⟩, hforward⟩
  rw [hprogress]
  exact hdone

/-- Each commit of a job moves its progress forward. -/
theorem bar_rules (c : Caller) (type : JobType) : WorkRules c type ProgressT (Bar c type) where
  read := fun _ he _ _ => .aside (aside_of_isRead he)
  http := fun _ _ _ _ => .aside rfl
  ssh := fun _ _ _ => .aside rfl
  follow := fun _ _ => .aside rfl
  put := fun _ _ _ => .aside rfl
  vm := fun _ h => ⟨h.phase, h.base, h.index, h.begun, h.done⟩
  note := by
    intro k k' s φ patch op hop hindex hk h
    have hindex' : ({ s.job with metadata := s.job.metadata.merge patch } : Job).progress = k' := by
      show keyIndex (operationKey (patch.operation <|> s.job.metadata.operation)) = k'
      rw [hop]
      exact hindex
    exact ⟨h.phase, h.base.trans hk, hindex', h.begun, fun hs ht => (h.done hs ht).trans hk⟩
  succeed := fun hk h => ⟨h.phase, h.base, h.index, by simp, fun _ => hk⟩
  commit := by
    intro k s φ h
    obtain rfl := h.phase
    exact ⟨_, .advance (h.advances rfl h.begun h.done), rfl, Nat.le_of_eq h.index, h.index, h.begun,
      h.done⟩
  fail := by
    intro k s φ exc h
    obtain rfl := h.phase
    exact ⟨_, .advance (h.advances rfl (by simp) (by simp))⟩

def Always {α : Type} (_ : α) (_ : ProgressPhase) : Prop := True

theorem lost_follows {α : Type} (p : Prog Eff Ans α) : p.Follows ProgressT .lost Always := by
  induction p with
  | ret a => trivial
  | await e k ih => exact fun r => ⟨.lost, .anything, ih r⟩

theorem dispatchWithoutVm_bar (j : JobId) (job : Job) :
    (dispatchWithoutVm j job).Follows ProgressT (.loaded j job) Always := by
  intro _
  refine ⟨_, .begin, ?_⟩
  intro _
  have hrows : Advances j job.type job.metadata job.metadata
      ⟨[⟨j, job.running, { job.running with
        status := .failed, error := some (sanitizeJobError (.runtimeError "VM não encontrada")) }⟩], []⟩ :=
    ⟨⟨_, _, rfl, rfl, rfl, by simp, by simp⟩, Nat.le_refl _⟩
  exact ⟨_, .advance hrows, trivial⟩

theorem dispatch_bar (settings : Settings) (payload : Payload) :
    (dispatch settings payload).Follows ProgressT .free Always := by
  intro job
  cases job with
  | none => exact ⟨.free, .aside rfl, trivial⟩
  | some job =>
    by_cases hfresh : job.status = .queued ∧ job.progress = 0
    · refine ⟨_, .load hfresh.1 hfresh.2, ?_⟩
      dsimp only
      cases payload.vmId with
      | none => exact dispatchWithoutVm_bar payload.jobId job
      | some v =>
        intro vm
        refine ⟨.loaded payload.jobId job, .aside rfl, ?_⟩
        cases vm with
        | none => exact dispatchWithoutVm_bar payload.jobId job
        | some vm =>
          have hbar : Bar ⟨payload.jobId, v⟩ job.type 0 ⟨job.running, job.running, vm, vm⟩
              (.held payload.jobId job.type job.metadata) :=
            ⟨rfl, Nat.le_of_eq hfresh.2, hfresh.2, by simp [Job.running], by simp [Job.running]⟩
          have hjob : Spec ProgressT (runJob settings payload ⟨payload.jobId, v⟩ job) ⟨job, job, vm, vm⟩
              (.loaded payload.jobId job) Ended Ended :=
            (bar_rules ⟨payload.jobId, v⟩ job.type).runJob_walk rfl (fun _ _ _ _ _ _ => .aside rfl)
              ⟨_, .begin, hbar⟩
          apply Prog.follows_bind hjob.follows
          intro out φ' _
          trivial
    · exact ⟨.lost, .stray hfresh, lost_follows _⟩

end Clusteration
