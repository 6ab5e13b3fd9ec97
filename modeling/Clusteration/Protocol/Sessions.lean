import Clusteration.Panel.Worker
import Clusteration.Protocol.Reading

open Async Task

namespace Clusteration

variable {α : Type} {c : Caller} {w : Exec} {y : Core} {s : Session}

/-- The session of the job `w`: `y` are the columns of the record in it, flushed or not. -/
structure Fits (c : Caller) (w : Exec) (y : Core) (s : Session) : Prop where
  caller : w.caller = c
  base : s.job0.status = .running
  status : s.job.status = .running
  target0 : s.job0.metadata.targetVmid = w.target
  target : s.job.metadata.targetVmid = w.target
  core0 : s.vm0.core = w.x
  core : s.vm.core = y

theorem Fits.setVm {y' : Core} {vm' : VM} (h : Fits c w y s) (hvm : vm'.core = y') :
    Fits c w y' { s with vm := vm' } :=
  { h with core := hvm }

theorem Fits.stage (h : Fits c w y s) (stage : Stage) : Fits c { w with stage } y s :=
  { h with }

/-- How a job ends in its exception handler: from a stage that may raise, with nothing in the
session that the handler would not overwrite. -/
def Fails (c : Caller) (type : JobType) (_ : Exc) (s : Session) (φ : WorkerPhase) : Prop :=
  ∃ w y, φ = .exec w ∧ w.type = type ∧ w.stage.raises = true ∧ Fits c w y s ∧
    { y with status := .error } = { w.x with status := .error }

theorem Fits.fails {x : Exc} {type : JobType} (h : Fits c w w.x s) (ht : w.type = type)
    (hs : w.stage.raises = true) : Fails c type x s (.exec w) :=
  ⟨w, w.x, rfl, ht, hs, h, rfl⟩

section Rules
variable {Q : α → Session → WorkerPhase → Prop} {F : Exc → Session → WorkerPhase → Prop}

theorem theVm_spec {f : VM → Work α} (h : Spec WorkerT (f s.vm) s (.exec w) Q F) :
    Spec WorkerT (theVm >>= f) s (.exec w) Q F :=
  spec_bind (spec_bind (spec_session (spec_pure h)))

theorem setVm_spec {g : VM → VM} {f : Unit → Work α}
    (h : Spec WorkerT (f ()) { s with vm := g s.vm } (.exec w) Q F) :
    Spec WorkerT (setVm g >>= f) s (.exec w) Q F :=
  spec_bind (spec_assign h)

theorem read_spec {m : Work α} (hm : Reads (IsRead (some c)) m) (hc : w.caller = c)
    (hQ : ∀ a, Q a s (.exec w)) (hF : ∀ x, F x s (.exec w)) : Spec WorkerT m s (.exec w) Q F := by
  subst hc
  exact hm.spec (fun e he r => .quiet he) hQ hF

theorem call_spec {req : Req} {Q : Json → Session → WorkerPhase → Prop} (hreq : Calls w req)
    (hc : w.caller = c) (hQ : ∀ d, Q d s (.exec w)) (hF : ∀ x, F x s (.exec w)) :
    Spec WorkerT (ProxmoxClient.request (some c) req) s (.exec w) Q F := by
  subst hc
  exact ProxmoxClient.request_still (fun out => .call hreq) hQ hF

variable {Q : Unit → Session → WorkerPhase → Prop}

/-- A commit after which the record has the columns `y`. -/
theorem commit_spec {stage : Stage} (h : Fits c w y s) (he : Edit w stage y w.target)
    (hQ : ∀ s', Fits c { w with stage, x := y } y s' → Q () s' (.exec { w with stage, x := y })) :
    Spec WorkerT (commit c) s (.exec w) Q F := by
  have hc : Commits w ⟨[⟨c.job, s.job0, s.job⟩], [⟨c.vm, s.vm0, s.vm⟩]⟩ .running w.target y := by
    refine ⟨s.job0, s.job, s.vm0, s.vm, ?_, h.base, h.status, h.target0, h.target, h.core0, h.core⟩
    rw [← h.caller]
    rfl
  refine spec_bind (spec_session (spec_bind (spec_await fun _ => ?_)))
  refine ⟨.exec { w with stage, x := y }, .edit he hc, spec_assign (hQ _ ?_)⟩
  exact ⟨h.caller, h.status, h.status, h.target, h.target, h.core, h.core⟩

/-- A commit of `job.meta`, and of whatever the session has not flushed yet. -/
theorem setJobMeta_spec {stage : Stage} {patch : JobMeta} {target : Option Int}
    (h : Fits c w y s) (ht : (patch.targetVmid <|> w.target) = target) (he : Edit w stage y target)
    (hQ : ∀ s', Fits c { w with stage, x := y, target } y s' →
      Q () s' (.exec { w with stage, x := y, target })) :
    Spec WorkerT (setJobMeta c patch) s (.exec w) Q F := by
  have hm : (s.job.metadata.merge patch).targetVmid = target := by
    rw [JobMeta.merge_targetVmid, h.target, ht]
  have hc : Commits w
      ⟨[⟨c.job, s.job0, { s.job with metadata := s.job.metadata.merge patch }⟩],
        [⟨c.vm, s.vm0, s.vm⟩]⟩ .running target y := by
    refine ⟨s.job0, { s.job with metadata := s.job.metadata.merge patch }, s.vm0, s.vm, ?_,
      h.base, h.status, h.target0, hm, h.core0, h.core⟩
    rw [← h.caller]
    rfl
  refine spec_bind (spec_assign (spec_bind (spec_session (spec_bind (spec_await fun _ => ?_)))))
  refine ⟨.exec { w with stage, x := y, target }, .edit he hc, spec_assign (hQ _ ?_)⟩
  exact ⟨h.caller, h.status, h.status, hm, hm, h.core, h.core⟩

/-- A commit that changes nothing any decision rests on. -/
theorem commit_still (h : Fits c w w.x s) (hQ : ∀ s', Fits c w w.x s' → Q () s' (.exec w)) :
    Spec WorkerT (commit c) s (.exec w) Q F :=
  commit_spec h .metadata hQ

theorem note_spec {patch : JobMeta} (h : Fits c w w.x s)
    (ht : (patch.targetVmid <|> w.target) = w.target)
    (hQ : ∀ s', Fits c w w.x s' → Q () s' (.exec w)) :
    Spec WorkerT (setJobMeta c patch) s (.exec w) Q F :=
  setJobMeta_spec h ht .metadata hQ

end Rules

theorem spec_exceptTimeout {Q : α → Session → WorkerPhase → Prop}
    {F : Exc → Session → WorkerPhase → Prop} {m : Work α} {h : Exc → Work α} {φ : WorkerPhase}
    (hm : Spec WorkerT m s φ Q fun x s' φ' => Spec WorkerT (h x) s' φ' Q F ∧ F x s' φ') :
    Spec WorkerT (exceptTimeout m h) s φ Q F := by
  refine spec_catch (spec_mono hm (fun _ _ _ hq => hq) fun x s' φ' hx => ?_)
  cases x with
  | proxmoxTimeoutError m => exact hx.1
  | _ => exact spec_raise hx.2

end Clusteration
