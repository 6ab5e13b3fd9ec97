import Clusteration.Framework.Runs
import Clusteration.Panel.System

open Async Transition

namespace Clusteration

/-- What a normal attempt of a request comes to. A guest is found on its node and in the listing of
the cluster. A power request is taken as a task: Proxmox carries it out if the power state of the
guest admits it, else it fails and leaves the guest alone; it has ended when its status is asked for.
An agent that is up answers with a list of interfaces. -/
def Normal (c : Cluster) (req : Req) (i : HttpIn) : Prop :=
  match req with
  | .statusCurrent node n =>
    if (c.find n).any (fun g => g.node = node) then ∃ d, i.out.attempt = .data d
    else ∃ f, i.out.attempt = .failed f
  | .clusterResources => ∃ items, i.out.attempt = .data (.arr items) ∧
      ∀ n g, c.find n = some g → isNodeName g.node = true →
        ∃ d, findResource n items = .ok (some d) ∧ strip (Dict.get d "node").strOr = g.node
  | .power .. => i.left = none ∧ i.applied = (c.apply none i.addr req).isSome ∧ (upidOf i.out).isSome
  | .taskStatus _ upid => ∃ exitStatus, exitOf i.out = some exitStatus ∧ exitStatus ≠ "" ∧
      (exitStatus = "OK" ↔ c.tasks.lookup upid = some true)
  | .networkInterfaces .. => (∃ f, i.out.attempt = .failed f) ∨
      ∃ d ip, i.out.attempt = .data d ∧ parseFirstIpv4 d = .ok ip
  | _ => True

def In.Normal (c : Cluster) : Eff → In → Prop
  | .http _ req, .http i => Clusteration.Normal c req i
  | _, _ => True

/-- The await `e` may take the shared state from `s` to `s'` and answer `a`, if Proxmox behaves
normally. -/
def NormalAct (s : Shared) (e : Eff) (a : Ans e) (s' : Shared) : Prop :=
  ∃ i, perform s e i = some (a, s') ∧ i.Normal s.pve e

/-- The worker takes one payload after the other, until the queue is empty. -/
inductive Drains (settings : Settings) : Shared → Shared → Prop
  | idle {s : Shared} : s.queue = [] → Drains settings s s
  | job {s s₁ s₂ : Shared} {p : Payload} {rest : List Payload} : s.queue = p :: rest →
      (dispatch settings p).Ends NormalAct
        { s with queue := rest, hist := .dispatch p.jobId :: s.hist } () s₁ →
      Drains settings s₁ s₂ → Drains settings s s₂

/-- The requests are sent one after the other, each when the worker is done with the one before, and
all are accepted. -/
inductive Plays (settings : Settings) : List Request → Shared → Shared → Prop
  | nil (s : Shared) : Plays settings [] s s
  | cons {r : Request} {rs : List Request} {resp : Response} {s s₁ s₂ s₃ : Shared} :
      (serve settings r).Ends NormalAct s (.ok resp) s₁ → Drains settings s₁ s₂ →
      Plays settings rs s₂ s₃ → Plays settings (r :: rs) s s₃

/-- The worker waits for a payload and none is queued. -/
structure Sys.Resting (s : Sys) : Prop where
  alive : s.alive = true
  started : s.boot.isRet = true
  workerOn : s.shared.workerOn = true
  idle : s.worker.isRet = true
  empty : s.shared.queue = []

instance (s : Sys) : Decidable s.Resting :=
  decidable_of_iff (s.alive = true ∧ s.boot.isRet = true ∧ s.shared.workerOn = true ∧
    s.worker.isRet = true ∧ s.shared.queue = [])
    ⟨fun h => ⟨h.1, h.2.1, h.2.2.1, h.2.2.2.1, h.2.2.2.2⟩,
      fun h => ⟨h.alive, h.started, h.workerOn, h.idle, h.empty⟩⟩

theorem NormalAct.act {s s' : Shared} {e : Eff} {a : Ans e} (h : NormalAct s e a s') :
    Act s e a s' := by
  obtain ⟨i, hi, _⟩ := h
  exact ⟨i, hi⟩

theorem Act.workerOn {s s' : Shared} {e : Eff} {a : Ans e} (h : Act s e a s')
    (hw : s.workerOn = true) : s'.workerOn = true := by
  obtain ⟨i, h⟩ := h
  cases e <;> cases i <;>
    simp only [perform, reduceCtorEq, Option.some.injEq, Prod.mk.injEq] at h
  case http.http =>
    obtain ⟨pve, _, hs⟩ := Option.map_eq_some_iff.mp h
    cases hs
    exact hw
  case ssh.ssh =>
    obtain ⟨_, rfl⟩ := h
    split <;> exact hw
  case lock.none =>
    split at h <;> cases h
    exact hw
  case selectQueued.order =>
    split at h <;> cases h
    exact hw
  all_goals
    obtain ⟨_, rfl⟩ := h
    first
      | exact hw
      | rfl

section Path
variable {s : Sys} {sh sh' : Shared}

/-- The worker of a live panel can go on to the end of its program. -/
theorem worker_path {p : Prog Eff Ans Unit} {a : Unit} (hp : p.Ends NormalAct sh a sh')
    (ha : s.alive = true) (hs : s.shared = sh) (hw : s.worker = p) :
    Path Step Cond.any.ok s { s with shared := sh', worker := .ret a } := by
  induction hp generalizing s with
  | ret a m =>
    subst hs
    have hsame : { s with worker := .ret a } = s := by rw [← hw]
    rw [hsame]
    exact .refl s
  | @await e k r a m m₁ m₂ hact _ ih =>
    subst hs
    have hstep := Step.worker ha hw hact.act
    have hrest := ih (s := { s with shared := m₁, worker := k r }) ha rfl rfl
    exact (Path.next (.refl s) hstep trivial).trans hrest

theorem request_path {p : Handler} {i : Nat} {a : Except Exc Response} (hp : p.Ends NormalAct sh a sh')
    (ha : s.alive = true) (hs : s.shared = sh) (hr : s.requests[i]? = some p) :
    Path Step Cond.any.ok s { s with shared := sh', requests := s.requests.set i (.ret a) } := by
  induction hp generalizing s with
  | ret a m =>
    subst hs
    have hset : s.requests.set i (.ret a) = s.requests := by
      obtain ⟨hi, hget⟩ := List.getElem?_eq_some_iff.mp hr
      rw [← hget]
      exact List.set_getElem_self hi
    rw [hset]
    exact .refl s
  | @await e k r a m m₁ m₂ hact _ ih =>
    subst hs
    have hi := (List.getElem?_eq_some_iff.mp hr).1
    have hstep := Step.request ha hr hact.act
    have hrest := ih (s := { s with shared := m₁, requests := s.requests.set i (k r) }) ha rfl
      (by simp [hi])
    rw [List.set_set] at hrest
    exact (Path.next (.refl s) hstep trivial).trans hrest

theorem Ends.workerOn {α : Type} {p : Prog Eff Ans α} {a : α} (hp : p.Ends NormalAct sh a sh')
    (hw : sh.workerOn = true) : sh'.workerOn = true := by
  induction hp with
  | ret a m => exact hw
  | await hact _ ih => exact ih (hact.act.workerOn hw)

theorem drains_path (h : Drains s.settings sh sh') (hr : s.alive = true) (hw : s.worker.isRet = true)
    (hon : sh.workerOn = true) (hs : s.shared = sh) :
    ∃ worker, worker.isRet = true ∧ sh'.workerOn = true ∧ sh'.queue = [] ∧
      Path Step Cond.any.ok s { s with shared := sh', worker } := by
  generalize hset : s.settings = settings at h
  induction h generalizing s with
  | idle hq =>
    subst hs hset
    exact ⟨s.worker, hw, hon, hq, .refl s⟩
  | @job s₀ s₁ s₂ p rest hq he _ ih =>
    subst hs hset
    have hget := Step.get hr hon hw hq
    have hrun := worker_path (s := { s with
      shared := { s.shared with queue := rest, hist := .dispatch p.jobId :: s.shared.hist }
      worker := dispatch s.settings p }) he hr rfl rfl
    obtain ⟨worker, hret, hon', hq', hrest⟩ := ih (s := { s with shared := s₁, worker := .ret () })
      hr rfl (Ends.workerOn he hon) rfl rfl
    exact ⟨worker, hret, hon', hq', ((Path.next (.refl s) hget trivial).trans hrun).trans hrest⟩

/-- From a panel at rest, a play leads to a panel at rest. -/
theorem plays_path {rs : List Request} (h : Plays s.settings rs sh sh') (hr : s.Resting)
    (hs : s.shared = sh) : ∃ s', Path Step Cond.any.ok s s' ∧ s'.Resting ∧ s'.shared = sh' := by
  generalize hset : s.settings = settings at h
  induction h generalizing s with
  | nil sh => exact ⟨s, .refl s, hr, hs⟩
  | @cons r rs resp s₀ s₁ s₂ s₃ hserve hdrain _ ih =>
    subst hs hset
    have hreceive := Step.receive r hr.alive hr.started
    have hanswer := request_path (s := { s with requests := s.requests ++ [serve s.settings r] })
      (i := s.requests.length) hserve hr.alive rfl (by simp)
    obtain ⟨worker, hret, hon, hq, hwork⟩ := drains_path (s := { s with
        shared := s₁
        requests := (s.requests ++ [serve s.settings r]).set s.requests.length (.ret (.ok resp)) })
      hdrain hr.alive hr.idle (Ends.workerOn hserve hr.workerOn) rfl
    obtain ⟨s', hpath, hrest, hsh⟩ := ih (s := { s with
        shared := s₂
        worker
        requests := (s.requests ++ [serve s.settings r]).set s.requests.length (.ret (.ok resp)) })
      ⟨hr.alive, hr.started, hon, hret, hq⟩ rfl rfl
    exact ⟨s', ((Path.next (.refl s) hreceive trivial).trans hanswer).trans (hwork.trans hpath),
      hrest, hsh⟩

end Path

end Clusteration
