import Clusteration.Protocol.Hiding

open Async Transition Task

namespace Clusteration

def Ev.hide : Ev → Ev
  | .call caller req guest => .call caller req.hide guest
  | e => e

def Shared.hide (s : Shared) : Shared :=
  { s with queue := s.queue.map Payload.hide, hist := s.hist.map Ev.hide }

def Sys.hide (s : Sys) : Sys where
  shared := s.shared.hide
  alive := s.alive
  settings := s.settings
  boot := s.boot.mask hideAwaits
  worker := s.worker.mask hideAwaits
  requests := s.requests.map (Prog.mask hideAwaits)

def Choice.hide : Choice → Choice
  | .receive r => .receive r.hide
  | c => c

section Await
variable {s : Shared} {i : In}

theorem effect_hide (i : HttpIn) (req : Req) : i.effect req.hide = (i.effect req).map Req.hide := by
  obtain ⟨applied, left, addr, out⟩ := i
  cases applied with
  | true => rfl
  | false =>
    cases req with
    | power node n op =>
      cases left with
      | none => rfl
      | some up => cases up <;> rfl
    | _ => rfl

theorem boots_hide (i : HttpIn) (req : Req) : i.boots req.hide = i.boots req := by
  unfold HttpIn.boots
  rw [effect_hide]
  cases i.effect req with
  | none => rfl
  | some effect => cases effect <;> rfl

theorem renews_hide (i : HttpIn) (req : Req) : i.renews req.hide = i.renews req := by
  unfold HttpIn.renews
  rw [effect_hide]
  cases i.effect req with
  | none => rfl
  | some effect => cases effect <;> rfl

theorem apply_hide (pve : Cluster) (caller : Option Caller) (addr : String) (req : Req) :
    pve.apply caller addr req.hide = pve.apply caller addr req := by
  cases req <;> rfl

theorem isGet_hide (req : Req) : req.hide.isGet = req.isGet := by cases req <;> rfl

theorem honest_hide (pve : Cluster) (req : Req) (i : HttpIn) :
    pve.honest req.hide i = pve.honest req i := by
  cases req <;> rfl

theorem serve_hide (pve : Cluster) (caller : Option Caller) (req : Req) (i : HttpIn) :
    pve.serve caller req.hide i = pve.serve caller req i := by
  unfold Cluster.serve
  rw [honest_hide, isGet_hide, effect_hide]
  cases i.effect req with
  | none => rfl
  | some effect =>
    dsimp only [Option.map_some]
    rw [apply_hide]

/-- The events of a request that is no agent answer. -/
theorem callEvents_hide (caller : Option Caller) (req : Req) (target : Option Int)
    (guest : Option Guest) (boots renews : Bool) :
    ((if boots then (target.map Ev.boot).toList else []) ++
        ((if renews then (target.map Ev.renew).toList else []) ++ [Ev.call caller req guest])).map
          Ev.hide =
      (if boots then (target.map Ev.boot).toList else []) ++
        ((if renews then (target.map Ev.renew).toList else []) ++ [Ev.call caller req.hide guest]) := by
  cases boots <;> cases renews <;> cases target <;> rfl

theorem httpEvents_hide (pve : Cluster) (caller : Option Caller) (req : Req) (i : HttpIn) :
    httpEvents pve caller req.hide i = (httpEvents pve caller req i).map Ev.hide := by
  have hcall := callEvents_hide caller req req.target (req.target.bind pve.find) (i.boots req)
    (i.renews req)
  cases req with
  | networkInterfaces node n =>
    show ((ipOf i.out).map (Ev.report n)).toList = ((ipOf i.out).map (Ev.report n)).toList.map Ev.hide
    cases ipOf i.out <;> rfl
  | setConfig node n data =>
    show (if i.boots (Req.hide (.setConfig node n data)) = true then _ else []) ++
      ((if i.renews (Req.hide (.setConfig node n data)) = true then _ else []) ++ _) = _
    rw [boots_hide, renews_hide]
    exact hcall.symm
  | clone | resize | power | exec | destroy => exact hcall.symm
  | _ => rfl

theorem enterEvents_hide (db : Db) (f : Flush) :
    (enterEvents db f).map Ev.hide = enterEvents db f := by
  have hid : ∀ e ∈ enterEvents db f, e.hide = id e := by
    intro e he
    obtain ⟨d, _, hd⟩ := List.mem_filterMap.mp he
    split at hd
    · cases hd
      rfl
    · cases hd
  rw [List.map_congr_left hid, List.map_id]

theorem perform_hide (s : Shared) (e : Eff) (i : In) :
    perform s.hide e.hide i =
      (perform s e i).map fun out => (cast (ans_hide e).symm out.1, out.2.hide) := by
  cases e with
  | http caller req =>
    cases i with
    | http i =>
      have hserve := serve_hide s.pve caller req i
      show Option.map _ (s.pve.serve caller req.hide i) = Option.map _ (Option.map _ _)
      rw [hserve]
      cases s.pve.serve caller req i with
      | none => rfl
      | some pve =>
        have hevents := httpEvents_hide s.pve caller req i
        show some (i.out, { s.hide with pve, hist := httpEvents s.pve caller req.hide i ++ s.hide.hist }) =
          some (i.out, { s.hide with pve, hist := (httpEvents s.pve caller req i ++ s.hist).map Ev.hide })
        rw [hevents, List.map_append]
        rfl
    | _ => rfl
  | commit f =>
    cases i with
    | none =>
      simp [perform, Eff.hide, Shared.hide, enterEvents_hide]
    | _ => rfl
  | put p =>
    cases i with
    | none => simp [perform, Eff.hide, Shared.hide]
    | _ => rfl
  | lock =>
    cases i with
    | none =>
      show (if s.locked then none else _) = Option.map _ (if s.locked then none else _)
      cases s.locked <;> rfl
    | _ => rfl
  | ssh v ip =>
    cases i with
    | ssh ok => cases ok <;> rfl
    | _ => rfl
  | selectQueued =>
    cases i with
    | order l =>
      let queued := s.db.jobs.select fun job => job.status = .queued
      show (if l.isPerm queued then _ else none) = Option.map _ (if l.isPerm queued then _ else none)
      split <;> rfl
    | _ => rfl
  | _ => cases i <;> rfl

end Await

theorem isRet_mask {α : Type} (p : Prog Eff Ans α) : (p.mask hideAwaits).isRet = p.isRet := by
  cases p <;> rfl

theorem advance_hide {α : Type} (p : Prog Eff Ans α) (sh : Shared) (i : In) :
    (Prog.advance (p.mask hideAwaits) sh.hide i).map Prod.snd =
      (Prog.advance p sh i).map fun out => (out.2.1.hide, out.2.2.mask hideAwaits) := by
  cases p with
  | ret a => rfl
  | await e k =>
    have hperform := perform_hide sh e i
    show Option.map _ (Option.map _ (perform sh.hide e.hide i)) = Option.map _ (Option.map _ _)
    rw [hperform]
    cases perform sh e i with
    | none => rfl
    | some out =>
      show some (out.2.hide, (k (cast _ (cast _ out.1))).mask hideAwaits) = _
      rw [cast_cast]
      rfl

/-- What the step of one coroutine puts into the system. -/
theorem put_hide {α : Type} (t : Thread) (put put' : Shared → Prog Eff Ans α → Sys)
    (p : Prog Eff Ans α) (sh : Shared) (i : In)
    (hput : ∀ sh p, put' sh.hide (p.mask hideAwaits) = (put sh p).hide) :
    ((Prog.advance (p.mask hideAwaits) sh.hide i).map fun out =>
        (Label.await t out.1.1 out.1.2, put' out.2.1 out.2.2)).map Prod.snd =
      ((Prog.advance p sh i).map fun out =>
        (Label.await t out.1.1 out.1.2, put out.2.1 out.2.2)).map fun out => out.2.hide := by
  have hadvance := congrArg (Option.map fun out => put' out.1 out.2) (advance_hide p sh i)
  rw [Option.map_map, Option.map_map] at hadvance
  rw [Option.map_map, Option.map_map]
  calc (Prog.advance (p.mask hideAwaits) sh.hide i).map _
      = (Prog.advance p sh i).map fun out => put' out.2.1.hide (out.2.2.mask hideAwaits) := hadvance
    _ = (Prog.advance p sh i).map fun out => (put out.2.1 out.2.2).hide := by simp only [hput]

theorem step_hide (s : Sys) (c : Choice) :
    (s.hide.step c.hide).map Prod.snd = (s.step c).map fun out => out.2.hide := by
  obtain ⟨shared, alive, settings, boot, worker, requests⟩ := s
  cases c with
  | crash => cases alive <;> rfl
  | restart settings' =>
    cases alive with
    | true => rfl
    | false =>
      show some (Sys.mk _ _ _ _ _ _) = some (Sys.mk _ _ _ ((lifespan settings').mask hideAwaits) _ _)
      rw [hide_lifespan]
      rfl
  | receive r =>
    simp only [Sys.step, Sys.hide, Choice.hide, isRet_mask]
    split
    · show some (Sys.mk _ _ _ _ _ _) = some (Sys.mk _ _ _ _ _ (List.map _ _))
      rw [List.map_append, List.map_singleton, hide_serve]
    · rfl
  | get =>
    obtain ⟨db, pve, queue, locked, workerOn, hist⟩ := shared
    cases queue with
    | nil => rfl
    | cons p rest =>
      simp only [Sys.step, Sys.hide, Choice.hide, Shared.hide, List.map_cons, isRet_mask]
      split
      · show some (Sys.mk _ _ _ _ _ _) = some (Sys.mk _ _ _ _ ((dispatch settings p).mask _) _)
        rw [hide_dispatch]
        rfl
      · rfl
  | run t i =>
    cases alive with
    | false => rfl
    | true =>
      let s : Sys := { shared, alive := true, settings, boot, worker, requests }
      cases t with
      | boot =>
        exact put_hide .boot (fun shared boot => { s with shared, boot })
          (fun shared boot => { s.hide with shared, boot }) boot shared i fun sh p => rfl
      | worker =>
        exact put_hide .worker (fun shared worker => { s with shared, worker })
          (fun shared worker => { s.hide with shared, worker }) worker shared i fun sh p => rfl
      | request n =>
        simp only [Sys.step, Sys.hide, Choice.hide, List.getElem?_map]
        cases requests[n]? with
        | none => rfl
        | some p =>
          apply put_hide (.request n) (fun shared p => { s with shared, requests := s.requests.set n p })
            (fun shared p => { s.hide with shared, requests := s.hide.requests.set n p }) p shared i
          intro sh p'
          show Sys.mk _ _ _ _ _ _ = Sys.mk _ _ _ _ _ (List.map _ _)
          rw [List.map_set]
          rfl

theorem run_hide (s : Sys) (cs : List Choice) :
    s.hide.run (fun _ _ _ => true) (cs.map Choice.hide) =
      (s.run (fun _ _ _ => true) cs).map Sys.hide := by
  induction cs generalizing s with
  | nil => rfl
  | cons c cs ih =>
    have hstep := step_hide s c
    simp only [List.map_cons, Sys.run, if_true]
    cases h : s.step c with
    | none =>
      rw [h, Option.map_none, Option.map_eq_none_iff] at hstep
      rw [hstep]
      rfl
    | some out =>
      rw [h, Option.map_some, Option.map_eq_some_iff] at hstep
      obtain ⟨out', h', hout⟩ := hstep
      rw [h']
      show out'.2.run _ _ = (out.2.run _ _).map Sys.hide
      rw [hout]
      exact ih out.2

/-- The answer of a request, once it has returned. -/
def Handler.answer : Handler → Option (Except Exc Response)
  | .ret out => some out
  | .await _ _ => none

/-- What outlives the process and what its clients get to see: the database, Proxmox and the answers
of the API. -/
def Sys.seen (s : Sys) : Db × Cluster × List (Option (Except Exc Response)) :=
  (s.shared.db, s.shared.pve, s.requests.map Handler.answer)

theorem seen_hide (s : Sys) : s.hide.seen = s.seen := by
  have hanswers : s.hide.requests.map Handler.answer = s.requests.map Handler.answer := by
    show (s.requests.map _).map _ = _
    rw [List.map_map]
    congr 1
    funext p
    cases p <;> rfl
  exact congrArg (fun answers => (s.shared.db, s.shared.pve, answers)) hanswers

theorem Initial.hide_eq {s : Sys} (h : Initial s) : s.hide = s := by
  obtain ⟨⟨db, pve, queue, locked, workerOn, hist⟩, alive, settings, boot, worker, requests⟩ := s
  obtain ⟨-, hboot, hworker, hrequests, hqueue, -, -, -, -, hhist, -, -, -⟩ := h
  cases hboot
  cases hworker
  cases hrequests
  cases hqueue
  cases hhist
  rfl

/-- Every step is one that can be chosen. -/
theorem step_chosen {s s' : Sys} {l : Label} (h : Step s l s') : ∃ c, s.step c = some (l, s') := by
  cases h with
  | crash ha => exact ⟨.crash, by simp [Sys.step, ha]⟩
  | restart settings ha => exact ⟨.restart settings, by simp [Sys.step, ha]⟩
  | get ha hw hr hq => exact ⟨.get, by simp [Sys.step, ha, hw, hr, hq]⟩
  | receive r ha hb => exact ⟨.receive r, by simp [Sys.step, ha, hb]⟩
  | boot ha hb hact =>
    obtain ⟨i, hi⟩ := hact
    exact ⟨.run .boot i, by simp [Sys.step, Prog.advance, ha, hb, hi]⟩
  | worker ha hw hact =>
    obtain ⟨i, hi⟩ := hact
    exact ⟨.run .worker i, by simp [Sys.step, Prog.advance, ha, hw, hi]⟩
  | @request n e k a sh ha hn hact =>
    obtain ⟨i, hi⟩ := hact
    exact ⟨.run (.request n) i, by simp [Sys.step, Prog.advance, ha, hn, hi]⟩

theorem run_snoc {s s' s'' : Sys} {cs : List Choice} {c : Choice} {l : Label}
    (h : s.run (fun _ _ _ => true) cs = some s') (hc : s'.step c = some (l, s'')) :
    s.run (fun _ _ _ => true) (cs ++ [c]) = some s'' := by
  induction cs generalizing s with
  | nil =>
    cases h
    simp [Sys.run, hc]
  | cons c' cs ih =>
    simp only [Sys.run, Option.bind_eq_some_iff, if_true] at h
    obtain ⟨⟨l', s₁⟩, hs, h⟩ := h
    simp only [List.cons_append, Sys.run, hs, Option.bind_some, if_true]
    exact ih h

/-- Every run is one of choices. -/
theorem path_chosen {s s' : Sys} (h : Path Step Cond.any.ok s s') :
    ∃ cs, s.run (fun _ _ _ => true) cs = some s' := by
  induction h with
  | refl => exact ⟨[], rfl⟩
  | next _ hs _ ih =>
    obtain ⟨cs, hcs⟩ := ih
    obtain ⟨c, hc⟩ := step_chosen hs
    exact ⟨cs ++ [c], run_snoc hcs hc⟩

/-- Two runs that differ in the root passwords of their requests only end alike. -/
theorem run_seen {s : Sys} (hs : Initial s) {cs cs' : List Choice}
    (h : cs.map Choice.hide = cs'.map Choice.hide) :
    (s.run (fun _ _ _ => true) cs).map Sys.seen = (s.run (fun _ _ _ => true) cs').map Sys.seen := by
  have hhidden (cs : List Choice) : (s.run (fun _ _ _ => true) cs).map Sys.seen =
      (s.run (fun _ _ _ => true) (cs.map Choice.hide)).map Sys.seen := by
    have hrun := run_hide s cs
    rw [hs.hide_eq] at hrun
    rw [hrun, Option.map_map]
    congr 1
    funext s'
    exact (seen_hide s').symm
  rw [hhidden cs, hhidden cs', h]

/-- Whatever root passwords the requests of a run carry, it goes the same way, and to a database, a
Proxmox and answers that are the same. -/
theorem root_passwords_unseen {s₀ s : Sys} (hs : Initial s₀) (h : Path Step Cond.any.ok s₀ s) :
    ∃ cs, s₀.run (fun _ _ _ => true) cs = some s ∧
      ∀ cs' : List Choice, cs'.map Choice.hide = cs.map Choice.hide →
        ∃ s', s₀.run (fun _ _ _ => true) cs' = some s' ∧ s'.seen = s.seen := by
  obtain ⟨cs, hcs⟩ := path_chosen h
  refine ⟨cs, hcs, ?_⟩
  intro cs' hhide
  have hseen := run_seen hs hhide
  rw [hcs, Option.map_some, Option.map_eq_some_iff] at hseen
  exact hseen

/-- As on a panel that takes the request of a VM. -/
theorem root_passwords_unseen_in_creation :
    ∃ s, Path Step Cond.any.ok Scenario.panel s ∧ s.requests.length = 1 ∧
      ∃ cs, Scenario.panel.run (fun _ _ _ => true) cs = some s ∧
        ∀ cs' : List Choice, cs'.map Choice.hide = cs.map Choice.hide →
          ∃ s', Scenario.panel.run (fun _ _ _ => true) cs' = some s' ∧ s'.seen = s.seen := by
  let cs := Scenario.startup [] 0 ++ [.receive (.createVm (Scenario.body "a" Scenario.named_a))]
  have hrun : (Scenario.panel.run (fun _ _ _ => true) cs).any (fun s => s.requests.length = 1) = true := by
    decide +kernel
  obtain ⟨s, hs, hlength⟩ := (Option.any_eq_true _ _).mp hrun
  have hany : ∀ s l s', true = true → Cond.any.ok s l s' := fun _ _ _ _ => trivial
  have hpath : Path Step Cond.any.ok Scenario.panel s := run_path hany hs (.refl Scenario.panel)
  exact ⟨s, hpath, by simpa using hlength, root_passwords_unseen Scenario.panel_initial hpath⟩

end Clusteration
