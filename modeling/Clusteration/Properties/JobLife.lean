import Clusteration.Properties.Quiescence

open Transition

namespace Clusteration

/-- How the status of a job may change in a step: the worker begins and ends it, and the startup
gives up what it finds. -/
inductive JobStatus.Moves : Label → JobStatus → JobStatus → Prop
  | kept (l : Label) (s : JobStatus) : Moves l s s
  | begun {e : Eff} {a : Ans e} : Moves (.await .worker e a) .queued .running
  | ended {e : Eff} {a : Ans e} {s : JobStatus} : s.finished = true →
      Moves (.await .worker e a) .running s
  | givenUp {e : Eff} {a : Ans e} {s : JobStatus} : s = .queued ∨ s = .running →
      Moves (.await .boot e a) s .failed

def Ev.enters (j : JobId) : Ev → Bool
  | .enter i _ => i = j
  | _ => false

/-- The worker takes up the job, or begins it. -/
def Ev.takes (j : JobId) : Ev → Bool
  | .dispatch i | .enter i _ => i = j
  | _ => false

section Step
variable {m m' : View} {l : Label}

theorem Move.jobs_forward (hb : Base m) (hm : Move m l m') {i : JobId} {c : JobCore}
    (hc : m.jobs i = some c) :
    ∃ c', m'.jobs i = some c' ∧ c'.type = c.type ∧ c'.vmId = c.vmId ∧ c.status.Moves l c'.status := by
  have hself : m.jobs i = some c → ∃ c', m.jobs i = some c' ∧ c'.type = c.type ∧
      c'.vmId = c.vmId ∧ c.status.Moves l c'.status := fun h => ⟨c, h, rfl, rfl, .kept _ _⟩
  have hne : ∀ {j}, m.jobs j = none → i ≠ j := by
    rintro j hj rfl
    rw [hc] at hj
    cases hj
  cases hm with
  | recover adopted _ _ _ =>
    refine ⟨c.interrupted, by simp [hc], ?_⟩
    by_cases hs : c.status = .running
    · simp [JobCore.interrupted, hs, JobStatus.Moves.givenUp]
    · simp [JobCore.interrupted, hs, JobStatus.Moves.kept]
  | abandon _ hboot =>
    by_cases hi : i ∈ (BootPhase.abandoned m.boot).map Prod.fst
    · obtain ⟨j, hj, rfl⟩ := List.mem_map.mp hi
      have hq : c.status = .queued := by
        obtain ⟨hrow, hs, _⟩ := hb.abandoned hj
        rw [hc] at hrow
        cases hrow
        exact hs
      rw [hboot] at hi
      exact ⟨{ c with status := .failed }, (if_pos hi).trans (by rw [hc]; rfl), rfl, rfl,
        .givenUp (.inl hq)⟩
    · rw [hboot] at hi
      exact ⟨c, (if_neg hi).trans hc, rfl, rfl, .kept _ _⟩
  | @enter p _ _ _ _ _ _ hw _ =>
    obtain ⟨hj, _⟩ := hb.loaded hw
    by_cases hi : i = p.jobId
    · subst hi
      rw [hc] at hj
      cases hj
      exact ⟨_, Function.update_self _ _ _, rfl, rfl, .begun⟩
    · exact ⟨c, by simp [Function.update_of_ne hi, hc], rfl, rfl, .kept _ _⟩
  | @edit w _ _ _ _ _ _ hw _ _ =>
    by_cases hi : i = w.j
    · subst hi
      have hj := (hb.exec hw).job
      rw [hc] at hj
      cases hj
      exact ⟨_, Function.update_self _ _ _, rfl, rfl, .kept _ _⟩
    · exact ⟨c, by simp [Function.update_of_ne hi, hc], rfl, rfl, .kept _ _⟩
  | @fail w _ _ _ hw _ _ _ | @finish w _ _ hw _ =>
    by_cases hi : i = w.j
    · subst hi
      have hj := (hb.exec hw).job
      rw [hc] at hj
      cases hj
      exact ⟨_, Function.update_self _ _ _, rfl, rfl, .ended rfl⟩
    · exact ⟨c, by simp [Function.update_of_ne hi, hc], rfl, rfl, .kept _ _⟩
  | follow _ _ hj | insert _ _ _ hj _ _ _ _ | create _ _ _ hj _ _ _ =>
    exact ⟨c, by simp [Function.update_of_ne (hne hj), hc], rfl, rfl, .kept _ _⟩
  | _ => exact hself hc

theorem JobStatus.Moves.begun_kept {s s' : JobStatus} (h : s.Moves l s') (hs : s ≠ .queued) :
    s' ≠ .queued := by
  cases h with
  | kept => exact hs
  | begun => exact absurd rfl hs
  | ended hf =>
    rintro rfl
    cases hf
  | givenUp _ => simp

theorem httpEvents_takes {pve : Cluster} {caller : Option Caller} {req : Req} {i : HttpIn} {ev : Ev}
    (h : ev ∈ httpEvents pve caller req i) (j : JobId) : ev.takes j = false := by
  cases mem_httpEvents h <;> rfl

/-- What a step adds to the history. Only a queued job is taken up, and it is running once begun. -/
inductive Taken (m m' : View) : Prop
  | none {evs : List Ev} : m'.hist = evs ++ m.hist → (∀ ev ∈ evs, ∀ j, ev.takes j = false) → Taken m m'
  | dispatch {j : JobId} {c : JobCore} : m'.hist = .dispatch j :: m.hist → m.jobs j = some c →
      c.status = .queued → Taken m m'
  | enter {p : Payload} {job : Job} {v : VmId} {vm row : VM} :
      m'.hist = .enter p.jobId (some row) :: m.hist → m.worker = .loaded p job v vm →
      m.vms v = some row.core → m'.jobs p.jobId = some ⟨p.type, .running, some v, none⟩ → Taken m m'

theorem Move.taken (hb : Base m) (hm : Move m l m') : Taken m m' := by
  cases hm with
  | @get p _ _ _ hq =>
    have hp : p ∈ m.payloads := View.mem_payloads.mpr (.inl (by simp [hq]))
    obtain ⟨⟨v, _, hj⟩, _⟩ := hb.carried hp
    exact .dispatch rfl hj rfl
  | observe evs hquiet =>
    refine .none rfl fun ev hev j => ?_
    have hq := hquiet ev hev
    cases ev with
    | dispatch _ | enter _ _ => exact hq.elim
    | _ => rfl
  | enter _ hw hv => exact .enter rfl hw hv (Function.update_self _ _ _)
  | http _ _ _ _ => exact .none rfl fun ev hev => httpEvents_takes hev
  | @ssh w ip _ _ _ _ _ =>
    have hist : ({ m with worker := .exec { w with stage := .reached }
                          hist := .sshOk w.v ip :: m.hist } : View).hist = [.sshOk w.v ip] ++ m.hist := rfl
    apply Taken.none hist
    intro ev hev j
    rw [List.mem_singleton.mp hev]
    rfl
  | @clock w stage now _ _ _ =>
    have hist : ({ m with worker := .exec { w with stage }
                          hist := .time now :: m.hist } : View).hist = [.time now] ++ m.hist := rfl
    apply Taken.none hist
    intro ev hev j
    rw [List.mem_singleton.mp hev]
    rfl
  | _ => exact .none (List.nil_append _).symm fun ev hev => by cases hev

end Step

/-- A job that was begun is not queued any more, and it was begun once. -/
structure View.OnceBegun (m : View) : Prop where
  once : ∀ j, m.hist.countP (Ev.enters j) ≤ 1
  begun : ∀ ev ∈ m.hist, ∀ j, ev.enters j = true → ∃ c, m.jobs j = some c ∧ c.status ≠ .queued

theorem Ev.takes_of_enters {ev : Ev} {j : JobId} (h : ev.enters j = true) : ev.takes j = true := by
  cases ev with
  | enter i row => exact h
  | _ => cases h

theorem Ev.enters_false {ev : Ev} {j : JobId} (h : ev.takes j = false) : ev.enters j = false := by
  rw [Bool.eq_false_iff] at h ⊢
  exact fun he => h (Ev.takes_of_enters he)

theorem View.OnceBegun.step {m m' : View} {l : Label} (ho : m.OnceBegun) (hb : Base m)
    (hm : Move m l m') : m'.OnceBegun := by
  have hold : ∀ ev ∈ m.hist, ∀ j, ev.enters j = true →
      ∃ c, m'.jobs j = some c ∧ c.status ≠ .queued := by
    intro ev hev j ht
    obtain ⟨c, hc, hs⟩ := ho.begun ev hev j ht
    obtain ⟨c', hc', _, _, hmove⟩ := hm.jobs_forward hb hc
    exact ⟨c', hc', hmove.begun_kept hs⟩
  cases hm.taken hb with
  | @none evs hist hnot =>
    have hzero : ∀ j, evs.countP (Ev.enters j) = 0 := by
      intro j
      rw [List.countP_eq_zero]
      intro ev hev
      simp [Ev.enters_false (hnot ev hev j)]
    refine ⟨fun j => ?_, fun ev hev j ht => ?_⟩
    · rw [hist, List.countP_append, hzero, Nat.zero_add]
      exact ho.once j
    · rw [hist, List.mem_append] at hev
      rcases hev with hev | hev
      · rw [Ev.enters_false (hnot ev hev j)] at ht
        cases ht
      · exact hold ev hev j ht
  | dispatch hist _ _ =>
    refine ⟨fun j => ?_, fun ev hev j ht => ?_⟩
    · rw [hist, List.countP_cons]
      exact ho.once j
    · rw [hist, List.mem_cons] at hev
      rcases hev with rfl | hev
      · cases ht
      · exact hold ev hev j ht
  | @enter p job v vm row hist hw _ hc' =>
    -- a job begun in this step was queued, so it had not been begun before
    have hfirst : m.hist.countP (Ev.enters p.jobId) = 0 := by
      rw [List.countP_eq_zero]
      intro ev hev ht
      obtain ⟨d, hd, hne⟩ := ho.begun ev hev p.jobId ht
      rw [(hb.loaded hw).1] at hd
      cases hd
      exact hne rfl
    refine ⟨fun j => ?_, fun ev hev j ht => ?_⟩
    · rw [hist, List.countP_cons]
      by_cases hij : p.jobId = j
      · subst hij
        simp [hfirst, Ev.enters]
      · simpa [Ev.enters, hij] using ho.once j
    · rw [hist, List.mem_cons] at hev
      rcases hev with rfl | hev
      · obtain rfl := of_decide_eq_true ht
        exact ⟨_, hc', by simp⟩
      · exact hold ev hev j ht

theorem AReachable.onceBegun {cond : Cond} {t : Abs} (h : AReachable cond t) : t.view.OnceBegun := by
  refine h.invariant (P := View.OnceBegun) (fun t hi => ?_) fun _ _ _ hb _ ho hm _ => ho.step hb hm
  have hnil : t.view.hist = [] := hi.hist
  exact ⟨fun j => by simp [hnil], fun ev hev => by simp [hnil] at hev⟩

theorem get_flush_jobs_ne (db : Db) {vms : List (Dirty VM)} {d : Dirty Job} {j : JobId}
    (h : d.key ≠ j) : (db.flush ⟨[d], vms⟩).jobs.get j = db.jobs.get j := by
  rw [flush_jobs_one, Table.get_update_ne _ _ h]

section Rows
variable {t : Abs} {sh : Shared} {e : Eff} {a : Ans e} {j : JobId} {job : Job}

/-- A job in another status is another job. -/
theorem finished_ne (hj : t.shared.db.jobs.get j = some job) (hf : job.status.finished = true)
    {i : JobId} {c : JobCore} (hc : t.view.jobs i = some c) (hs : c.status.finished = false) :
    i ≠ j := by
  rintro rfl
  have hcore : t.view.jobs i = some job.core := congrArg (Option.map Job.core) hj
  rw [hc] at hcore
  cases hcore
  rw [Job.core_status, hf] at hs
  cases hs

theorem BootT.finished_kept {φ : BootPhase} (hb : Base t.view) (ht : BootT t.boot e a φ)
    (hact : Act t.shared e a sh) (hj : t.shared.db.jobs.get j = some job)
    (hf : job.status.finished = true) : sh.db.jobs.get j = some job := by
  obtain ⟨shared, alive, boot, worker, requests⟩ := t
  dsimp only at ht hact hj
  cases ht with
  | seed rows =>
    obtain rfl := act_seedTemplates.mp hact
    exact hj
  | recover =>
    obtain rfl := act_recover.mp hact
    have hs : job.status ≠ .running := by
      intro hs
      rw [hs] at hf
      cases hf
    simp [markOrphanedRunningAsFailed, hj, hs]
  | startWorker =>
    obtain rfl := act_startWorker.mp hact
    exact hj
  | select jobs =>
    obtain ⟨rfl, _⟩ := act_selectQueued.mp hact
    exact hj
  | put =>
    obtain rfl := act_put.mp hact
    exact hj
  | @abandon abandoned =>
    obtain rfl := act_commit.mp hact
    have hne : j ∉ abandoned.map Prod.fst := by
      intro hmem
      obtain ⟨i, hi, rfl⟩ := List.mem_map.mp hmem
      obtain ⟨hrow, hs, _⟩ := hb.abandoned hi
      exact finished_ne hj hf hrow (by simp [hs, JobStatus.finished]) rfl
    change ((shared.db.flush _).jobs.get j) = _
    unfold Db.flush
    rw [List.foldl_map, Table.get_foldl_update_of_not_mem hne]
    exact hj

theorem WorkerT.finished_kept {φ : WorkerPhase} (hb : Base t.view) (ht : WorkerT t.worker e a φ)
    (hact : Act t.shared e a sh) (hj : t.shared.db.jobs.get j = some job)
    (hf : job.status.finished = true) : sh.db.jobs.get j = some job := by
  have hcommit : ∀ {w : Exec} {f : Flush} {status : JobStatus} {target : Option Int} {x : Core},
      t.worker = .exec w → Commits w f status target x → e = .commit f → sh.db.jobs.get j = some job := by
    rintro w f status target x hw hc rfl
    obtain rfl := act_commit.mp hact
    obtain ⟨b, c, b', c', rfl, _⟩ := hc.rows
    rw [get_flush_jobs_ne _ (finished_ne hj hf (hb.exec hw).job rfl)]
    exact hj
  obtain ⟨shared, alive, boot, worker, requests⟩ := t
  dsimp only at ht hact hj hcommit
  cases ht with
  | jobMissing _ | job _ _ | jobAlone _ _ =>
    obtain ⟨_, rfl⟩ := act_getJob.mp hact
    exact hj
  | vm _ _ | vmMissing _ =>
    obtain ⟨_, rfl⟩ := act_getVM.mp hact
    exact hj
  | orphan | orphanFailed _ _ => exact absurd hb.worker id
  | enter =>
    obtain rfl := act_commit.mp hact
    rw [get_flush_jobs_ne _ (finished_ne hj hf (hb.loaded rfl).1 rfl)]
    exact hj
  | quiet hread =>
    obtain ⟨evs, _, rfl⟩ := act_read hread hact
    exact hj
  | silent hip =>
    obtain rfl := act_silent hact hip
    exact hj
  | refused ip =>
    obtain rfl := act_ssh.mp hact
    exact hj
  | call _ =>
    obtain ⟨i, pve, rfl, _, rfl⟩ := act_http.mp hact
    exact hj
  | learn hl =>
    cases hl with
    | reached _ _ _ =>
      obtain rfl := act_ssh.mp hact
      exact hj
    | copying _ _ | late _ _ =>
      obtain rfl := act_time.mp hact
      exact hj
    | _ =>
      obtain ⟨i, pve, _, _, rfl⟩ := act_http.mp hact
      exact hj
  | edit _ hc | fail _ _ hc | finish _ hc => exact hcommit rfl hc rfl
  | insert _ =>
    obtain ⟨_, rfl⟩ := act_insertJob.mp hact
    exact Table.get_insert_of_some hj
  | put =>
    obtain rfl := act_put.mp hact
    exact hj

theorem RequestT.finished_kept {φ φ' : RequestPhase} (ht : RequestT φ e a φ')
    (hact : Act t.shared e a sh) (hj : t.shared.db.jobs.get j = some job) :
    sh.db.jobs.get j = some job := by
  cases ht with
  | quiet hread =>
    obtain ⟨evs, _, rfl⟩ := act_read hread hact
    exact hj
  | refused _ _ | accept _ | recheck _ _ =>
    obtain ⟨_, rfl⟩ := act_getVM.mp hact
    exact hj
  | mark =>
    obtain rfl := act_commit.mp hact
    exact hj
  | insert _ _ _ _ | insertCheck _ =>
    obtain ⟨_, rfl⟩ := act_insertJob.mp hact
    exact Table.get_insert_of_some hj
  | lock =>
    obtain ⟨_, rfl⟩ := act_lock.mp hact
    exact hj
  | vacant _ =>
    obtain ⟨_, rfl⟩ := act_selectLiveHostname.mp hact
    exact hj
  | create _ _ _ _ _ =>
    obtain ⟨_, rfl⟩ := act_insertVM.mp hact
    exact Table.get_insert_of_some hj
  | giveUp | giveUpVacant | unlock =>
    obtain rfl := act_unlock.mp hact
    exact hj
  | put =>
    obtain rfl := act_put.mp hact
    exact hj

end Rows

theorem AStep.finished_kept {t t' : Abs} {l : Label} (hb : Base t.view) (h : AStep t l t')
    {j : JobId} {job : Job} (hj : t.shared.db.jobs.get j = some job)
    (hf : job.status.finished = true) : t'.shared.db.jobs.get j = some job := by
  cases h with
  | crash _ | restart _ _ | get _ _ _ _ | receive _ _ _ => exact hj
  | boot _ ht hact => exact ht.finished_kept hb hact hj hf
  | worker _ ht hact => exact ht.finished_kept hb hact hj hf
  | request _ _ ht hact => exact ht.finished_kept hact hj

/-- Along a run a finished job keeps its row and is not taken up again. -/
theorem finished_path {cond : Cond} {t t' : Abs} (ht : AReachable cond t)
    (hp : Path AStep cond.aok t t') {j : JobId} {job : Job}
    (hj : t.shared.db.jobs.get j = some job) (hf : job.status.finished = true) :
    t'.shared.db.jobs.get j = some job ∧
      ∃ evs, t'.shared.hist = evs ++ t.shared.hist ∧ ∀ ev ∈ evs, ev.takes j = false := by
  induction hp with
  | refl => exact ⟨hj, [], rfl, fun ev hev => by cases hev⟩
  | @next t₁ t₂ l hp hs hok ih =>
    obtain ⟨hj₁, evs, hist, hnot⟩ := ih
    have hb : Base t₁.view := AReachable.base (Reach.path ht hp)
    have hcore : t₁.view.jobs j = some job.core := congrArg (Option.map Job.core) hj₁
    have hother : ∀ {i c}, t₁.view.jobs i = some c → c.status = .queued → i ≠ j := by
      rintro i c hc hq rfl
      rw [hcore] at hc
      cases hc
      rw [Job.core_status] at hq
      rw [hq] at hf
      cases hf
    refine ⟨hs.finished_kept hb hj₁ hf, ?_⟩
    have hjoin : ∀ evs', t₂.shared.hist = evs' ++ t₁.shared.hist → (∀ ev ∈ evs', ev.takes j = false) →
        ∃ evs, t₂.shared.hist = evs ++ t.shared.hist ∧ ∀ ev ∈ evs, ev.takes j = false := by
      intro evs' hist' hnot'
      refine ⟨evs' ++ evs, by rw [hist', hist, List.append_assoc], fun ev hev => ?_⟩
      rcases List.mem_append.mp hev with hev | hev
      · exact hnot' ev hev
      · exact hnot ev hev
    cases (hb.move hs).taken hb with
    | none hist' hnot' => exact hjoin _ hist' fun ev hev => hnot' ev hev j
    | dispatch hist' hc hq =>
      refine hjoin [_] hist' fun ev hev => ?_
      rw [List.mem_singleton.mp hev]
      simpa [Ev.takes] using hother hc hq
    | enter hist' hw _ _ =>
      refine hjoin [_] hist' fun ev hev => ?_
      rw [List.mem_singleton.mp hev]
      simpa [Ev.takes] using hother (hb.loaded hw).1 rfl

/-- A job is begun at most once over any number of crashes and restarts, its status only moves
forward, and a finished job is neither taken up nor changed again. -/
theorem job_life {s : Sys} (hs : Reachable .any s) :
    (∀ j, s.shared.hist.countP (Ev.enters j) ≤ 1) ∧
    (∀ l s', Step s l s' → ∀ j job, s.shared.db.jobs.get j = some job →
      ∃ job', s'.shared.db.jobs.get j = some job' ∧ job.status.Moves l job'.status) ∧
    (∀ s', Path Step Cond.any.ok s s' → ∀ j job, s.shared.db.jobs.get j = some job →
      job.status.finished = true → s'.shared.db.jobs.get j = some job ∧
        ∃ evs, s'.shared.hist = evs ++ s.shared.hist ∧ ∀ ev ∈ evs, ev.takes j = false) := by
  obtain ⟨t, ht, hr⟩ := hs.abstract
  refine ⟨fun j => ?_, fun l s' hstep j job hj => ?_, fun s' hp j job hj hf => ?_⟩
  · rw [hr.shared]
    exact ht.onceBegun.once j
  · obtain ⟨t', hstep', hr'⟩ := hr.step hstep
    rw [hr.shared] at hj
    obtain ⟨c', hc', _, _, hmove⟩ := (ht.base.move hstep').jobs_forward ht.base
      (congrArg (Option.map Job.core) hj)
    obtain ⟨job', hj', rfl⟩ := Option.map_eq_some_iff.mp hc'
    exact ⟨job', by rw [hr'.shared, hj'], hmove⟩
  · obtain ⟨t', hp', hr'⟩ := hr.path hp
    rw [hr.shared] at hj
    rw [hr.shared, hr'.shared]
    exact finished_path ht hp' hj hf

/-- After its failed creation the VM's job has been begun once and will not be touched again. -/
theorem job_life_failedCreation :
    let s := (Scenario.panel.run (fun _ _ _ => true) failedCreation).get failedCreation_runs
    (∀ j, s.shared.hist.countP (Ev.enters j) ≤ 1) ∧
    (∀ l s', Step s l s' → ∀ j job, s.shared.db.jobs.get j = some job →
      ∃ job', s'.shared.db.jobs.get j = some job' ∧ job.status.Moves l job'.status) ∧
    (∀ s', Path Step Cond.any.ok s s' → ∀ j job, s.shared.db.jobs.get j = some job →
      job.status.finished = true → s'.shared.db.jobs.get j = some job ∧
        ∃ evs, s'.shared.hist = evs ++ s.shared.hist ∧ ∀ ev ∈ evs, ev.takes j = false) :=
  job_life (@Scenario.reached _ Cond.any (fun _ _ _ _ => trivial) _ failedCreation_runs)

def Ev.dispatches (j : JobId) : Ev → Bool
  | .dispatch i => i = j
  | _ => false

open Scenario in
/-- The process ends after the worker has taken the job from the queue and before it marks it as
running; the next process takes it again. -/
def takenTwice : List Choice :=
  failedCreation ++ .receive (.deleteVm 0 "a") :: request 1 [.none, .none, .none] ++
    [.get, .crash] ++ startup [1] 1 ++ [.get]

theorem dispatch_not_once : ¬ ∀ s, Reachable .any s →
    ∀ j, s.shared.hist.countP (Ev.dispatches j) ≤ 1 := by
  intro h
  have hends : (Scenario.panel.run (fun _ _ _ => true) takenTwice).any (fun s =>
      s.shared.hist.countP (Ev.dispatches 1) = 2) = true := by decide +kernel
  obtain ⟨s, hreach, hends⟩ := Scenario.evaluated_any hends
  have htwice : s.shared.hist.countP (Ev.dispatches 1) = 2 := of_decide_eq_true hends
  have hle := h s hreach 1
  omega

end Clusteration
