import Clusteration.Invariants.View

open Async

namespace Clusteration

section Act
variable {s s' : Shared}

theorem act_getJob {id : JobId} {a : Option Job} :
    Act s (.getJob id) a s' ↔ a = s.db.jobs.get id ∧ s' = s := by
  constructor
  · rintro ⟨i, h⟩
    cases i with
    | none =>
      cases h
      exact ⟨rfl, rfl⟩
    | _ => cases h
  · rintro ⟨rfl, rfl⟩
    exact ⟨.none, rfl⟩

theorem act_getVM {id : VmId} {a : Option VM} :
    Act s (.getVM id) a s' ↔ a = s.db.vms.get id ∧ s' = s := by
  constructor
  · rintro ⟨i, h⟩
    cases i with
    | none =>
      cases h
      exact ⟨rfl, rfl⟩
    | _ => cases h
  · rintro ⟨rfl, rfl⟩
    exact ⟨.none, rfl⟩

theorem act_commit {f : Flush} {a : Unit} : Act s (.commit f) a s' ↔
    s' = { s with db := s.db.flush f, hist := enterEvents s.db f ++ s.hist } := by
  constructor
  · rintro ⟨i, h⟩
    cases i with
    | none =>
      cases h
      rfl
    | _ => cases h
  · rintro rfl
    exact ⟨.none, rfl⟩

theorem act_insertJob {job : Job} {a : JobId} : Act s (.insertJob job) a s' ↔
    a = s.db.jobs.next ∧ s' = { s with db := { s.db with jobs := s.db.jobs.insert job } } := by
  constructor
  · rintro ⟨i, h⟩
    cases i with
    | none =>
      cases h
      exact ⟨rfl, rfl⟩
    | _ => cases h
  · rintro ⟨rfl, rfl⟩
    exact ⟨.none, rfl⟩

theorem act_insertVM {vm : VM} {job : Job} {a : VmId × JobId} : Act s (.insertVM vm job) a s' ↔
    a = (s.db.vms.next, s.db.jobs.next) ∧
      s' = { s with db := { s.db with
        vms := s.db.vms.insert vm
        jobs := s.db.jobs.insert { job with vmId := some s.db.vms.next } } } := by
  constructor
  · rintro ⟨i, h⟩
    cases i with
    | none =>
      cases h
      exact ⟨rfl, rfl⟩
    | _ => cases h
  · rintro ⟨rfl, rfl⟩
    exact ⟨.none, rfl⟩

theorem act_put {p : Payload} {a : Unit} :
    Act s (.put p) a s' ↔ s' = { s with queue := s.queue ++ [p] } := by
  constructor
  · rintro ⟨i, h⟩
    cases i with
    | none =>
      cases h
      rfl
    | _ => cases h
  · rintro rfl
    exact ⟨.none, rfl⟩

theorem act_http {caller : Option Caller} {req : Req} {out : HttpOutcome} :
    Act s (.http caller req) out s' ↔ ∃ i pve, i.out = out ∧ s.pve.serve caller req i = some pve ∧
      s' = { s with pve, hist := httpEvents s.pve caller req i ++ s.hist } := by
  constructor
  · rintro ⟨i, h⟩
    cases i with
    | http i =>
      simp only [perform, Option.map_eq_some_iff, Prod.mk.injEq] at h
      obtain ⟨pve, hp, ho, rfl⟩ := h
      exact ⟨i, pve, ho, hp, rfl⟩
    | _ => cases h
  · rintro ⟨i, pve, rfl, hp, rfl⟩
    exact ⟨.http i, by simp [perform, hp]⟩

theorem act_ssh {v : VmId} {ip : String} {a : Bool} : Act s (.ssh v ip) a s' ↔
    s' = if a then { s with hist := .sshOk v ip :: s.hist } else s := by
  constructor
  · rintro ⟨i, h⟩
    cases i with
    | ssh ok =>
      cases h
      rfl
    | _ => cases h
  · rintro rfl
    exact ⟨.ssh a, rfl⟩

theorem act_time {now : Nat} : Act s .time now s' ↔ s' = { s with hist := .time now :: s.hist } := by
  constructor
  · rintro ⟨i, h⟩
    cases i with
    | nat n =>
      cases h
      rfl
    | _ => cases h
  · rintro rfl
    exact ⟨.nat now, rfl⟩

theorem act_connect {v : VmId} {ip : String} {a : Option ConnId} :
    Act s (.connect v ip) a s' ↔ s' = s := by
  constructor
  · rintro ⟨i, h⟩
    cases i <;> cases h <;> rfl
  · rintro rfl
    cases a with
    | none => exact ⟨.none, rfl⟩
    | some conn => exact ⟨.nat conn, rfl⟩

theorem act_closeConnection {conn : ConnId} {a : Unit} :
    Act s (.closeConnection conn) a s' ↔ s' = s := by
  constructor
  · rintro ⟨i, h⟩
    cases i <;> cases h
    rfl
  · rintro rfl
    exact ⟨.none, rfl⟩

theorem act_recover {a : Unit} :
    Act s .recover a s' ↔ s' = { s with db := markOrphanedRunningAsFailed s.db } := by
  constructor
  · rintro ⟨i, h⟩
    cases i with
    | none =>
      cases h
      rfl
    | _ => cases h
  · rintro rfl
    exact ⟨.none, rfl⟩

theorem act_seedTemplates {rows : List Template → List Template} {a : Unit} :
    Act s (.seedTemplates rows) a s' ↔
      s' = { s with db := { s.db with templates := rows s.db.templates } } := by
  constructor
  · rintro ⟨i, h⟩
    cases i with
    | none =>
      cases h
      rfl
    | _ => cases h
  · rintro rfl
    exact ⟨.none, rfl⟩

theorem act_startWorker {a : Unit} :
    Act s .startWorker a s' ↔ s' = { s with workerOn := true } := by
  constructor
  · rintro ⟨i, h⟩
    cases i with
    | none =>
      cases h
      rfl
    | _ => cases h
  · rintro rfl
    exact ⟨.none, rfl⟩

theorem act_lock {a : Unit} : Act s .lock a s' ↔ s.locked = false ∧ s' = { s with locked := true } := by
  constructor
  · rintro ⟨i, h⟩
    cases i with
    | none =>
      simp only [perform, Option.ite_none_left_eq_some, Option.some.injEq, Prod.mk.injEq,
        true_and, Bool.not_eq_true] at h
      exact ⟨h.1, h.2.symm⟩
    | _ => cases h
  · rintro ⟨hl, rfl⟩
    exact ⟨.none, by simp [perform, hl]⟩

theorem act_unlock {a : Unit} : Act s .unlock a s' ↔ s' = { s with locked := false } := by
  constructor
  · rintro ⟨i, h⟩
    cases i with
    | none =>
      cases h
      rfl
    | _ => cases h
  · rintro rfl
    exact ⟨.none, rfl⟩

theorem act_selectLiveHostname {h : String} : Act s (.selectLiveHostname h) none s' ↔
    (∀ v vm, s.db.vms.get v = some vm → vm.hostname.toLower = h → vm.deletedAt ≠ none) ∧ s' = s := by
  have hfind : s.db.vms.rows.find? (fun vm => vm.hostname.toLower = h && vm.deletedAt.isNone) = none ↔
      ∀ v vm, s.db.vms.get v = some vm → vm.hostname.toLower = h → vm.deletedAt ≠ none := by
    rw [List.find?_eq_none]
    constructor
    · intro hall v vm hvm heq hd
      exact hall vm (List.mem_of_getElem? hvm) (by simp [heq, hd])
    · intro hall vm hvm hrow
      rw [Bool.and_eq_true, decide_eq_true_eq, Option.isNone_iff_eq_none] at hrow
      obtain ⟨v, hv⟩ := List.mem_iff_getElem?.mp hvm
      exact hall v vm hv hrow.1 hrow.2
  constructor
  · intro hact
    obtain ⟨i, hi⟩ := hact
    cases i with
    | none =>
      simp only [perform, Option.some.injEq, Prod.mk.injEq] at hi
      exact ⟨hfind.mp hi.1, hi.2.symm⟩
    | _ => cases hi
  · intro hall
    obtain ⟨hall, rfl⟩ := hall
    refine ⟨.none, ?_⟩
    simp only [perform, hfind.mpr hall]

theorem act_selectQueued {a : List (JobId × Job)} : Act s .selectQueued a s' ↔
    s' = s ∧ ∃ l : List JobId, l.Perm (s.db.jobs.select fun job => job.status = .queued) ∧
      a = l.filterMap fun j => (s.db.jobs.get j).map fun job => (j, job) := by
  constructor
  · rintro ⟨i, h⟩
    cases i with
    | order l =>
      simp only [perform, Option.ite_none_right_eq_some, List.isPerm_iff, Option.some.injEq,
        Prod.mk.injEq] at h
      exact ⟨h.2.2.symm, l, h.1, h.2.1.symm⟩
    | _ => cases h
  · rintro ⟨rfl, l, hl, rfl⟩
    exact ⟨.order l, by simp [perform, List.isPerm_iff, hl]⟩

/-- The query for the queued jobs returns each of them once. -/
theorem act_selected {a : List (JobId × Job)} (h : Act s .selectQueued a s') :
    s' = s ∧ (∀ j ∈ a, s.db.jobs.get j.1 = some j.2 ∧ j.2.status = .queued) ∧
      (a.map Prod.fst).Nodup ∧
        ∀ i job, s.db.jobs.get i = some job → job.status = .queued → i ∈ a.map Prod.fst := by
  obtain ⟨rfl, l, hl, rfl⟩ := act_selectQueued.mp h
  have hmem : ∀ i, i ∈ l ↔ ∃ job, s'.db.jobs.get i = some job ∧ job.status = .queued := by
    intro i
    rw [hl.mem_iff, Table.mem_select]
    simp
  have hfst : (l.filterMap fun j => (s'.db.jobs.get j).map fun job => (j, job)).map Prod.fst = l := by
    rw [List.map_filterMap]
    have hall : ∀ j ∈ l, ((s'.db.jobs.get j).map fun job => (j, job)).map Prod.fst = some j := by
      intro j hj
      obtain ⟨job, hjob, _⟩ := (hmem j).mp hj
      simp [hjob]
    rw [List.filterMap_congr hall, List.filterMap_some]
  refine ⟨rfl, fun j hj => ?_, ?_, fun i job hjob hs => ?_⟩
  · obtain ⟨i, hi, hrow⟩ := List.mem_filterMap.mp hj
    obtain ⟨job, hjob, hs⟩ := (hmem i).mp hi
    rw [hjob] at hrow
    cases hrow
    exact ⟨hjob, hs⟩
  · rw [hfst]
    exact hl.symm.nodup (Table.select_nodup _ _)
  · rw [hfst]
    exact (hmem i).mpr ⟨job, hjob, hs⟩

/-- What one attempt of a request writes to the history. -/
inductive HttpEvent (pve : Cluster) (caller : Option Caller) (req : Req) (i : HttpIn) : Ev → Prop
  | report {node ip : String} {n : Int} : req = .networkInterfaces node n → ipOf i.out = some ip →
      HttpEvent pve caller req i (.report n ip)
  | boot {n : Int} : i.boots req = true → req.target = some n → HttpEvent pve caller req i (.boot n)
  | renew {n : Int} : i.renews req = true → req.target = some n → HttpEvent pve caller req i (.renew n)
  | call : req.isGet = false → HttpEvent pve caller req i (.call caller req (req.target.bind pve.find))

theorem mem_httpEvents {pve : Cluster} {caller : Option Caller} {req : Req} {i : HttpIn} {ev : Ev}
    (h : ev ∈ httpEvents pve caller req i) : HttpEvent pve caller req i ev := by
  unfold httpEvents at h
  split at h
  · simp only [Option.mem_toList, Option.map_eq_some_iff] at h
    obtain ⟨ip, hip, rfl⟩ := h
    exact .report rfl hip
  · split at h
    · cases h
    · next hget =>
      rw [List.mem_append, List.mem_append, List.mem_singleton] at h
      rcases h with h | h | rfl
      · split at h
        · next hboot =>
          simp only [Option.mem_toList, Option.map_eq_some_iff] at h
          obtain ⟨n, hn, rfl⟩ := h
          exact .boot hboot hn
        · cases h
      · split at h
        · next hrenew =>
          simp only [Option.mem_toList, Option.map_eq_some_iff] at h
          obtain ⟨n, hn, rfl⟩ := h
          exact .renew hrenew hn
        · cases h
      · exact .call (by simpa using hget)

/-- Proxmox carries out the request itself, or some other change of its guest's power. -/
theorem HttpIn.effect_cases {i : HttpIn} {req effect : Req} (h : i.effect req = some effect) :
    (i.applied = true ∧ effect = req) ∨
      ∃ node n action action', req = .power node n action ∧ effect = .power node n action' := by
  unfold HttpIn.effect at h
  split at h
  · next hi => exact .inl ⟨hi, (Option.some.inj h).symm⟩
  · split at h
    · exact .inr ⟨_, _, _, _, rfl, (Option.some.inj h).symm⟩
    · exact .inr ⟨_, _, _, _, rfl, (Option.some.inj h).symm⟩
    · cases h

theorem HttpIn.isGet_of_boots {i : HttpIn} {req : Req} (h : i.boots req = true) :
    req.isGet = false := by
  obtain ⟨effect, he, hb⟩ := (Option.any_eq_true _ _).mp h
  rcases HttpIn.effect_cases he with ⟨_, rfl⟩ | ⟨node, n, action, action', rfl, _⟩
  · cases effect <;> first | rfl | cases hb
  · rfl

/-- Only a script the agent has run resets a machine-id. -/
theorem HttpIn.renews_iff {i : HttpIn} {req : Req} :
    i.renews req = true ↔ i.applied = true ∧ ∃ node n script, req = .exec node n script := by
  constructor
  · intro h
    obtain ⟨effect, he, hr⟩ := (Option.any_eq_true _ _).mp h
    rcases HttpIn.effect_cases he with ⟨hi, rfl⟩ | ⟨node, n, action, action', rfl, rfl⟩
    · cases effect <;> first | exact ⟨hi, _, _, _, rfl⟩ | cases hr
    · cases hr
  · rintro ⟨hi, node, n, script, rfl⟩
    simp [HttpIn.renews, HttpIn.effect, hi, Req.renews]

theorem serve_get {pve pve' : Cluster} {caller : Option Caller} {req : Req} {i : HttpIn}
    (hg : req.isGet = true) (h : pve.serve caller req i = some pve') :
    pve' = pve ∧ pve.honest req i = true := by
  unfold Cluster.serve at h
  rw [Option.ite_none_left_eq_some, if_pos hg, Option.ite_none_left_eq_some] at h
  exact ⟨Option.some.inj h.2.2.symm, by simpa using h.1⟩

/-- An agent that names no address leaves nothing behind. -/
theorem act_silent {caller : Option Caller} {node : String} {n : Int} {out : HttpOutcome}
    (h : Act s (.http caller (.networkInterfaces node n)) out s') (hip : ipOf out = none) : s' = s := by
  obtain ⟨i, pve, rfl, hp, rfl⟩ := act_http.mp h
  obtain ⟨rfl, _⟩ := serve_get rfl hp
  simp [httpEvents, hip]

/-- A reading await leaves everything but the history, and there only readings of the clock. -/
theorem act_read {caller : Option Caller} {e : Eff} {a : Ans e} (he : IsRead caller e)
    (h : Act s e a s') : ∃ evs, (∀ ev ∈ evs, ev.Quiet) ∧ s' = { s with hist := evs ++ s.hist } := by
  cases he with
  | get hg hask =>
    obtain ⟨i, pve, rfl, hp, rfl⟩ := act_http.mp h
    obtain ⟨rfl, _⟩ := serve_get hg hp
    refine ⟨_, fun ev hev => ?_, rfl⟩
    cases mem_httpEvents hev with
    | report hreq _ =>
      subst hreq
      cases hask
    | boot hb _ =>
      rw [HttpIn.isGet_of_boots hb] at hg
      cases hg
    | renew hr _ =>
      obtain ⟨_, _, _, _, rfl⟩ := HttpIn.renews_iff.mp hr
      cases hg
    | call hn =>
      rw [hn] at hg
      cases hg
  | clock hc =>
    cases hc with
    | time =>
      refine ⟨[.time a], fun ev hev => ?_, act_time.mp h⟩
      rw [List.mem_singleton.mp hev]
      trivial
    | sleep _ | forever =>
      have hs : s' = s := by
        obtain ⟨i, h⟩ := h
        cases i <;> simp only [perform, reduceCtorEq, Option.some.injEq, Prod.mk.injEq] at h
        all_goals exact h.2.symm
      exact ⟨[], by simp, hs⟩
  | utcnow | selectTemplate _ | selectLiveHostname _ | connect _ _ | closeConnection _ =>
    have hs : s' = s := by
      obtain ⟨i, h⟩ := h
      cases i <;> simp only [perform, reduceCtorEq, Option.some.injEq, Prod.mk.injEq] at h
      all_goals exact h.2.symm
    exact ⟨[], by simp, hs⟩

end Act

end Clusteration
