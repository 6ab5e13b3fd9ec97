import Clusteration.Properties.Exposure

open Transition

namespace Clusteration

def Ev.isBoot (n : Int) : Ev → Bool
  | .boot k => k = n
  | _ => false

/-- The history since the last boot of guest `n`. -/
def sinceBoot (hist : List Ev) (n : Int) : List Ev := hist.takeWhile fun ev => !ev.isBoot n

/-- The history since the last boot of guest `n`, and since the job was begun. -/
def lately (hist : List Ev) (n : Int) (j : JobId) : List Ev :=
  hist.takeWhile fun ev => !ev.isBoot n && !ev.enters j

/-- A job that boots the guest of a live running record is at work. -/
structure Booting (s : Shared) (j : JobId) (vm : VM) : Prop where
  job : ∃ job v, s.db.jobs.get j = some job ∧ job.status = .running ∧ job.type.followedUp = true ∧
    job.vmId = some v ∧ s.db.vms.get v = some vm
  live : vm.deletedAt = none
  running : vm.status = .running

/-- Such a job ends well in this step, and leaves an address in the record. -/
structure Booted (s s' : Shared) (j : JobId) (n : Int) : Prop where
  work : ∃ vm, Booting s j vm ∧ vm.proxmoxVmid = some n ∧ vm.ipAddress.isSome = true
  success : ∃ job', s'.db.jobs.get j = some job' ∧ job'.status = .success

/-- Guests are kept apart. A job that boots its guest and ends well has had an answer of the guest's
agent that names an address since the last boot; and the process does not end while the record of
such a job is running and has an address. -/
structure Attended (s : Shared) (l : Label) (s' : Shared) : Prop where
  exclusive : Exclusive s l s'
  heard : ∀ j n, Booted s s' j n → ∃ ip, Ev.report n ip ∈ lately s.hist n j
  crashed : l = .crash → ∀ j vm, Booting s j vm → vm.ipAddress = none

section History
variable {α : Type} {p q : α → Bool} {xs ys : List α} {a : α}

theorem takeWhile_append_of_mem (ha : a ∉ xs) (h : a ∈ (xs ++ ys).takeWhile p) :
    (xs ++ ys).takeWhile p = xs ++ ys.takeWhile p := by
  rw [List.takeWhile_append] at h ⊢
  split
  · rfl
  · next hne =>
    rw [if_neg hne] at h
    exact absurd ((List.takeWhile_prefix p).subset h) ha

theorem mem_takeWhile_append (h : a ∈ (xs ++ ys).takeWhile p) : a ∈ xs ∨ a ∈ ys.takeWhile p := by
  by_cases ha : a ∈ xs
  · exact .inl ha
  · rw [takeWhile_append_of_mem ha h] at h
    exact List.mem_append.mp h

theorem takeWhile_subset (hpq : ∀ x, p x = true → q x = true) : xs.takeWhile p ⊆ xs.takeWhile q := by
  induction xs with
  | nil => simp
  | cons x xs ih =>
    intro y hy
    rw [List.takeWhile_cons] at hy ⊢
    split at hy
    · next hx =>
      rw [if_pos (hpq x hx)]
      rcases List.mem_cons.mp hy with rfl | hy
      · exact List.mem_cons_self
      · exact List.mem_cons_of_mem _ (ih hy)
    · cases hy

variable {evs hist : List Ev} {n : Int} {j : JobId} {ev : Ev} {ip : String}

theorem sinceBoot_append (h : ∀ ev ∈ evs, ev.isBoot n = false) :
    sinceBoot (evs ++ hist) n = evs ++ sinceBoot hist n :=
  List.takeWhile_append_of_pos fun ev hev => by simp [h ev hev]

theorem lately_subset : lately hist n j ⊆ sinceBoot hist n :=
  takeWhile_subset fun _ hev => ((Bool.and_eq_true _ _).mp hev).1

end History

/-- The address a job is to commit, or has committed, since it began. -/
def Exec.news (w : Exec) : Option String :=
  match w.stage with
  | .heard ip | .named _ ip => some ip
  | .up _ | .settled => w.x.ip
  | _ => none

/-- If an address of a guest was named while the job was at work, and since the guest's last boot, then
the guest is its record's, and the job has one such address. -/
def Exec.Latest (w : Exec) (hist : List Ev) : Prop :=
  ∀ n ip, Ev.report n ip ∈ lately hist n w.j →
    w.x.vmid = some n ∧ ∃ a, w.news = some a ∧ Ev.report n a ∈ lately hist n w.j

section Latest
variable {w w' : Exec} {evs hist : List Ev}

theorem Exec.Latest.silent (h : w.Latest hist) (hn : w.news = none) (n : Int) (ip : String) :
    Ev.report n ip ∉ lately hist n w.j := by
  intro hrep
  obtain ⟨_, a, ha, _⟩ := h n ip hrep
  rw [hn] at ha
  cases ha

/-- A job that has no address goes on. -/
theorem Exec.Latest.advance (h : w.Latest hist) (hn : w.news = none) (hj : w'.j = w.j) :
    w'.Latest hist := by
  intro n ip hrep
  rw [hj] at hrep
  exact absurd hrep (h.silent hn n ip)

theorem Exec.Latest.same (h : w.Latest hist) (hj : w'.j = w.j) (hv : w'.x.vmid = w.x.vmid)
    (hn : w'.news = w.news) : w'.Latest hist := by
  unfold Exec.Latest
  rw [hj, hv, hn]
  exact h

/-- What names no address does no harm. -/
theorem Exec.Latest.append (h : w.Latest hist) (hno : ∀ n ip, Ev.report n ip ∉ evs) :
    w.Latest (evs ++ hist) := by
  intro n ip hrep
  have heq : lately (evs ++ hist) n w.j = evs ++ lately hist n w.j :=
    takeWhile_append_of_mem (hno n ip) hrep
  rw [heq] at hrep ⊢
  rcases List.mem_append.mp hrep with hrep | hrep
  · exact absurd hrep (hno n ip)
  · obtain ⟨hv, a, ha, hold⟩ := h n ip hrep
    exact ⟨hv, a, ha, List.mem_append_right _ hold⟩

/-- The agent of the record's guest has just named an address. -/
theorem Exec.Latest.told (h : w.Latest hist) {n : Int} {ip : String} (hj : w'.j = w.j)
    (hv : w.x.vmid = some n) (hv' : w'.x.vmid = some n) (hn : w'.news = some ip) :
    w'.Latest (.report n ip :: hist) := by
  have hstays : ∀ k, lately (.report n ip :: hist) k w.j = .report n ip :: lately hist k w.j :=
    fun k => List.takeWhile_cons_of_pos rfl
  intro k b hrep
  rw [hj, hstays] at hrep ⊢
  have hk : k = n := by
    rcases List.mem_cons.mp hrep with heq | hrep
    · cases heq
      rfl
    · exact Option.some.inj ((h k b hrep).1.symm.trans hv)
  subst hk
  exact ⟨hv', ip, hn, List.mem_cons_self⟩

theorem Exec.Latest.edit {stage : Stage} {x : Core} {target : Option Int} (h : w.Latest hist)
    (he : Edit w stage x target) : Exec.Latest { w with stage, x, target } hist := by
  have hadvance : w.news = none → Exec.Latest { w with stage, x, target } hist :=
    fun hn => h.advance hn rfl
  cases he with
  | metadata => exact h
  | addressed hs _ => exact h.same rfl rfl (by simp [Exec.news, hs])
  | address hs => exact h.same rfl rfl (by simp [Exec.news, hs])
  | noAddress hs | ready hs => exact h.same rfl rfl (by simp [Exec.news, hs])
  | power hs _ _ | stopped hs _ _ | unheard hs _ | delete hs _ | wipe hs _ | target hs | targetLost hs
  | adopt hs | booted hs | sshReady hs | sshFailed hs _ => exact hadvance (by simp [Exec.news, hs])
  | deleted _ hg _ | cleared hg _ =>
    apply hadvance
    rcases hg with hs | ⟨hs, _⟩ <;> simp [Exec.news, hs]
  | prepare hs =>
    apply hadvance
    rcases hs with ⟨hs, _⟩ | ⟨hs, _⟩ <;> simp [Exec.news, hs]

end Latest

def View.Latest (m : View) : Prop := ∀ w, m.worker = .exec w → w.Latest m.hist

section Step
variable {m m' : View} {l : Label}

/-- What a request other than the question for an address writes. -/
theorem httpEvents_silent {pve : Cluster} {caller : Option Caller} {req : Req} {i : HttpIn}
    (h : req.asksAddress = false) (n : Int) (ip : String) :
    Ev.report n ip ∉ httpEvents pve caller req i := by
  intro hev
  cases mem_httpEvents hev with
  | report hreq _ =>
    subst hreq
    cases h

theorem Calls.asksAddress {w : Exec} {req : Req} (h : Calls w req) : req.asksAddress = false := by
  cases h <;> rfl

theorem View.Latest.step (hl : m.Latest) (hb : Base m) (hm : Move m l m') : m'.Latest := by
  intro w' hw'
  cases hm with
  | observe evs hq =>
    refine (hl w' hw').append fun n ip hev => ?_
    exact hq _ hev
  | @enter p job v vm row _ _ _ _ =>
    cases hw'
    intro n ip hrep
    simp [lately, Exec.begin, Ev.isBoot, Ev.enters] at hrep
  | @http w req i stage pve _ hw hcall _ =>
    cases hw'
    have hold := hl w hw
    rcases hcall with ⟨hc, rfl⟩ | hlearn
    · exact hold.append (httpEvents_silent hc.asksAddress)
    · have hadvance : req.asksAddress = false → w.news = none →
          Exec.Latest { w with stage } (httpEvents m.pve (some w.caller) req i ++ m.hist) :=
        fun hask hn => (hold.append (httpEvents_silent hask)).advance hn rfl
      have hok := (hb.exec hw).ok
      cases hlearn with
      | heard node hs _ hn hip =>
        simp only [httpEvents, hip]
        exact hold.told rfl hn hn rfl
      | named node hs hip =>
        simp only [Exec.Ok, hs] at hok
        simp only [httpEvents, hip]
        exact hold.told rfl hok.2.2.1 hok.2.2.1 rfl
      | nextId hs _ | powering _ hs _ _ _ | powered _ hs _ | missing hs _ _ | accepted _ hs _ _
      | starting _ hs _ | started _ hs _ | unaccepted _ _ _ hs _ | broken _ _ hs _
      | destroyed _ hs _ => exact hadvance rfl (by simp [Exec.news, hs])
  | @ssh w ip _ hw hs _ _ =>
    cases hw'
    have hno : ∀ n a, Ev.report n a ∉ [Ev.sshOk w.v ip] := by simp
    exact ((hl w hw).append hno).advance (by simp [Exec.news, hs]) rfl
  | @clock w stage now _ hw hlearn =>
    cases hw'
    have hno : ∀ n a, Ev.report n a ∉ [Ev.time now] := by simp
    refine ((hl w hw).append hno).advance ?_ rfl
    rcases hlearn.clock_cases with ⟨n, hs, _⟩ | ⟨n, start, hs, _⟩ <;> simp [Exec.news, hs]
  | edit _ hw _ he =>
    cases hw'
    exact (hl _ hw).edit he
  | crash _ | restart _ _ | get _ _ _ | job _ _ _ | vm _ _ _ _ | fail _ _ _ _ _ | follow _ _ _
  | followPut _ _ => cases hw'
  | finish _ _ _ =>
    dsimp only at hw'
    split at hw' <;> cases hw'
  | _ => exact hl w' hw'

/-- Events that tell nothing of a guest. -/
def Ev.aside : Ev → Bool
  | .call .. | .boot _ | .renew _ | .report .. => false
  | _ => true

theorem Ev.aside_of_quiet {ev : Ev} (h : ev.Quiet) : ev.aside = true := by
  cases ev with
  | time _ => rfl
  | _ => exact h.elim

theorem Ev.isBoot_of_aside {ev : Ev} {n : Int} (h : ev.aside = true) : ev.isBoot n = false := by
  cases ev with
  | boot _ => cases h
  | _ => rfl

/-- Only the requests of the job at work change a guest or tell of one. -/
theorem Move.tells (hm : Move m l m') : (m'.pve = m.pve ∧ ∃ evs, m'.hist = evs ++ m.hist ∧
    ∀ ev ∈ evs, ev.aside = true) ∨ ∃ w req i, Sent m l m' w req i := by
  have hone : ∀ {ev : Ev}, m'.pve = m.pve → m'.hist = ev :: m.hist → ev.aside = true →
      m'.pve = m.pve ∧ ∃ evs, m'.hist = evs ++ m.hist ∧ ∀ ev ∈ evs, ev.aside = true :=
    fun hpve hist h => ⟨hpve, _, hist, fun _ hev => List.mem_singleton.mp hev ▸ h⟩
  cases hm with
  | http _ hw hcall hserve => exact .inr ⟨_, _, _, .of_move hw hcall hserve⟩
  | get _ _ _ | enter _ _ _ | ssh _ _ _ _ _ | clock _ _ _ => exact .inl (hone rfl rfl rfl)
  | observe evs hq => exact .inl ⟨rfl, evs, rfl, fun ev hev => Ev.aside_of_quiet (hq ev hev)⟩
  | _ => exact .inl ⟨rfl, [], rfl, by simp⟩

/-- A step that boots no guest `n` adds to the history since its last boot. -/
theorem Move.sinceBoot_kept (hm : Move m l m') {n : Int} (hno : ∀ w req i g, Sent m l m' w req i →
    req.isGet = false → req.target = some n → m.pve.find n ≠ some g) :
    sinceBoot m.hist n ⊆ sinceBoot m'.hist n := by
  have hadds : ∀ {evs}, m'.hist = evs ++ m.hist → (∀ ev ∈ evs, ev.isBoot n = false) →
      sinceBoot m.hist n ⊆ sinceBoot m'.hist n := by
    intro evs hist hnone
    rw [hist, sinceBoot_append hnone]
    exact List.subset_append_right _ _
  rcases hm.tells with ⟨_, evs, hist, haside⟩ | ⟨w, req, i, hsent⟩
  · exact hadds hist fun ev hev => Ev.isBoot_of_aside (haside ev hev)
  · refine hadds hsent.hist fun ev hev => Bool.eq_false_iff.mpr fun hb => ?_
    cases mem_httpEvents hev with
    | report _ _ | renew _ _ | call _ => cases hb
    | @boot k hboots ht =>
      obtain rfl : k = n := of_decide_eq_true hb
      obtain ⟨n, g, ht', hg⟩ := serve_boots hsent.serve hboots
      obtain rfl := Option.some.inj (ht'.symm.trans ht)
      exact hno w req i g hsent (HttpIn.isGet_of_boots hboots) ht hg

/-- What becomes of the job at work in a step. -/
inductive Leaves (m : View) (l : Label) (m' : View) (w : Exec) : Prop
  | stays {w' : Exec} : m'.worker = .exec w' → w'.v = w.v → w'.type = w.type → Leaves m l m' w
  | crash : l = .crash → m'.vms = m.vms → Leaves m l m' w
  | finish : w.stage = .settled → m'.jobs w.j = some ⟨w.type, .success, some w.v, w.target⟩ →
      m'.vms = m.vms → m'.pve = m.pve → m'.hist = m.hist → Leaves m l m' w
  | fail {row : Core} : m'.vms w.v = some { row with status := .error } → Leaves m l m' w

theorem Move.leaves (hb : Base m) (hm : Move m l m') {w : Exec} (hw : m.worker = .exec w) :
    Leaves m l m' w := by
  have hsame : ∀ {w₀ : Exec}, m.worker = .exec w₀ → w₀ = w := fun h =>
    WorkerPhase.exec.inj (h.symm.trans hw)
  have hnot : ∀ {φ : WorkerPhase}, m.worker = φ → φ ≠ .exec w → Leaves m l m' w := fun h hne =>
    absurd (h.symm.trans hw) hne
  cases hm with
  | crash _ => exact .crash rfl rfl
  | restart _ halive => exact hnot (hb.early (.inl halive)).1 (by simp)
  | get _ h _ | job _ h _ | vm _ h _ _ | enter _ h _ | follow _ h _ | followPut _ h =>
    exact hnot h (by simp)
  | http _ h _ _ | ssh _ h _ _ _ | clock _ h _ | edit _ h _ _ =>
    obtain rfl := hsame h
    exact .stays rfl rfl rfl
  | fail _ h _ _ _ =>
    obtain rfl := hsame h
    exact .fail (Function.update_self ..)
  | finish _ h hs =>
    obtain rfl := hsame h
    exact .finish hs (Function.update_self ..) rfl rfl rfl
  | _ => exact .stays hw rfl rfl

/-- A live running record that no job which boots its guest works on. -/
structure View.Rests (m : View) (v : VmId) (x : Core) : Prop where
  row : m.vms v = some x
  live : x.deletedAt = none
  running : x.status = .running
  idle : ∀ w, m.worker = .exec w → w.v = v → w.type.followedUp = false

/-- Only a job that boots its guest brings a record to `running`, or changes the address of one. -/
theorem Edit.rests_back {w : Exec} {stage : Stage} {x : Core} {target : Option Int}
    (h : Edit w stage x target) (hw : w.Ok) (hf : w.type.followedUp = false)
    (hr : x.status = .running) : w.x.status = .running ∧ x.vmid = w.x.vmid ∧ x.ip = w.x.ip := by
  by_cases ht : w.type = .sshReadinessCheck
  · have hx := h.ssh_only hw ht
    have hvmid : x.vmid = w.x.vmid := by rw [hx]
    have hip : x.ip = w.x.ip := by rw [hx]
    exact ⟨(congrArg Core.status hx).symm.trans hr, hvmid, hip⟩
  · obtain rfl := h.still_running hw hf ht hr
    exact ⟨hr, rfl, rfl⟩

/-- How a record comes to rest. -/
inductive RestOrigin (m : View) (l : Label) (m' : View) (v : VmId) (x' : Core) : Prop
  | same {x : Core} : m.Rests v x → x'.vmid = x.vmid → x'.ip = x.ip → RestOrigin m l m' v x'
  /-- the job that has booted its guest ends well -/
  | ended {w : Exec} : m.worker = .exec w → w.v = v → w.type.followedUp = true → w.stage = .settled →
      m.vms v = some x' → m'.jobs w.j = some ⟨w.type, .success, some v, w.target⟩ →
      m'.vms = m.vms → m'.pve = m.pve → m'.hist = m.hist → RestOrigin m l m' v x'
  /-- the process ends with such a job at work -/
  | crashed {w : Exec} : m.worker = .exec w → w.v = v → w.type.followedUp = true → l = .crash →
      m.vms v = some x' → RestOrigin m l m' v x'

theorem Move.rest_back (hm : Move m l m') (hb : Base m) (hk : m.Backed) {v : VmId} {x' : Core}
    (h : m'.Rests v x') : RestOrigin m l m' v x' := by
  by_cases hwork : ∃ w, m.worker = .exec w ∧ w.v = v ∧ w.type.followedUp = true
  · obtain ⟨w, hw, rfl, hf⟩ := hwork
    cases hm.leaves hb hw with
    | stays hw' hv ht =>
      have hidle := h.idle _ hw' hv
      rw [ht, hf] at hidle
      cases hidle
    | crash hl hvms => exact .crashed hw rfl hf hl (hvms ▸ h.row)
    | finish hs hjob hvms hpve hist => exact .ended hw rfl hf hs (hvms ▸ h.row) hjob hvms hpve hist
    | fail hrow =>
      have hrunning := h.running
      rw [← Option.some.inj (hrow.symm.trans h.row)] at hrunning
      cases hrunning
  · have hidle : ∀ w, m.worker = .exec w → w.v = v → w.type.followedUp = false := by
      intro w hw hv
      rw [Bool.eq_false_iff]
      exact fun hf => hwork ⟨w, hw, hv, hf⟩
    cases hm.vms_back h.row with
    | same hrow => exact .same ⟨hrow, h.live, h.running, hidle⟩ rfl rfl
    | @edit w _ x row _ hw hwv hrow he _ hx' =>
      obtain ⟨hok, _, row', hrow', hag⟩ := hb.exec hw
      obtain rfl := Option.some.inj (hrow.symm.trans (hwv ▸ hrow'))
      subst hx'
      obtain ⟨hst, hvmid, hip⟩ := he.rests_back hok (hidle w hw hwv) h.running
      have hlive : w.x.deletedAt = none := he.live h.live
      exact .same ⟨hrow, hag.deletedAt.trans hlive, hag.status.trans hst, hidle⟩
        (hvmid.trans hag.vmid.symm) (hip.trans hag.ip.symm)
    | fail _ _ _ _ _ _ hx' =>
      subst hx'
      cases h.running
    | mark _ _ hrow hx' =>
      subst hx'
      exact .same ⟨hrow, h.live, h.running, hidle⟩ rfl rfl
    | @recover adopted row hrow _ _ hx' =>
      subst hx'
      have hrunning := h.running
      simp only [Core.recovered] at hrunning
      split at hrunning
      · cases hrunning
      · obtain ⟨n, hn⟩ := Option.isSome_iff_exists.mp
          ((hk.rows hrow).status (by rw [hrunning]; rfl))
        exact .same ⟨hrow, h.live, hrunning, hidle⟩ (by simp [Core.recovered, hn]) rfl
    | create _ _ _ _ hx' =>
      subst hx'
      cases h.running

/-- No job sends a state-changing request to the guest of a record at rest. -/
theorem Sent.not_rests {w : Exec} {req : Req} {i : HttpIn} (h : Sent m l m' w req i) (ho : m.Owned)
    (hb : Base m) (hget : req.isGet = false) {n : Int} {g : Guest} (ht : req.target = some n)
    (hg : m.pve.find n = some g) {v : VmId} {x : Core} (hn : x.vmid = some n) : ¬ m.Rests v x := by
  intro hx
  obtain ⟨hv, hprovisions, _⟩ := h.provisions ho hb hget ht hg hx.row hn hx.live hx.running
  have hidle := hx.idle w h.work hv
  rw [JobType.followedUp_of_provisions hprovisions] at hidle
  cases hidle

/-- The guest of a record at rest has named the record's address since it booted. -/
def View.Told (m : View) : Prop :=
  ∀ v x n a, m.Rests v x → x.vmid = some n → x.ip = some a → Ev.report n a ∈ sinceBoot m.hist n

/-- A readiness check of a running record leaves it at rest. -/
theorem Base.rests_checked (hb : Base m) {w : Exec} (hw : m.worker = .exec w)
    (ht : w.type = .sshReadinessCheck) (hd : w.x.deletedAt = none) (hr : w.x.status = .running) :
    ∃ row, m.Rests w.v row ∧ row.vmid = w.x.vmid ∧ row.ip = w.x.ip := by
  obtain ⟨_, _, row, hrow, hag⟩ := hb.exec hw
  refine ⟨row, ⟨hrow, hag.deletedAt.trans hd, hag.status.trans hr, fun w₀ hw₀ _ => ?_⟩, hag.vmid, hag.ip⟩
  obtain rfl := WorkerPhase.exec.inj (hw.symm.trans hw₀)
  rw [ht]
  rfl

/-- The address such a check tries is one the guest has named since it booted. -/
theorem View.Told.checked (h : m.Told) (hb : Base m) {w : Exec} (hw : m.worker = .exec w)
    (ht : w.type = .sshReadinessCheck) (hd : w.x.deletedAt = none) (hr : w.x.status = .running)
    {n : Int} {ip : String} (hn : w.x.vmid = some n) (hip : w.x.ip = some ip) :
    Ev.report n ip ∈ sinceBoot m.hist n := by
  obtain ⟨row, hrests, hvmid, hrowip⟩ := hb.rests_checked hw ht hd hr
  exact h w.v row n ip hrests (hvmid.trans hn) (hrowip.trans hip)

end Step

section Run
variable {t t' : Abs} {l : Label}

theorem booting_of_work (hb : Base t.view) {w : Exec} (hw : t.view.worker = .exec w)
    (hf : w.type.followedUp = true) {vm : VM} (hvm : t.shared.db.vms.get w.v = some vm)
    (hd : vm.deletedAt = none) (hr : vm.status = .running) : Booting t.shared w.j vm := by
  obtain ⟨job, hget, hcore⟩ := Option.map_eq_some_iff.mp (hb.exec hw).job
  have htype : job.type = w.type := congrArg JobCore.type hcore
  exact ⟨⟨job, w.v, hget, congrArg JobCore.status hcore, htype ▸ hf, congrArg JobCore.vmId hcore, hvm⟩,
    hd, hr⟩

/-- The last commit of such a job on a live running record with an address. -/
theorem booted_of_ended (hb : Base t.view) {w : Exec} {x : Core} {n : Int} {a : String}
    (hw : t.view.worker = .exec w) (hf : w.type.followedUp = true) (hx : t.view.vms w.v = some x)
    (hd : x.deletedAt = none) (hr : x.status = .running) (hn : x.vmid = some n) (ha : x.ip = some a)
    (hjob : t'.view.jobs w.j = some ⟨w.type, .success, some w.v, w.target⟩) :
    Booted t.shared t'.shared w.j n := by
  obtain ⟨vm, hvm, rfl⟩ := Option.map_eq_some_iff.mp hx
  obtain ⟨job', hget', hcore'⟩ := Option.map_eq_some_iff.mp hjob
  have hip : vm.ipAddress = some a := ha
  exact ⟨⟨vm, booting_of_work hb hw hf hvm hd hr, hn, by rw [hip]; rfl⟩, job', hget',
    congrArg JobCore.status hcore'⟩

theorem Attended.not_crashed (h : Attended t.shared l t'.shared) (hb : Base t.view) {w : Exec}
    (hw : t.view.worker = .exec w) (hf : w.type.followedUp = true) (hl : l = .crash) {x : Core}
    (hx : t.view.vms w.v = some x) (hd : x.deletedAt = none) (hr : x.status = .running) {a : String}
    (ha : x.ip = some a) : False := by
  obtain ⟨vm, hvm, rfl⟩ := Option.map_eq_some_iff.mp hx
  have hnone := h.crashed hl w.j vm (booting_of_work hb hw hf hvm hd hr)
  have hsome : vm.ipAddress = some a := ha
  cases hnone.symm.trans hsome

theorem View.Told.step (ht : t.view.Told) (hl : t.view.Latest) (hb : Base t.view) (ho : t.view.Owned)
    (hk : t.view.Backed) (hm : Move t.view l t'.view) (hok : Attended t.shared l t'.shared) :
    t'.view.Told := by
  intro v x' n a hrests hn ha
  cases hm.rest_back hb hk hrests with
  | @same x hx hvmid hip =>
    have hkept : sinceBoot t.view.hist n ⊆ sinceBoot t'.view.hist n :=
      hm.sinceBoot_kept fun w req i g hsent hget htarget hg =>
        hsent.not_rests ho hb hget htarget hg (hvmid.symm.trans hn) hx
    exact hkept (ht v x n a hx (hvmid.symm.trans hn) (hip.symm.trans ha))
  | @ended w hw hwv hf hs hx hjob _ _ hist =>
    subst hwv
    obtain ⟨ip, hrep⟩ := hok.heard w.j n
      (booted_of_ended hb hw hf hx hrests.live hrests.running hn ha hjob)
    -- the address the job was told last is the one it has left in the record
    obtain ⟨_, b, hnews, hlast⟩ := hl w hw n ip hrep
    obtain ⟨_, _, row, hrow, hag⟩ := hb.exec hw
    obtain rfl := Option.some.inj (hx.symm.trans hrow)
    have hb' : w.x.ip = some b := by simpa [Exec.news, hs] using hnews
    obtain rfl := Option.some.inj (ha.symm.trans (hag.ip.trans hb'))
    rw [hist]
    exact lately_subset hlast
  | crashed hw hwv hf hcrash hx =>
    subst hwv
    exact (hok.not_crashed hb hw hf hcrash hx hrests.live hrests.running ha).elim

theorem View.Told.init (hi : AInitial t) : t.view.Told := by
  intro v x n a hx
  have hrow := hx.row
  simp [Abs.view, hi.vms] at hrow

theorem View.Latest.init (hi : AInitial t) : t.view.Latest := fun _ hw => absurd hw hi.no_exec

end Run

def Ev.reports (n : Int) : Ev → Bool
  | .report k _ => k = n
  | _ => false

theorem Ev.eq_report {ev : Ev} {n : Int} (h : ev.reports n = true) : ∃ ip, ev = .report n ip := by
  cases ev with
  | report k ip =>
    obtain rfl : k = n := of_decide_eq_true h
    exact ⟨ip, rfl⟩
  | _ => cases h

/-- What a job that boots the guest of a live running record satisfies. -/
def bootingCheck (s : Shared) (p : JobId → VM → Bool) : Bool :=
  (List.range s.db.jobs.next).all fun j => (s.db.jobs.get j).all fun job =>
    !(job.status = .running && job.type.followedUp) || job.vmId.all fun v =>
      (s.db.vms.get v).all fun vm => vm.deletedAt.isSome || vm.status ≠ .running || p j vm

theorem bootingCheck_sound {s : Shared} {p : JobId → VM → Bool} (h : bootingCheck s p = true)
    {j : JobId} {vm : VM} (hb : Booting s j vm) : p j vm = true := by
  obtain ⟨⟨job, v, hjob, hst, hf, hv, hvm⟩, hd, hr⟩ := hb
  have hj := List.all_eq_true.mp h j (List.mem_range.mpr (Table.get_lt hjob))
  simpa [hjob, hst, hf, hv, hvm, hd, hr] using hj

/-- What holds of the guest where such a job ends well and leaves an address. -/
def bootedCheck (s s' : Shared) (p : JobId → Int → Bool) : Bool :=
  bootingCheck s fun j vm => vm.ipAddress.isNone ||
    (s'.db.jobs.get j).all (fun job => job.status ≠ .success) || vm.proxmoxVmid.all (p j)

theorem bootedCheck_sound {s s' : Shared} {p : JobId → Int → Bool} (h : bootedCheck s s' p = true)
    {j : JobId} {n : Int} (hb : Booted s s' j n) : p j n = true := by
  obtain ⟨⟨vm, hbooting, hn, hip⟩, job', hjob', hst⟩ := hb
  obtain ⟨a, ha⟩ := Option.isSome_iff_exists.mp hip
  simpa [ha, hjob', hst, hn] using bootingCheck_sound h hbooting

def Cond.attendedCheck (s : Shared) (l : Label) (s' : Shared) : Bool :=
  Cond.exclusiveCheck s l s' && bootedCheck s s' (fun j n => (lately s.hist n j).any (Ev.reports n)) &&
  match l with
  | .crash => bootingCheck s fun _ vm => vm.ipAddress.isNone
  | _ => true

theorem Cond.attendedCheck_sound {s s' : Sys} {l : Label}
    (h : Cond.attendedCheck s.shared l s'.shared = true) : Attended s.shared l s'.shared := by
  unfold attendedCheck at h
  rw [Bool.and_eq_true, Bool.and_eq_true] at h
  obtain ⟨⟨hexcl, hheard⟩, hcrashed⟩ := h
  refine ⟨Cond.exclusiveCheck_sound hexcl, fun j n hb => ?_, ?_⟩
  · obtain ⟨ev, hev, hrep⟩ := List.any_eq_true.mp (bootedCheck_sound hheard hb)
    obtain ⟨ip, rfl⟩ := Ev.eq_report hrep
    exact ⟨ip, hev⟩
  · rintro rfl j vm hb
    simpa using bootingCheck_sound hcrashed hb

end Clusteration
