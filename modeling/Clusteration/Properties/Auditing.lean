import Clusteration.Panel.Audit

open Async Task

namespace Clusteration

/-- Without its audit rows a handler with them is the handler of the panel. -/
def AuditedEff.erased : AuditedEff → Eff
  | .plain e => e
  | .commit e _ => e

def answered : (e : AuditedEff) → Ans e.erased → AuditedAns e
  | .plain _, r => r
  | .commit _ _, r => some r

def eraseRows {α : Type} : AuditedRoute α → Task Eff Ans Unit Raised α :=
  Task.translate AuditedEff.erased answered id

def reraise {α : Type} : Route α → Task Eff Ans Unit Raised α :=
  Task.translate id (fun _ r => r) .exc

section Erase
variable {α β : Type}

theorem eraseRows_plainly (m : Route α) : eraseRows (plainly m) = reraise m := by
  funext s
  show ((Prog.bind ((m s).translate _ _) _).translate _ _).bind _ = ((m s).translate _ _).bind _
  rw [Prog.translate_bind, Prog.bind_assoc]
  have hback : ∀ p : Prog Eff Ans (Except Exc α × Unit),
      (p.translate AuditedEff.plain fun _ r => r).translate AuditedEff.erased answered =
        p.translate id fun _ r => r := by
    intro p
    induction p with
    | ret a => rfl
    | await e k ih =>
      simp only [Prog.translate]
      congr 1
      funext r
      exact ih r
  rw [hback]
  congr 1
  funext out
  obtain ⟨r, s'⟩ := out
  cases r <;> rfl

theorem eraseRows_bind (m : AuditedRoute α) (f : α → AuditedRoute β) :
    eraseRows (m >>= f) = eraseRows m >>= fun a => eraseRows (f a) := translate_bind m f

theorem reraise_bind (m : Route α) (f : α → Route β) :
    reraise (m >>= f) = reraise m >>= fun a => reraise (f a) := translate_bind m f

theorem eraseRows_recordAndCommit (e : Eff) (event : AuditEvent) :
    eraseRows (recordAndCommit e event) = reraise (Task.await e) := rfl

theorem eraseRows_pure (a : α) : eraseRows (pure a) = reraise (pure a) := rfl

end Erase

namespace Audited

theorem enqueueJob_erased (v : VmId) (type : JobType) (metadata : JobMeta)
    (rootPassword template : Option String) (event : AuditEvent) :
    eraseRows (enqueueJob v type metadata rootPassword template event) =
      reraise (Clusteration.enqueueJob v type metadata rootPassword template) := by
  simp only [enqueueJob, Clusteration.enqueueJob, eraseRows_bind, reraise_bind, eraseRows_plainly,
    eraseRows_pure]
  rw [← eraseRows_recordAndCommit _ event]

theorem withCreateVmLock_erased {α : Type} {body : AuditedRoute α} {body' : Route α}
    (h : eraseRows body = reraise body') :
    eraseRows (withCreateVmLock body) = reraise (Clusteration.withCreateVmLock body') := by
  have hcatch : eraseRows (tryCatch body fun exc => do
        plainly (Task.await Eff.unlock)
        throw exc) =
      reraise (tryCatch body' fun exc => do
        Task.await Eff.unlock
        throw exc) := by
    have hleft : eraseRows (tryCatch body fun exc => do
          plainly (Task.await Eff.unlock)
          throw exc) = tryCatch (eraseRows body) fun exc => eraseRows (do
            plainly (Task.await Eff.unlock)
            throw exc) := translate_catch fun _ => rfl
    have hright : reraise (tryCatch body' fun exc => do
          Task.await Eff.unlock
          throw exc) = tryCatch (reraise body') fun exc => eraseRows (do
            plainly (Task.await Eff.unlock)
            throw exc) := translate_catch fun _ => rfl
    exact hleft.trans ((congrArg (tryCatch · _) h).trans hright.symm)
  simp only [withCreateVmLock, Clusteration.withCreateVmLock, eraseRows_bind, reraise_bind,
    eraseRows_plainly, eraseRows_pure, hcatch]

/-- The handlers with audit rows are those of the panel, apart from the rows. -/
theorem handle_erased (c : Context) (r : Request) :
    eraseRows (handle c r) = reraise (Clusteration.handle c.settings r) := by
  cases r with
  | createVm payload =>
    have hinsert : ∀ template size node, eraseRows (insertVm c payload template size node) =
        reraise (Clusteration.insertVm payload template size node) := by
      intro template size node
      simp only [insertVm, Clusteration.insertVm, eraseRows_bind, reraise_bind, eraseRows_plainly]
      rfl
    simp only [handle, createVm, Clusteration.handle, Clusteration.createVm, eraseRows_bind,
      reraise_bind, eraseRows_plainly]
    cases vmSizes payload.size with
    | none => rfl
    | some size =>
      simp only [eraseRows_bind, reraise_bind, eraseRows_plainly, eraseRows_pure,
        withCreateVmLock_erased (hinsert _ _ _)]
  | startVm v =>
    simp only [handle, startVm, Clusteration.handle, Clusteration.startVm, enqueuePowerJob,
      eraseRows_bind, reraise_bind, eraseRows_plainly, enqueueJob_erased]
  | stopVm v =>
    simp only [handle, stopVm, Clusteration.handle, Clusteration.stopVm, enqueuePowerJob,
      eraseRows_bind, reraise_bind, eraseRows_plainly, enqueueJob_erased]
  | rebootVm v =>
    simp only [handle, rebootVm, Clusteration.handle, Clusteration.rebootVm, enqueuePowerJob,
      eraseRows_bind, reraise_bind, eraseRows_plainly, enqueueJob_erased]
  | reinstallVm v payload =>
    show eraseRows (reinstallVm c v payload) =
      reraise (Clusteration.reinstallVm c.settings v payload)
    unfold reinstallVm Clusteration.reinstallVm
    cases payload.template with
    | none => simp only [eraseRows_bind, reraise_bind, eraseRows_plainly, enqueueJob_erased]
    | some os => simp only [eraseRows_bind, reraise_bind, eraseRows_plainly, enqueueJob_erased]
  | deleteVm v confirmHostname =>
    simp only [handle, deleteVm, Clusteration.handle, Clusteration.deleteVm, eraseRows_bind,
      reraise_bind, eraseRows_plainly, enqueueJob_erased]
  | recheckSsh v => exact eraseRows_plainly _

end Audited

/-- The strings that the audit row takes from the request and the settings fit. -/
def Audited.Context.fits (c : Audited.Context) : Bool :=
  c.adminUsername.length ≤ 128 && c.request.clientIp.all (·.length ≤ 64) &&
    c.request.requestId.length ≤ 64

/-- A commit carries an audit row that fits, or one that does not. -/
def CarriesRow (fits : Bool) : AuditedEff → Prop
  | .plain _ => True
  | .commit _ event => event.fits = fits

def Answerable : (e : AuditedEff) → AuditedAns e → Prop
  | .plain e, r => Stored e r
  | .commit _ _, _ => True

/-- The handler only adds such rows, and returns values with `Q`. -/
abbrev AddsRows {α : Type} (fits : Bool) (Q : α → Prop) (m : AuditedRoute α) : Prop :=
  WithinOf Answerable (CarriesRow fits) Q m

theorem plainly_addsRows {α : Type} (fits : Bool) (m : Route α) :
    AddsRows fits (fun _ => True) (plainly m) := withinOf_translate (fun _ => trivial) m

theorem plainly_bind_addsRows {α β : Type} {fits : Bool} {Q : β → Prop} {m : Route α}
    {f : α → AuditedRoute β} (h : ∀ a, AddsRows fits Q (f a)) :
    AddsRows fits Q (plainly m >>= f) := by
  apply withinOf_bind (plainly_addsRows fits m)
  intro a _
  exact h a

/-- A row that is read back was stored. -/
theorem getLiveVm_addsRows (fits : Bool) (v : VmId) :
    AddsRows fits (fun vm => vm.fits = true) (plainly (getLiveVm v)) := by
  have hsplit : plainly (getLiveVm v) = _ := translate_bind _ _
  rw [hsplit]
  have hread : AddsRows fits (fun row => ∀ vm, row = some vm → vm.fits = true)
      (Task.await (AuditedEff.plain (.getVM v))) := by
    apply withinOf_await (e := AuditedEff.plain (.getVM v)) trivial
    intro row hrow vm hvm
    subst hvm
    exact hrow
  apply withinOf_bind hread
  intro row hrow
  cases row with
  | none => exact withinOf_raise _
  | some vm =>
    by_cases hd : vm.deletedAt = none
    · simp only [hd, if_true]
      exact withinOf_pure (hrow vm rfl)
    · simp only [hd, if_false]
      exact withinOf_raise _

theorem recordAndCommit_addsRows (e : Eff) (event : AuditEvent) :
    AddsRows event.fits (fun _ => True) (recordAndCommit e event) := by
  have hcommit : AddsRows event.fits (fun _ => True) (Task.await (AuditedEff.commit e event)) :=
    withinOf_await rfl fun _ _ => trivial
  apply withinOf_bind hcommit
  intro answer _
  cases answer with
  | none => exact withinOf_raise _
  | some r => exact withinOf_pure trivial

namespace Audited
variable {c : Context}

theorem auditVm_fits {action : String} (ha : action.length ≤ 64) (v : Option VmId)
    {hostname : String} (hh : hostname.length ≤ 128) (detail : Dict) :
    (auditVm c action v hostname detail).fits = c.fits := by
  have hlabel : hostname.length ≤ 255 := by omega
  have htype : "vm".length ≤ 32 := by decide
  simp [AuditEvent.fits, auditVm, Context.fits, ha, hlabel, htype]

theorem hostname_length {vm : VM} (h : vm.fits = true) : vm.hostname.length ≤ 128 := by
  simp only [VM.fits, Bool.and_eq_true, decide_eq_true_eq] at h
  exact h.1.1.1

theorem enqueueJob_addsRows (v : VmId) (type : JobType) (metadata : JobMeta)
    (rootPassword template : Option String) (event : AuditEvent) :
    AddsRows event.fits (fun _ => True)
      (enqueueJob v type metadata rootPassword template event) := by
  apply withinOf_bind (recordAndCommit_addsRows _ _)
  intro j _
  apply plainly_bind_addsRows
  intro _
  exact withinOf_pure trivial

theorem withCreateVmLock_addsRows {α : Type} {fits : Bool} {body : AuditedRoute α}
    (h : AddsRows fits (fun _ => True) body) :
    AddsRows fits (fun _ => True) (withCreateVmLock body) := by
  apply plainly_bind_addsRows
  intro _
  apply withinOf_bind (withinOf_catch h _)
  · intro a _
    apply plainly_bind_addsRows
    intro _
    exact withinOf_pure trivial
  · intro exc
    apply plainly_bind_addsRows
    intro _
    exact withinOf_raise exc

theorem insertVm_addsRows (c : Context) (payload : VMCreate) (template : Template) (size : Int × Int)
    (node : String) :
    AddsRows c.fits (fun _ => True) (insertVm c payload template size node) := by
  have hhost : payload.hostname.length ≤ 128 := by
    have hvalid := payload.hostname_valid
    simp only [isHostname, Bool.and_eq_true, decide_eq_true_eq, String.length_toList] at hvalid
    exact hvalid.1.1.1.2
  apply plainly_bind_addsRows
  intro _
  apply plainly_bind_addsRows
  intro minDiskGb
  have hvm : "vm.create".length ≤ 64 := by decide
  rw [← auditVm_fits (c := c) hvm none hhost]
  exact recordAndCommit_addsRows (.insertVM _ _) (auditVm c "vm.create" _ _ _)

/-- A request on a VM: it reads the row, and at its end adds a job with its audit row. -/
theorem onVm_addsRows {c : Context} {v : VmId} {f : VM → AuditedRoute Response}
    (h : ∀ vm, vm.hostname.length ≤ 128 → AddsRows c.fits (fun _ => True) (f vm)) :
    AddsRows c.fits (fun _ => True) (plainly (getLiveVm v) >>= f) := by
  apply withinOf_bind (getLiveVm_addsRows _ v)
  intro vm hvm
  exact h vm (hostname_length hvm)

theorem enqueueJob_addsRows_of {c : Context} {action : String} (ha : action.length ≤ 64) {vm : VM}
    (hvm : vm.hostname.length ≤ 128) (v : VmId) (type : JobType) (metadata : JobMeta)
    (rootPassword template : Option String) (detail : Dict) :
    AddsRows c.fits (fun _ => True) (enqueueJob v type metadata rootPassword template
      (auditVm c action (some v) vm.hostname detail)) := by
  rw [← auditVm_fits (c := c) ha (some v) hvm detail]
  exact enqueueJob_addsRows _ _ _ _ _ _

theorem createVm_addsRows (c : Context) (payload : VMCreate) :
    AddsRows c.fits (fun _ => True) (createVm c payload) := by
  unfold createVm
  apply plainly_bind_addsRows
  intro _
  generalize vmSizes payload.size = size
  cases size with
  | none => exact withinOf_raise _
  | some size =>
    apply plainly_bind_addsRows
    intro _
    apply plainly_bind_addsRows
    intro template
    apply plainly_bind_addsRows
    intro _
    apply plainly_bind_addsRows
    intro preflight
    have hinsert := insertVm_addsRows c payload template size preflight.1
    apply withinOf_bind (withCreateVmLock_addsRows hinsert)
    intro vj _
    apply plainly_bind_addsRows
    intro _
    exact withinOf_pure trivial

theorem startVm_addsRows (c : Context) (v : VmId) :
    AddsRows c.fits (fun _ => True) (startVm c v) := by
  apply onVm_addsRows
  intro vm hvm
  apply plainly_bind_addsRows
  intro _
  apply plainly_bind_addsRows
  intro _
  exact enqueueJob_addsRows_of (by decide) hvm _ _ _ _ _ _

theorem stopVm_addsRows (c : Context) (v : VmId) :
    AddsRows c.fits (fun _ => True) (stopVm c v) := by
  apply onVm_addsRows
  intro vm hvm
  apply plainly_bind_addsRows
  intro _
  exact enqueueJob_addsRows_of (by decide) hvm _ _ _ _ _ _

theorem rebootVm_addsRows (c : Context) (v : VmId) :
    AddsRows c.fits (fun _ => True) (rebootVm c v) := by
  apply onVm_addsRows
  intro vm hvm
  apply plainly_bind_addsRows
  intro _
  exact enqueueJob_addsRows_of (by decide) hvm _ _ _ _ _ _

theorem reinstallVm_addsRows (c : Context) (v : VmId) (payload : ReinstallVM) :
    AddsRows c.fits (fun _ => True) (reinstallVm c v payload) := by
  apply plainly_bind_addsRows
  intro _
  apply onVm_addsRows
  intro vm hvm
  apply plainly_bind_addsRows
  intro _
  apply plainly_bind_addsRows
  intro _
  apply plainly_bind_addsRows
  intro template
  apply plainly_bind_addsRows
  intro preflight
  exact enqueueJob_addsRows_of (by decide) hvm _ _ _ _ _ _

theorem deleteVm_addsRows (c : Context) (v : VmId) (confirmHostname : String) :
    AddsRows c.fits (fun _ => True) (deleteVm c v confirmHostname) := by
  apply onVm_addsRows
  intro vm hvm
  apply plainly_bind_addsRows
  intro _
  apply plainly_bind_addsRows
  intro _
  exact enqueueJob_addsRows_of (by decide) hvm _ _ _ _ _ _

/-- Every audit row of a request fits, or none does. -/
theorem handle_addsRows (c : Context) (r : Request) :
    AddsRows c.fits (fun _ => True) (handle c r) := by
  cases r with
  | createVm payload => exact createVm_addsRows c payload
  | startVm v => exact startVm_addsRows c v
  | stopVm v => exact stopVm_addsRows c v
  | rebootVm v => exact rebootVm_addsRows c v
  | reinstallVm v payload => exact reinstallVm_addsRows c v payload
  | deleteVm v confirmHostname => exact deleteVm_addsRows c v confirmHostname
  | recheckSsh v => exact plainly_addsRows _ _

end Audited

section Runs
variable {α : Type} {s : Surroundings} {Q : α → Prop} {p : Prog AuditedEff AuditedAns α}

/-- Without audit rows the database would accept a commit of the run. -/
def Surroundings.accepts (s : Surroundings) : Prog AuditedEff AuditedAns α → Journal → Bool
  | .ret _, _ => false
  | .await (.plain e) k, journal =>
    match s.answer journal e with
    | some r => s.accepts (k r) (⟨e, some r⟩ :: journal)
    | none => false
  | .await (.commit e _) k, journal =>
    (e.fits && (s.answer journal e).isSome) || s.accepts (k none) (⟨e, none⟩ :: journal)

theorem run_extends (audits : Bool) (journal : Journal) :
    ∃ l, (s.run audits p journal).2 = l ++ journal := by
  induction p generalizing journal with
  | ret a => exact ⟨[], rfl⟩
  | await e k ih =>
    cases e with
    | plain e =>
      cases hanswer : s.answer journal e with
      | none => exact ⟨[], by simp [Surroundings.run, hanswer]⟩
      | some r =>
        obtain ⟨l, hl⟩ := ih r (⟨e, some r⟩ :: journal)
        refine ⟨l ++ [⟨e, some r⟩], ?_⟩
        simp [Surroundings.run, hanswer, hl]
    | commit e event =>
      simp only [Surroundings.run]
      obtain ⟨l, hl⟩ := ih (if e.fits && (!audits || event.fits) then s.answer journal e else none)
        (⟨e, if e.fits && (!audits || event.fits) then s.answer journal e else none⟩ :: journal)
      exact ⟨l ++ [_], by rw [hl, List.append_assoc]; rfl⟩

/-- Two runs that have come to different answers stay apart. -/
theorem run_ne {q : Prog AuditedEff AuditedAns α} {audits audits' : Bool} {journal : Journal}
    {x y : (e : Eff) × Option (Ans e)} (h : x ≠ y) :
    s.run audits p (x :: journal) ≠ s.run audits' q (y :: journal) := by
  intro heq
  obtain ⟨l, hl⟩ := run_extends (s := s) (p := p) audits (x :: journal)
  obtain ⟨l', hl'⟩ := run_extends (s := s) (p := q) audits' (y :: journal)
  rw [heq, hl', List.append_cons, List.append_cons l] at hl
  have hlast := List.append_cancel_right hl
  exact h (List.singleton_inj.mp (List.append_inj' hlast rfl).2).symm

theorem run_eq_of_fits (hp : p.WithinOf Answerable (CarriesRow true) Q) (journal : Journal) :
    s.run true p journal = s.run false p journal := by
  induction p generalizing journal with
  | ret a => rfl
  | await e k ih =>
    cases e with
    | plain e =>
      simp only [Surroundings.run]
      cases hanswer : s.answer journal e with
      | none => rfl
      | some r => exact ih r (hp.2 r (s.stored journal e r hanswer)) _
    | commit e event =>
      have hfits : event.fits = true := hp.1
      simp only [Surroundings.run, hfits, Bool.not_true, Bool.false_or, Bool.not_false,
        Bool.or_self]
      exact ih _ (hp.2 _ trivial) _

theorem run_eq_iff_of_not_fits (hp : p.WithinOf Answerable (CarriesRow false) Q)
    (journal : Journal) :
    s.run true p journal = s.run false p journal ↔ s.accepts p journal = false := by
  induction p generalizing journal with
  | ret a => exact ⟨fun _ => rfl, fun _ => rfl⟩
  | await e k ih =>
    cases e with
    | plain e =>
      simp only [Surroundings.run, Surroundings.accepts]
      cases hanswer : s.answer journal e with
      | none => simp
      | some r => exact ih r (hp.2 r (s.stored journal e r hanswer)) _
    | commit e event =>
      have hfits : event.fits = false := hp.1
      have hrest := ih none (hp.2 none trivial) (⟨e, none⟩ :: journal)
      simp only [Surroundings.run, Surroundings.accepts, hfits, Bool.not_true, Bool.or_self,
        Bool.and_false, Bool.false_eq_true, if_false, Bool.not_false, Bool.true_or, Bool.and_true]
      cases he : e.fits with
      | false => simpa using hrest
      | true =>
        cases hanswer : s.answer journal e with
        | none => simpa using hrest
        | some r =>
          simp only [if_true, Option.isSome_some, Bool.and_self, Bool.true_or]
          constructor
          · intro heq
            exact absurd heq (run_ne (by simp))
          · intro hfalse
            cases hfalse

end Runs

/-- Every request of the context comes to the same end as if it recorded nothing, having done the
same. -/
def Audited.Context.Transparent (c : Audited.Context) : Prop :=
  ∀ (r : Request) (s : Surroundings), s.serve true c r = s.serve false c r

/-- A request is the same exactly if its audit row fits, or if nothing of it would be accepted. -/
theorem serve_eq_iff (c : Audited.Context) (r : Request) (s : Surroundings) :
    s.serve true c r = s.serve false c r ↔ c.fits = true ∨
      s.accepts ((Audited.handle c r ()).bind fun out => .ret out.1) [] = false := by
  have hrows : ((Audited.handle c r ()).bind fun out => Prog.ret out.1).WithinOf Answerable
      (CarriesRow c.fits) fun _ => True :=
    Prog.withinOf_bind ((Audited.handle_addsRows c r).prog ()) fun _ _ => trivial
  cases hfits : c.fits with
  | true =>
    rw [hfits] at hrows
    exact ⟨fun _ => .inl rfl, fun _ => run_eq_of_fits hrows []⟩
  | false =>
    rw [hfits] at hrows
    rw [Bool.false_eq_true, false_or]
    exact run_eq_iff_of_not_fits hrows []

/-- A database with one stopped VM, that accepts what fits. -/
def oneStopped (v : VmId) : Surroundings where
  answer
    | _, .getVM _ => some (some
        { hostname := "web", template := "debian", proxmoxVmid := some 100, status := .stopped })
    | _, .insertJob _ => some v
    | _, .put _ => some ()
    | _, _ => none
  stored := by
    intro journal e r h
    cases e <;> cases h <;> trivial

theorem audit_transparent_iff (c : Audited.Context) : c.Transparent ↔ c.fits = true := by
  constructor
  · intro h
    have hstart := (serve_eq_iff c (.startVm 0) (oneStopped 0)).mp (h _ _)
    have haccepts : (oneStopped 0).accepts
        ((Audited.handle c (.startVm 0) ()).bind fun out => .ret out.1) [] = true := rfl
    rw [haccepts] at hstart
    simpa using hstart
  · intro hfits r s
    exact (serve_eq_iff c r s).mpr (.inl hfits)

/-- An id of 65 characters. -/
theorem not_audit_transparent : ¬ ∀ c : Audited.Context, c.Transparent := by
  intro h
  have hfits := (audit_transparent_iff ⟨{}, "admin",
    { headers := [("X-Request-Id", String.ofList (List.replicate 65 'a'))]
      uuid := "00000000-0000-4000-8000-000000000000", uuid_length := rfl }⟩).mp (h _)
  revert hfits
  decide +kernel

end Clusteration
