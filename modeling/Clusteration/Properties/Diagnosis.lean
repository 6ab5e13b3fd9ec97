import Clusteration.Framework.Steady
import Clusteration.Panel.Diagnostics
import Clusteration.Protocol.Handlers

open Async Task

namespace Clusteration

/-- A Proxmox that gives a request the same answer every time. -/
def unchanging (answers : Req → HttpOutcome) : Steady Eff Ans
  | .http _ req => some (answers req)
  | _ => none

section Client
variable {answers : Req → HttpOutcome} {α : Type}

theorem concludes_ofExcept (r : Except Exc α) :
    Concludes (unchanging answers) fun S => (ofExcept r : Client S α) := by
  cases r with
  | ok a => exact concludes_pure a
  | error x => exact concludes_raise x

theorem concludes_exceptProxmox {m : (S : Type) → Client S α} {h : (S : Type) → Exc → Client S α}
    (hm : Concludes (unchanging answers) m) (hh : ∀ x, Concludes (unchanging answers) fun S => h S x) :
    Concludes (unchanging answers) fun S => exceptProxmox (m S) (h S) := by
  apply concludes_catch hm
  intro x
  by_cases hx : x.isProxmoxError = true
  · simpa [hx] using hh x
  · simpa [hx] using concludes_raise x

namespace ProxmoxClient

theorem concludes_request (req : Req) :
    Concludes (unchanging answers) fun S => (request none req : Client S Json) := by
  apply concludes_retry
  · intro _
    apply concludes_bind (concludes_await rfl)
    intro out
    cases out.attempt with
    | data d => exact concludes_pure _
    | raised x => exact concludes_raise x
    | failed f => exact concludes_pure _
  · intro last
    cases last with
    | some f => exact concludes_raise _
    | none => exact concludes_raise _

theorem concludes_nextId : Concludes (unchanging answers) fun S => (nextId none : Client S Int) := by
  apply concludes_bind (concludes_request _)
  intro data
  exact concludes_ofExcept _

theorem concludes_findVmResource (vmid : Int) :
    Concludes (unchanging answers) fun S => (findVmResource none vmid : Client S (Option Dict)) := by
  apply concludes_bind
  · apply concludes_bind (concludes_request _)
    intro data
    exact concludes_pure _
  · intro resources
    exact concludes_ofExcept _

theorem concludes_vmConfig (node : String) (vmid : Int) :
    Concludes (unchanging answers) fun S => (vmConfig none node vmid : Client S Dict) := by
  apply concludes_bind (concludes_request _)
  intro data
  exact concludes_pure _

theorem concludes_resolveTemplateNode (preferredNode : String) (templateVmid : Int) :
    Concludes (unchanging answers) fun S =>
      (resolveTemplateNode none preferredNode templateVmid : Client S String) := by
  apply concludes_bind
  · apply concludes_exceptProxmox
    · apply concludes_bind (concludes_findVmResource _)
      intro resource
      exact concludes_pure _
    · intro exc
      exact concludes_pure _
  intro found
  obtain ⟨resource, clusterError⟩ := found
  cases resource with
  | some resource =>
    dsimp only
    split
    · split
      · exact concludes_raise _
      · exact concludes_pure _
    · exact concludes_raise _
  | none =>
    dsimp only
    split
    · apply concludes_exceptProxmox
      · apply concludes_bind (concludes_vmConfig _ _)
        intro config
        split
        · exact concludes_pure _
        · exact concludes_raise _
      · intro exc
        exact concludes_raise _
    · exact concludes_raise _

theorem concludes_vmDiskSizeGb (node : String) (vmid : Int) :
    Concludes (unchanging answers) fun S => (vmDiskSizeGb none node vmid : Client S (Option Int)) := by
  apply concludes_bind
  · apply concludes_exceptProxmox
    · apply concludes_bind (concludes_findVmResource _)
      intro resource
      exact concludes_ofExcept _
    · intro exc
      exact concludes_pure _
  intro listed
  cases listed with
  | some gb => exact concludes_pure _
  | none =>
    apply concludes_bind
    · apply concludes_exceptProxmox
      · apply concludes_bind (concludes_vmConfig _ _)
        intro config
        exact concludes_pure _
      · intro exc
        exact concludes_pure _
    intro config
    cases config with
    | none => exact concludes_pure _
    | some config => exact concludes_ofExcept _

end ProxmoxClient
end Client

/-- What the calls of the two handlers come to. -/
structure Findings (w : Steady Eff Ans) where
  nextId : Except Exc Int
  node : String → Int → Except Exc String
  diskGb : String → Int → Except Exc (Option Int)
  storage : String → String → Except Exc Json
  nextId_comesTo : ComesTo w (fun S => (ProxmoxClient.nextId none : Client S Int)) nextId
  node_comesTo : ∀ preferred vmid, ComesTo w (fun S =>
    (ProxmoxClient.resolveTemplateNode none preferred vmid : Client S String)) (node preferred vmid)
  diskGb_comesTo : ∀ name vmid, ComesTo w (fun S =>
    (ProxmoxClient.vmDiskSizeGb none name vmid : Client S (Option Int))) (diskGb name vmid)
  storage_comesTo : ∀ name pool, ComesTo w (fun S =>
    (ProxmoxClient.request none (.storageStatus name pool) : Client S Json)) (storage name pool)

theorem findings (answers : Req → HttpOutcome) : Nonempty (Findings (unchanging answers)) := by
  obtain ⟨nextId, hnextId⟩ := @ProxmoxClient.concludes_nextId answers
  choose node hnode using @ProxmoxClient.concludes_resolveTemplateNode answers
  choose diskGb hdiskGb using @ProxmoxClient.concludes_vmDiskSizeGb answers
  choose storage hstorage using fun name pool =>
    @ProxmoxClient.concludes_request answers (.storageStatus name pool)
  exact ⟨⟨nextId, node, diskGb, storage, hnextId, hnode, hdiskGb, hstorage⟩⟩

namespace Findings
variable {w : Steady Eff Ans} (f : Findings w) (settings : Settings)

/-- The calls a template takes, one after the other. -/
def look (template : Template) : Except Exc (String × Option Int) := do
  let node ← f.node (template.node settings) template.proxmoxTemplateVmid
  let diskGb ← f.diskGb node template.proxmoxTemplateVmid
  pure (node, diskGb)

/-- How `validate_create_preflight` passes an exception on. -/
def refusal : Exc → Exc
  | .proxmoxAuthError m => .appHTTPException "PROXMOX_AUTH_FAILED" m 403
  | .proxmoxError m | .proxmoxTaskError m | .proxmoxTimeoutError m =>
    .appHTTPException "PROXMOX_UNAVAILABLE" m 502
  | exc => exc

/-- What the preflight of a creation comes to. -/
def preflight (template : Template) : Except Exc (String × Option Int) :=
  (do
    let _ ← f.nextId
    let seen ← f.look settings template
    let _ ← f.storage seen.1 settings.proxmoxDefaultStorage
    pure seen).mapError refusal

/-- The calls of `validate_create_preflight`. -/
def preflightCalls {S : Type} (settings : Settings) (template : Template) :
    Client S (String × Option Int) := do
  let _ ← ProxmoxClient.nextId none
  let node ← ProxmoxClient.resolveTemplateNode none (template.node settings)
    template.proxmoxTemplateVmid
  let diskGb ← ProxmoxClient.vmDiskSizeGb none node template.proxmoxTemplateVmid
  let _ ← ProxmoxClient.request none (.storageStatus node settings.proxmoxDefaultStorage)
  pure (node, diskGb)

theorem validateCreatePreflight_eq (settings : Settings) (template : Template) :
    validateCreatePreflight settings template =
      tryCatch (preflightCalls settings template) fun exc => throw (refusal exc) := by
  unfold validateCreatePreflight preflightCalls
  congr 1
  funext exc
  cases exc <;> rfl

theorem preflight_eq (template : Template) :
    (validateCreatePreflight settings template ()).eval w =
      some (f.preflight settings template, ()) := by
  have hcalls : ComesTo w (fun S => (preflightCalls settings template : Client S _))
      (do
        let _ ← f.nextId
        let seen ← f.look settings template
        let _ ← f.storage seen.1 settings.proxmoxDefaultStorage
        pure seen) := by
    apply comesTo_bind f.nextId_comesTo
    intro _
    unfold look
    rw [bind_assoc]
    apply comesTo_bind (f.node_comesTo _ _)
    intro node
    rw [bind_assoc]
    apply comesTo_bind (f.diskGb_comesTo _ _)
    intro diskGb
    apply comesTo_bind (f.storage_comesTo _ _)
    intro _
    exact comesTo_pure _
  have hcatch := comesTo_catch (h := fun _ exc => throw (refusal exc)) hcalls fun exc =>
    comesTo_raise (refusal exc)
  have hmap : ∀ r : Except Exc (String × Option Int),
      (tryCatch r fun exc => .error (refusal exc)) = r.mapError refusal := by
    intro r
    cases r <;> rfl
  rw [hmap] at hcatch
  rw [validateCreatePreflight_eq]
  exact hcatch.run ()

/-- The check says what the storage of the node answers. -/
def Reflects (node : String) (check : Check) : Prop :=
  match f.storage node settings.proxmoxDefaultStorage with
  | .ok _ => check.ok = true
  | .error exc => exc.isProxmoxError = true ∧ check.ok = false ∧ check.message = exc.str

/-- What asking for the storage of the node may come to. -/
def Asked (node : String) : Except Exc Check → Prop
  | .ok check => f.Reflects settings node check
  | .error exc => f.storage node settings.proxmoxDefaultStorage = .error exc ∧
    exc.isProxmoxError = false

/-- The storage checks after these templates. -/
structure Checked (templates : List Template) (checks : StorageChecks) : Prop where
  sound : ∀ kc ∈ checks, ∃ template ∈ templates, ∃ seen, f.look settings template = .ok seen ∧
    kc.1 = storageKey settings seen.1 ∧ f.Reflects settings seen.1 kc.2
  complete : ∀ template ∈ templates, ∃ seen check, f.look settings template = .ok seen ∧
    (storageKey settings seen.1, check) ∈ checks

/-- A template that ends the loop with this exception. -/
def Ends (template : Template) (exc : Exc) : Prop :=
  f.look settings template = .error exc ∨ ∃ seen, f.look settings template = .ok seen ∧
    f.storage seen.1 settings.proxmoxDefaultStorage = .error exc ∧ exc.isProxmoxError = false

theorem storageKey_inj {node node' : String} (h : storageKey settings node = storageKey settings node') :
    node = node' := by
  unfold storageKey at h
  have hlist := congrArg String.toList h
  simp only [String.toList_append, List.append_assoc, List.append_left_inj] at hlist
  exact String.toList_injective hlist

section Loop
variable {f settings} {templates : List Template} {template : Template} {seen : String × Option Int}
  {checks checks' : StorageChecks} {check : Check}

/-- One more template, whose storage check is among these. -/
theorem Checked.more (hd : f.Checked settings templates checks) (hlook : f.look settings template = .ok seen)
    (hold : ∀ kc ∈ checks, kc ∈ checks')
    (hnew : ∀ kc ∈ checks', kc ∈ checks ∨
      kc.1 = storageKey settings seen.1 ∧ f.Reflects settings seen.1 kc.2)
    (hmem : (storageKey settings seen.1, check) ∈ checks') :
    f.Checked settings (templates ++ [template]) checks' := by
  constructor
  · intro kc hkc
    rcases hnew kc hkc with hkc | ⟨hkey, hreflects⟩
    · obtain ⟨t, ht, hrest⟩ := hd.sound kc hkc
      exact ⟨t, List.mem_append_left _ ht, hrest⟩
    · exact ⟨template, by simp, seen, hlook, hkey, hreflects⟩
  · intro t ht
    rcases List.mem_append.mp ht with ht | ht
    · obtain ⟨seen', check', hlook', hmem'⟩ := hd.complete t ht
      exact ⟨seen', check', hlook', hold _ hmem'⟩
    · obtain rfl := List.mem_singleton.mp ht
      exact ⟨seen, check, hlook, hmem⟩

theorem Checked.add (hd : f.Checked settings templates checks) (hlook : f.look settings template = .ok seen)
    (hreflects : f.Reflects settings seen.1 check) :
    f.Checked settings (templates ++ [template])
      (checks ++ [(storageKey settings seen.1, check)]) := by
  apply hd.more hlook
  · intro kc hkc
    exact List.mem_append_left _ hkc
  · intro kc hkc
    rcases List.mem_append.mp hkc with hkc | hkc
    · exact .inl hkc
    · obtain rfl := List.mem_singleton.mp hkc
      exact .inr ⟨rfl, hreflects⟩
  · exact List.mem_append_right _ (List.mem_singleton_self _)

/-- How a step of the loop goes on, or ends it. -/
def Goes (f : Findings w) (settings : Settings) (templates : List Template) (template : Template)
    (cs : List Check) : Option (Except Exc StorageChecks × List Check) → Prop
  | some (.ok checks, cs') => cs' = cs ∧ f.Checked settings (templates ++ [template]) checks
  | some (.error exc, cs') => cs' = cs ∧ f.Ends settings template exc
  | none => False

theorem storageCheck_comesTo (settings : Settings) (node : String) :
    ∃ r, ComesTo w (fun S => (storageCheck settings node : Client S Check)) r ∧
      f.Asked settings node r := by
  let name := "storage:" ++ storageKey settings node
  let good : Check := { name, ok := true, message := "storage acessível pelo token" }
  let bad (exc : Exc) : Check := { name, ok := false, message := exc.str }
  have hask := comesTo_bind (f := fun S _ => (pure good : Client S Check)) (k := fun _ => .ok good)
    (f.storage_comesTo node settings.proxmoxDefaultStorage) fun _ => comesTo_pure good
  have hcheck := comesTo_catch (k := fun exc => if exc.isProxmoxError then .ok (bad exc) else .error exc)
    (h := fun S exc => (if exc.isProxmoxError then pure (bad exc) else throw exc : Client S Check)) hask
    fun exc => by
      by_cases hp : exc.isProxmoxError = true
      · simpa [hp] using comesTo_pure (bad exc)
      · simpa [hp] using comesTo_raise exc
  refine ⟨_, hcheck, ?_⟩
  cases hanswer : f.storage node settings.proxmoxDefaultStorage with
  | ok data =>
    show f.Reflects settings node good
    simp [Reflects, hanswer, good]
  | error exc =>
    show f.Asked settings node (if exc.isProxmoxError then .ok (bad exc) else .error exc)
    by_cases hp : exc.isProxmoxError = true
    · rw [if_pos hp]
      simp [Asked, Reflects, hanswer, hp, bad]
    · rw [if_neg hp]
      exact ⟨hanswer, by simpa using hp⟩

theorem checkStorage_goes (hd : f.Checked settings templates checks)
    (hlook : f.look settings template = .ok seen) (cs : List Check) :
    f.Goes settings templates template cs ((checkStorage settings seen.1 checks cs).eval w) := by
  unfold checkStorage
  cases hfound : checks.lookup (storageKey settings seen.1) with
  | some old =>
    have hmem : (storageKey settings seen.1, old) ∈ checks := by
      obtain ⟨l, l', heq, -⟩ := List.lookup_eq_some_iff.mp hfound
      simp [heq]
    simp only [Option.isSome_some, if_true]
    exact ⟨rfl, hd.more hlook (fun _ h => h) (fun _ h => .inl h) hmem⟩
  | none =>
    obtain ⟨r, hr, hcheck⟩ := storageCheck_comesTo (f := f) settings seen.1
    simp only [Option.isSome_none, Bool.false_eq_true, if_false]
    cases r with
    | ok check =>
      rw [eval_bind_ok (hr.run cs)]
      exact ⟨rfl, hd.add hlook hcheck⟩
    | error exc =>
      rw [eval_bind_raise (hr.run cs)]
      exact ⟨rfl, .inr ⟨seen, hlook, hcheck⟩⟩

/-- How the loop may end over these templates. -/
def Finished (f : Findings w) (settings : Settings) (templates : List Template) (cs : List Check) :
    Option (Except Exc (StorageChecks × List TemplateResult) × List Check) → Prop
  | some (.ok (checks, _), cs') => cs' = cs ∧ f.Checked settings templates checks
  | some (.error exc, cs') => cs' = cs ∧ ∃ template ∈ templates, f.Ends settings template exc
  | none => False

theorem checkTemplates_finished (rest : List Template) (hd : f.Checked settings templates checks)
    (results : List TemplateResult) (cs : List Check) :
    f.Finished settings (templates ++ rest) cs
      ((checkTemplates settings rest checks results cs).eval w) := by
  induction rest generalizing templates checks results with
  | nil =>
    rw [List.append_nil]
    exact ⟨rfl, hd⟩
  | cons template rest ih =>
    have hends : ∀ {exc}, f.Ends settings template exc →
        f.Finished settings (templates ++ template :: rest) cs (some (.error exc, cs)) :=
      fun h => ⟨rfl, template, by simp, h⟩
    have hnode := f.node_comesTo (template.node settings) template.proxmoxTemplateVmid
    unfold checkTemplates
    cases hn : f.node (template.node settings) template.proxmoxTemplateVmid with
    | error exc =>
      rw [hn] at hnode
      rw [eval_bind_raise (hnode.run cs)]
      exact hends (.inl (by simp [look, hn]; rfl))
    | ok node =>
      rw [hn] at hnode
      rw [eval_bind_ok (hnode.run cs)]
      have hgb := f.diskGb_comesTo node template.proxmoxTemplateVmid
      cases hg : f.diskGb node template.proxmoxTemplateVmid with
      | error exc =>
        rw [hg] at hgb
        rw [eval_bind_raise (hgb.run cs)]
        have hlook : f.look settings template = .error exc := by
          show (f.node _ _ >>= fun node => f.diskGb node _ >>= fun diskGb => pure (node, diskGb)) = _
          rw [hn]
          show (f.diskGb node _ >>= fun diskGb => pure (node, diskGb)) = _
          rw [hg]
          rfl
        exact hends (.inl hlook)
      | ok diskGb =>
        rw [hg] at hgb
        rw [eval_bind_ok (hgb.run cs)]
        have hlook : f.look settings template = .ok (node, diskGb) := by
          show (f.node _ _ >>= fun node => f.diskGb node _ >>= fun diskGb => pure (node, diskGb)) = _
          rw [hn]
          show (f.diskGb node _ >>= fun diskGb => pure (node, diskGb)) = _
          rw [hg]
          rfl
        have hgoes := checkStorage_goes hd hlook cs
        cases hstep : (checkStorage settings node checks cs).eval w with
        | none =>
          rw [hstep] at hgoes
          exact hgoes.elim
        | some out =>
          obtain ⟨r, cs'⟩ := out
          rw [hstep] at hgoes
          cases r with
          | error exc =>
            obtain ⟨rfl, hend⟩ := hgoes
            rw [eval_bind_raise hstep]
            exact hends hend
          | ok checks' =>
            obtain ⟨rfl, hd'⟩ := hgoes
            rw [eval_bind_ok hstep, List.append_cons]
            exact ih hd' _

end Loop

section Preflight
variable {f settings} {template : Template} {exc : Exc}

theorem preflight_of_nextId (h : f.nextId = .error exc) :
    f.preflight settings template = .error (refusal exc) := by
  simp only [preflight, h]
  rfl

theorem preflight_of_ends {n : Int} (hn : f.nextId = .ok n) (h : f.Ends settings template exc) :
    f.preflight settings template = .error (refusal exc) := by
  rcases h with hlook | ⟨seen, hlook, hstorage, -⟩
  · simp only [preflight, hn, hlook]
    rfl
  · simp only [preflight, hn, hlook]
    show Except.mapError refusal (f.storage _ _ >>= fun _ => pure seen) = _
    rw [hstorage]
    rfl

theorem preflight_of_look {n : Int} {seen : String × Option Int} (hn : f.nextId = .ok n)
    (hlook : f.look settings template = .ok seen) :
    f.preflight settings template =
      match f.storage seen.1 settings.proxmoxDefaultStorage with
      | .ok _ => .ok seen
      | .error exc => .error (refusal exc) := by
  simp only [preflight, hn, hlook]
  show Except.mapError refusal (f.storage _ _ >>= fun _ => pure seen) = _
  cases f.storage seen.1 settings.proxmoxDefaultStorage <;> rfl

theorem refusal_of_proxmox (h : exc.isProxmoxError = true) :
    ∃ code status, refusal exc = .appHTTPException code exc.str status := by
  cases exc <;> first | exact ⟨_, _, rfl⟩ | cases h

theorem refusal_of_other (h : exc.isProxmoxError = false) : refusal exc = exc := by
  cases exc <;> first | rfl | cases h

end Preflight

section Try
variable {f settings} {templates : List Template} {exc : Exc} {cs cs' : List Check}

/-- The `try` statement raises `exc`: of a failed call, or of a template. -/
def Breaks (f : Findings w) (settings : Settings) (templates : List Template) (exc : Exc) : Prop :=
  f.nextId = .error exc ∨ ∃ n, f.nextId = .ok n ∧
    ∃ template ∈ templates, f.Ends settings template exc

/-- The templates were looked at, and these checks say how their storages answered. -/
def Looked (f : Findings w) (settings : Settings) (templates : List Template) (cs cs' : List Check) :
    Prop :=
  ∃ (n : Int) (good good' : Check) (checks : StorageChecks), f.nextId = .ok n ∧ good.ok = true ∧
    good'.ok = true ∧ f.Checked settings templates checks ∧
    cs' = cs ++ [good] ++ checks.map Prod.snd ++ [good']

/-- How the body of the `try` statement may end. -/
def Body (f : Findings w) (settings : Settings) (templates : List Template) (cs : List Check) :
    Option (Except Exc Unit × List Check) → Prop
  | some (.ok (), cs') => f.Looked settings templates cs cs'
  | some (.error exc, cs') => f.Breaks settings templates exc ∧
    ∃ good : List Check, (∀ check ∈ good, check.ok = true) ∧ cs' = cs ++ good
  | none => False

/-- How the `try` statement may end. -/
def Tried (f : Findings w) (settings : Settings) (templates : List Template) (cs : List Check) :
    Option (Except Exc Unit × List Check) → Prop
  | some (.ok (), cs') => f.Looked settings templates cs cs' ∨
    ∃ exc good bad, f.Breaks settings templates exc ∧ exc.isProxmoxError = true ∧
      (∀ check ∈ good, check.ok = true) ∧ bad.ok = false ∧ bad.message = exc.str ∧
      cs' = cs ++ good ++ [bad]
  | some (.error exc, _) => f.Breaks settings templates exc ∧ exc.isProxmoxError = false
  | none => False

theorem addChecks_eval (checks cs : List Check) :
    (addChecks checks cs).eval w = some (.ok (), cs ++ checks) := rfl

theorem collectChecks_body (f : Findings w) (settings : Settings) (templates : List Template)
    (cs : List Check) :
    f.Body settings templates cs ((collectChecks settings templates cs).eval w) := by
  have hid := f.nextId_comesTo
  unfold collectChecks
  cases hn : f.nextId with
  | error exc =>
    rw [hn] at hid
    rw [eval_bind_raise (hid.run cs)]
    exact ⟨.inl hn, [], by simp, by simp⟩
  | ok n =>
    rw [hn] at hid
    rw [eval_bind_ok (hid.run cs), eval_bind_ok (addChecks_eval _ cs)]
    have hstart : f.Checked settings [] [] := ⟨by simp, by simp⟩
    have hloop := checkTemplates_finished templates hstart []
      (cs ++ [{ name := "nextid", ok := true, message := s!"Proxmox API OK; próximo VMID {n}" }])
    cases hrun : (checkTemplates settings templates [] [] (cs ++ [_])).eval w with
    | none =>
      rw [hrun] at hloop
      exact hloop.elim
    | some out =>
      obtain ⟨r, cs'⟩ := out
      rw [hrun] at hloop
      cases r with
      | error exc =>
        obtain ⟨rfl, hend⟩ := hloop
        rw [eval_bind_raise hrun]
        exact ⟨.inr ⟨n, hn, hend⟩, [_], by simp, rfl⟩
      | ok found =>
        obtain ⟨rfl, hchecked⟩ := hloop
        rw [eval_bind_ok hrun]
        exact ⟨n, _, _, found.1, hn, rfl, rfl, hchecked, rfl⟩

theorem checkProxmox_tried (f : Findings w) (settings : Settings) (templates : List Template)
    (cs : List Check) :
    f.Tried settings templates cs ((checkProxmox settings templates cs).eval w) := by
  have hbody := collectChecks_body f settings templates cs
  unfold checkProxmox
  cases hrun : (collectChecks settings templates cs).eval w with
  | none =>
    rw [hrun] at hbody
    exact hbody.elim
  | some out =>
    obtain ⟨r, cs'⟩ := out
    rw [hrun] at hbody
    cases r with
    | ok u =>
      rw [eval_catch_ok hrun]
      exact .inl hbody
    | error exc =>
      obtain ⟨hbreaks, good, hgood, rfl⟩ := hbody
      rw [eval_catch_raise hrun]
      cases exc with
      | proxmoxError m | proxmoxAuthError m | proxmoxTaskError m | proxmoxTimeoutError m =>
        exact .inr ⟨_, good, _, hbreaks, rfl, hgood, rfl, rfl, rfl⟩
      | _ => exact ⟨hbreaks, rfl⟩

end Try

section Verdict
variable {f settings} {templates : List Template} {exc : Exc} {cs cs' : List Check}

/-- The preflight of some template is refused with this. -/
def Refuses (f : Findings w) (settings : Settings) (templates : List Template) (exc : Exc) : Prop :=
  ∃ template ∈ templates, f.preflight settings template = .error (refusal exc)

theorem Breaks.refuses (h : f.Breaks settings templates exc) (hne : templates ≠ []) :
    f.Refuses settings templates exc := by
  rcases h with hn | ⟨n, hn, template, hmem, hend⟩
  · obtain ⟨template, hmem⟩ := List.exists_mem_of_ne_nil templates hne
    exact ⟨template, hmem, preflight_of_nextId hn⟩
  · exact ⟨template, hmem, preflight_of_ends hn hend⟩

/-- All is well exactly when every template passes, and a bad check says what one is refused with. -/
structure Tells (f : Findings w) (settings : Settings) (templates : List Template) (cs : List Check) :
    Prop where
  well : (∀ check ∈ cs, check.ok = true) ↔
    ∀ template ∈ templates, ∃ seen, f.preflight settings template = .ok seen
  ill : ∀ check ∈ cs, check.ok = false →
    ∃ exc, exc.isProxmoxError = true ∧ exc.str = check.message ∧ f.Refuses settings templates exc

theorem Looked.tells (h : f.Looked settings templates cs cs') (hcs : ∀ check ∈ cs, check.ok = true) :
    f.Tells settings templates cs' := by
  obtain ⟨n, good, good', checks, hn, hgood, hgood', hchecked, rfl⟩ := h
  have hstorage : ∀ check, check.ok = false → check ∈ cs ++ [good] ++ checks.map Prod.snd ++ [good'] →
      ∃ kc ∈ checks, kc.2 = check := by
    intro check hbad hmem
    simp only [List.mem_append, List.mem_singleton, List.mem_map] at hmem
    rcases hmem with ((hmem | rfl) | ⟨kc, hkc, rfl⟩) | rfl
    · simp [hcs check hmem] at hbad
    · simp [hgood] at hbad
    · exact ⟨kc, hkc, rfl⟩
    · simp [hgood'] at hbad
  have htext : ∀ kc ∈ checks, kc.2.ok = false → ∃ exc, exc.isProxmoxError = true ∧
      exc.str = kc.2.message ∧ f.Refuses settings templates exc := by
    intro kc hkc hbad
    obtain ⟨template, hmem, seen, hlook, -, hreflects⟩ := hchecked.sound kc hkc
    have hpre := preflight_of_look hn hlook
    unfold Reflects at hreflects
    cases hs : f.storage seen.1 settings.proxmoxDefaultStorage with
    | ok data =>
      rw [hs] at hreflects
      simp [hbad] at hreflects
    | error exc =>
      rw [hs] at hreflects hpre
      exact ⟨exc, hreflects.1, hreflects.2.2.symm, template, hmem, hpre⟩
  constructor
  · constructor
    · intro hall template hmem
      obtain ⟨seen, check, hlook, hkc⟩ := hchecked.complete template hmem
      obtain ⟨_, _, seen', hlook', hkey, hreflects⟩ := hchecked.sound _ hkc
      have hpre := preflight_of_look hn hlook
      have hnode := storageKey_inj settings hkey
      have hok : check.ok = true := hall check (by
        simp only [List.mem_append, List.mem_map]
        exact .inl (.inr ⟨_, hkc, rfl⟩))
      dsimp only at hnode hreflects
      rw [← hnode] at hreflects
      unfold Reflects at hreflects
      cases hs : f.storage seen.1 settings.proxmoxDefaultStorage with
      | ok data =>
        rw [hs] at hpre
        exact ⟨seen, hpre⟩
      | error exc =>
        rw [hs] at hreflects
        simp [hok] at hreflects
    · intro hall check hmem
      by_contra hbad
      have hbad : check.ok = false := by simpa using hbad
      obtain ⟨kc, hkc, rfl⟩ := hstorage check hbad hmem
      obtain ⟨exc, -, -, template, hmem', hpre⟩ := htext kc hkc hbad
      obtain ⟨seen, hseen⟩ := hall template hmem'
      rw [hseen] at hpre
      cases hpre
  · intro check hmem hbad
    obtain ⟨kc, hkc, rfl⟩ := hstorage check hbad hmem
    exact htext kc hkc hbad

theorem Breaks.tells {good : List Check} {bad : Check} (h : f.Breaks settings templates exc)
    (hne : templates ≠ []) (hexc : exc.isProxmoxError = true)
    (hgood : ∀ check ∈ good, check.ok = true) (hbad : bad.ok = false) (htext : bad.message = exc.str) :
    f.Tells settings templates (good ++ [bad]) := by
  obtain ⟨template, hmem, hpre⟩ := h.refuses hne
  constructor
  · constructor
    · intro hall
      have := hall bad (by simp)
      simp [hbad] at this
    · intro hall
      obtain ⟨seen, hseen⟩ := hall template hmem
      rw [hseen] at hpre
      cases hpre
  · intro check hcheck hfalse
    rcases List.mem_append.mp hcheck with hcheck | hcheck
    · simp [hgood check hcheck] at hfalse
    · obtain rfl := List.mem_singleton.mp hcheck
      exact ⟨exc, hexc, htext.symm, template, hmem, hpre⟩

end Verdict

end Findings

theorem diagnosed_ne_nil {rows templates : List Template} {templateOs : Option String}
    (h : diagnosed rows templateOs = .ok templates) : templates ≠ [] := by
  rintro rfl
  unfold diagnosed at h
  dsimp only at h
  split at h
  · cases h
  · rename_i hne
    exact hne h

/-- Against this Proxmox, the preflight of a creation from the template ends so. -/
def Preflight (answers : Req → HttpOutcome) (settings : Settings) (template : Template)
    (r : Except Exc (String × Option Int)) : Prop :=
  (validateCreatePreflight settings template ()).eval (unchanging answers) = some (r, ())

section Verdict
variable {answers : Req → HttpOutcome} {settings : Settings} {templates : List Template}

theorem preflight_iff (f : Findings (unchanging answers)) (template : Template)
    (r : Except Exc (String × Option Int)) :
    Preflight answers settings template r ↔ f.preflight settings template = r := by
  unfold Preflight
  rw [f.preflight_eq settings template]
  simp

theorem Findings.Refuses.preflight {f : Findings (unchanging answers)} {exc : Exc}
    (h : f.Refuses settings templates exc) (hexc : exc.isProxmoxError = true) :
    ∃ template ∈ templates, ∃ code status,
      Preflight answers settings template (.error (.appHTTPException code exc.str status)) := by
  obtain ⟨template, hmem, hpre⟩ := h
  obtain ⟨code, status, hrefusal⟩ := Findings.refusal_of_proxmox hexc
  rw [hrefusal] at hpre
  exact ⟨template, hmem, code, status, (preflight_iff f template _).mpr hpre⟩

/-- A diagnosis says whether creations pass their preflight, and what they are refused with. -/
theorem diagnostics_tell_preflight (answers : Req → HttpOutcome) (settings : Settings)
    (rows : List Template) (templateOs : Option String) :
    (∃ d checks,
      (proxmoxDiagnostics settings rows templateOs []).eval (unchanging answers) =
        some (.ok d, checks) ∧
      (d.ok = true ↔ missingRuntimeSettings settings = [] ∧
        ∃ templates, diagnosed rows templateOs = .ok templates ∧
          ∀ template ∈ templates, ∃ seen, Preflight answers settings template (.ok seen)) ∧
      ∀ templates, missingRuntimeSettings settings = [] → diagnosed rows templateOs = .ok templates →
        ∀ check ∈ d.checks, check.ok = false → ∃ template ∈ templates, ∃ code status,
          Preflight answers settings template
            (.error (.appHTTPException code check.message status))) ∨
    ∃ exc checks,
      (proxmoxDiagnostics settings rows templateOs []).eval (unchanging answers) =
        some (.error exc, checks) ∧
      ∃ templates, diagnosed rows templateOs = .ok templates ∧
        ∃ template ∈ templates, Preflight answers settings template (.error exc) := by
  obtain ⟨f⟩ := findings answers
  unfold proxmoxDiagnostics
  by_cases hmissing : missingRuntimeSettings settings = []
  · rw [hmissing]
    dsimp only
    simp only [List.isEmpty_nil, Bool.not_true, Bool.false_eq_true, if_false]
    rw [eval_bind_ok (Findings.addChecks_eval _ _)]
    cases hd : diagnosed rows templateOs with
    | error check =>
      left
      refine ⟨_, _, rfl, ?_, ?_⟩
      · simp [failed]
      · intro templates _ h
        cases h
    | ok templates =>
      have hne := diagnosed_ne_nil hd
      have htried := Findings.checkProxmox_tried f settings templates
        [{ name := "runtime", ok := true, message := "variáveis obrigatórias presentes" }]
      dsimp only [List.nil_append]
      cases hrun : (checkProxmox settings templates [_]).eval (unchanging answers) with
      | none =>
        rw [hrun] at htried
        exact htried.elim
      | some out =>
        obtain ⟨r, cs⟩ := out
        rw [hrun] at htried
        cases r with
        | error exc =>
          right
          obtain ⟨hbreaks, hexc⟩ := htried
          obtain ⟨template, hmem, hpre⟩ := hbreaks.refuses hne
          rw [Findings.refusal_of_other hexc] at hpre
          rw [eval_bind_raise hrun]
          exact ⟨exc, cs, rfl, templates, rfl, template, hmem, (preflight_iff f template _).mpr hpre⟩
        | ok u =>
          left
          rw [eval_bind_ok hrun]
          have htells : f.Tells settings templates cs := by
            rcases htried with hlooked | ⟨exc, good, bad, hbreaks, hexc, hgood, hbad, htext, rfl⟩
            · exact hlooked.tells (by simp)
            · apply hbreaks.tells hne hexc ?_ hbad htext
              intro check hcheck
              rcases List.mem_append.mp hcheck with hcheck | hcheck
              · rw [List.mem_singleton.mp hcheck]
              · exact hgood check hcheck
          refine ⟨_, cs, rfl, ?_, ?_⟩
          · simp only [List.all_eq_true, htells.well, true_and, Except.ok.injEq, exists_eq_left',
              preflight_iff f]
          · intro templates' _ h check hcheck hbad
            obtain rfl : templates = templates' := by simpa using h
            obtain ⟨exc, hexc, htext, hrefuses⟩ := htells.ill check hcheck hbad
            rw [← htext]
            exact hrefuses.preflight hexc
  · left
    have hempty : (missingRuntimeSettings settings).isEmpty = false := by simpa using hmissing
    simp only [hempty, Bool.not_false, if_true]
    refine ⟨_, _, rfl, ?_, ?_⟩
    · simp [failed, hmissing]
    · intro templates h
      exact absurd h hmissing

end Verdict

end Clusteration
