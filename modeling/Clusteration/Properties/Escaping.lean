import Clusteration.Web.Pages

open Markup Page

namespace Clusteration.Web

theorem inert_iff (s : String) :
    (s.toList.all fun c => c != '<' && c != '"' && c != '\'') = true ↔ Inert s := by
  simp [Inert, and_assoc]

instance (s : String) : Decidable (Inert s) := decidable_of_iff _ (inert_iff s)

theorem inert_esc (value : String) : Inert (esc value) := by
  intro c hc
  rw [esc, String.toList_ofList] at hc
  obtain ⟨x, _, hx⟩ := List.mem_flatMap.mp hc
  unfold escChar at hx
  split_ifs at hx with hamp hlt hgt hdouble hsingle
  · exact (by decide : Inert "&amp;") c hx
  · exact (by decide : Inert "&lt;") c hx
  · exact (by decide : Inert "&gt;") c hx
  · exact (by decide : Inert "&quot;") c hx
  · exact (by decide : Inert "&#39;") c hx
  · obtain rfl := List.mem_singleton.mp hx
    exact ⟨hlt, hdouble, hsingle⟩

theorem inert_orElse {value : Option String} {other : String} (hvalue : Inert (value.getD ""))
    (hother : Inert other) : Inert (orElse value other) := by
  unfold orElse
  split
  · exact hvalue
  · exact hother

theorem inert_uuid (id : Uuid) : Inert id.1 := by
  intro c hc
  have hchar := List.all_eq_true.mp id.2 c hc
  refine ⟨?_, ?_, ?_⟩ <;> rintro rfl <;> revert hchar <;> decide

theorem inert_int (i : Int) : Inert i.repr := by
  intro c hc
  have hchar : c.isDigit = true ∨ c = '-' := mem_toString_int hc
  refine ⟨?_, ?_, ?_⟩ <;> rintro rfl <;> cases hchar <;> contradiction

theorem inert_nat (n : Nat) : Inert (toString n) := inert_int n

theorem inert_ite {c : Prop} [Decidable c] {s t : String} (hs : Inert s) (ht : Inert t) :
    Inert (if c then s else t) := by
  split
  · exact hs
  · exact ht

theorem inert_statusValue (status : VMStatus) : Inert (statusValue status) := by
  cases status <;> decide

theorem inert_statusLabel (status : VMStatus) : Inert (statusLabel status) := by
  cases status <;> decide

theorem inert_sshBadge (status : SSHStatus) : Inert (sshBadge status) := by
  cases status <;> decide

theorem inert_auditBadge (a : String) : Inert (auditBadge a) :=
  inert_ite (by decide) (inert_ite (by decide) (by decide))

theorem inert_target (e : AuditOut) : Inert e.target :=
  inert_ite (inert_esc _) (inert_ite (inert_esc _) (by decide))

theorem inert_details (browser : Browser) (e : AuditOut) : Inert (e.details browser) :=
  inert_ite (by decide) (inert_esc _)

theorem safe_vmRow : vmRow.Safe := by
  have hdash (vm : VMOut) : Inert (orElse (some (esc (vm.ipAddress.getD ""))) "—") :=
    inert_orElse (inert_esc _) (by decide)
  have hflag (b : Bool) : Inert (if b then "1" else "0") := inert_ite (by decide) (by decide)
  have hcreate (b : Bool) : Inert (if b then "Reinstalar" else "Tentar criar") :=
    inert_ite (by decide) (by decide)
  have hremove (b : Bool) : Inert (if b then "Excluir" else "Remover") :=
    inert_ite (by decide) (by decide)
  simp [vmRow, vmRowHostname, vmRowCells, recovery, errorBox, recheckButton, seq, Safe, inert_uuid, inert_esc, inert_int,
    inert_statusValue, inert_statusLabel, inert_sshBadge, hdash, hflag, hcreate, hremove]

theorem safe_vmTablePage : vmTablePage.Safe := by
  simp only [vmTablePage, vmTableHead, vmTableFoot, noVms, seq, List.foldr, Safe, safe_vmRow,
    inert_nat, implies_true, and_self]

theorem safe_auditRowPage : auditRowPage.Safe := by
  simp [auditRowPage, seq, Safe, inert_esc, inert_auditBadge, inert_target, inert_details]

theorem ends_vmRowParts : vmRowHostname.ends .text = some .text ∧ errorBox.ends .text = some .text ∧
    recovery.ends .text = some .text ∧ vmRowCells.ends .text = some .text := by
  decide +kernel

theorem ends_vmTableParts : vmTableHead.ends .text = some .text ∧
    noVms.ends .text = some .text ∧ vmTableFoot.ends .text = some .text := by
  decide +kernel

theorem ends_auditRowPage : auditRowPage.ends .text = some .text := by decide +kernel

theorem ends_shownError : (cond (fun d : Row => truthy d.vm.lastError) errorBox (lit "")).ends .text =
    some .text := ends_cond ends_vmRowParts.2.1 rfl

theorem ends_hints : (cond (fun d : Row => d.vm.canRetryCreate) recovery (lit "")).ends .text =
    some .text := ends_cond ends_vmRowParts.2.2.1 rfl

theorem ends_vmRow : vmRow.ends .text = some .text :=
  ends_cat ends_vmRowParts.1 (ends_cat ends_shownError (ends_cat ends_hints
    (ends_cat ends_vmRowParts.2.2.2 rfl)))

theorem ends_vmTableRows (f : Browser × List VMOut → List Row) :
    (cond (fun d : Browser × List VMOut => d.2.isEmpty) noVms (each f vmRow)).ends .text =
      some .text := by
  have hnone : noVms.ends .text = some .text := ends_vmTableParts.2.1
  exact ends_cond hnone (ends_each ends_vmRow)

theorem ends_vmTablePage : vmTablePage.ends .text = some .text :=
  ends_cat ends_vmTableParts.1 (ends_cat (ends_vmTableRows _) (ends_cat ends_vmTableParts.2.2 rfl))

/-- Two records that may differ in their texts. -/
structure SameButText (vm vm' : VMOut) : Prop where
  status : vm.status = vm'.status
  actions : vm.actions = vm'.actions
  hasProxmoxVm : vm.hasProxmoxVm = vm'.hasProxmoxVm

theorem SameButText.canRetryCreate {vm vm' : VMOut} (h : SameButText vm vm') :
    vm.canRetryCreate = vm'.canRetryCreate := by
  unfold VMOut.canRetryCreate
  rw [h.status, h.actions, h.hasProxmoxVm]

theorem errorBox_markup (d : Row) : "<div class=\"\" ".toList <+: errorBox.markup .text d := by
  have hstart : "<div class=\"\" ".toList <+:
      (scan .text "<div class=\"vm-error\" title=\"".toList).2 := by decide +kernel
  rw [errorBox, seq, List.foldr_cons, markup, markup]
  exact hstart.trans (List.prefix_append _ _)

theorem recovery_markup (d : Row) : "<div class=\"\">".toList <+: recovery.markup .text d := by
  have hfirst : (lit "\n" : Page Row).ends .text = some .text := by decide +kernel
  have hstart : "<div class=\"\">".toList <+:
      (scan .text "      <div class=\"vm-recovery\">\n".toList).2 := by decide +kernel
  have hnone : (scan .text "\n".toList).2 = [] := by decide +kernel
  rw [recovery, seq, List.foldr_cons, markup_cat hfirst, List.foldr_cons, markup, markup, markup, hnone]
  exact hstart.trans (List.prefix_append _ _)

theorem vmRowCells_markup (d : Row) : "</".toList <+: vmRowCells.markup .text d := by
  have hstart : "</".toList <+: (scan .text "</td>\n".toList).2 := by decide +kernel
  rw [vmRowCells, seq, List.foldr_cons, markup, markup]
  exact hstart.trans (List.prefix_append _ _)

/-- The markup of a row from the hints on. -/
def behindBox (d : Row) : List Char :=
  (if d.vm.canRetryCreate then recovery.markup .text d else []) ++ vmRowCells.markup .text d

/-- The markup of a row: only the error box goes by a text. -/
theorem vmRow_markup (d : Row) : vmRow.markup .text d =
    vmRowHostname.markup .text d ++
      ((if truthy d.vm.lastError then errorBox.markup .text d else []) ++ behindBox d) := by
  rw [vmRow, seq]
  simp only [List.foldr_cons, List.foldr_nil]
  rw [markup_cat ends_vmRowParts.1, markup_cat ends_shownError, markup_cat ends_hints,
    markup_cat ends_vmRowParts.2.2.2]
  simp [behindBox, markup, scan]

section Rows
variable {browser : Browser} {vm vm' : VMOut}

/-- What comes behind it does not start like an error box. -/
theorem errorBox_ne_behindBox (d d' : Row) (x y : List Char) :
    errorBox.markup .text d ++ x ≠ behindBox d' ++ y := by
  intro heq
  have hbox := (errorBox_markup d).trans (List.prefix_append _ x)
  rw [heq, behindBox] at hbox
  cases hretry : d'.vm.canRetryCreate with
  | true =>
    rw [hretry, if_pos rfl, List.append_assoc] at hbox
    have hhints := (recovery_markup d').trans (List.prefix_append _ (vmRowCells.markup .text d' ++ y))
    exact (List.prefix_or_prefix_of_prefix hbox hhints).elim (by decide) (by decide)
  | false =>
    rw [hretry, if_neg Bool.false_ne_true, List.nil_append] at hbox
    have hcells := (vmRowCells_markup d').trans (List.prefix_append _ y)
    exact (List.prefix_or_prefix_of_prefix hbox hcells).elim (by decide) (by decide)

theorem SameButText.behindBox (h : SameButText vm vm') :
    Web.behindBox ⟨browser, vm⟩ = Web.behindBox ⟨browser, vm'⟩ := by
  have hhints : recovery.markup .text ⟨browser, vm⟩ = recovery.markup .text ⟨browser, vm'⟩ := rfl
  have hcells : vmRowCells.markup .text ⟨browser, vm⟩ = vmRowCells.markup .text ⟨browser, vm'⟩ := by
    simp only [vmRowCells, seq, List.foldr, markup, h.actions]
    rfl
  unfold Web.behindBox
  dsimp only
  rw [h.canRetryCreate, hhints, hcells]

theorem append_optional_iff {box tail rest rest' : List Char} {t t' : Bool}
    (hne : ∀ x y, box ++ x ≠ tail ++ y) :
    (if t then box else []) ++ tail ++ rest = (if t' then box else []) ++ tail ++ rest' ↔
      t = t' ∧ rest = rest' := by
  cases t <;> cases t'
  · simp
  · have h := hne (tail ++ rest') rest
    simpa using fun e => h e.symm
  · have h := hne (tail ++ rest) rest'
    simpa using h
  · simp

theorem vmRow_markup_append_iff (h : SameButText vm vm') {rest rest' : List Char} :
    vmRow.markup .text ⟨browser, vm⟩ ++ rest = vmRow.markup .text ⟨browser, vm'⟩ ++ rest' ↔
      truthy vm.lastError = truthy vm'.lastError ∧ rest = rest' := by
  have hhostname : vmRowHostname.markup .text ⟨browser, vm⟩ =
      vmRowHostname.markup .text ⟨browser, vm'⟩ := rfl
  have hbox : errorBox.markup .text ⟨browser, vm⟩ = errorBox.markup .text ⟨browser, vm'⟩ := rfl
  rw [vmRow_markup, vmRow_markup, hhostname, hbox, h.behindBox, List.append_assoc _ _ rest,
    List.append_assoc _ _ rest', List.append_cancel_left_eq]
  exact append_optional_iff fun x y => errorBox_ne_behindBox _ _ x y

/-- The tables of two lists of VMs have the same markup just when they show the same errors. -/
theorem rows_markup_iff {vms vms' : List VMOut} (h : List.Forall₂ SameButText vms vms') :
    (vms.flatMap fun vm => vmRow.markup .text ⟨browser, vm⟩) =
        (vms'.flatMap fun vm => vmRow.markup .text ⟨browser, vm⟩) ↔
      List.Forall₂ (fun vm vm' => truthy vm.lastError = truthy vm'.lastError) vms vms' := by
  induction h with
  | nil => simp
  | cons hvm hvms ih =>
    rw [List.flatMap_cons, List.flatMap_cons, vmRow_markup_append_iff hvm, ih, List.forall₂_cons]

end Rows

theorem vmTablePage_markup (d : Browser × List VMOut) : vmTablePage.markup .text d =
    vmTableHead.markup .text d ++
      ((if d.2.isEmpty then noVms.markup .text d
        else d.2.flatMap fun vm => vmRow.markup .text ⟨d.1, vm⟩) ++ vmTableFoot.markup .text d) := by
  rw [vmTablePage, seq]
  simp only [List.foldr_cons, List.foldr_nil]
  rw [markup_cat ends_vmTableParts.1, markup_cat (ends_vmTableRows _), markup_cat ends_vmTableParts.2.2]
  simp [markup, scan, List.flatMap_map]

/-- The table has the same markup for two lists of VMs just when it shows the same errors. -/
theorem vmTable_marks_iff (browser : Browser) {vms vms' : List VMOut}
    (h : List.Forall₂ SameButText vms vms') :
    marks (vmTable browser vms).toList = marks (vmTable browser vms').toList ↔
      List.Forall₂ (fun vm vm' => truthy vm.lastError = truthy vm'.lastError) vms vms' := by
  have hhead : vmTableHead.markup .text (browser, vms) = vmTableHead.markup .text (browser, vms') := rfl
  have hfoot : vmTableFoot.markup .text (browser, vms) = vmTableFoot.markup .text (browser, vms') := rfl
  rw [vmTable, vmTable, marks_fill ends_vmTablePage safe_vmTablePage,
    marks_fill ends_vmTablePage safe_vmTablePage, vmTablePage_markup, vmTablePage_markup, hhead, hfoot,
    List.append_cancel_left_eq, List.append_cancel_right_eq, ← @rows_markup_iff browser _ _ h]
  cases h with
  | nil => simp [noVms, markup]
  | cons hvm hvms => rfl

theorem auditRow_marks (browser browser' : Browser) (e e' : AuditOut) :
    marks (auditRow browser e).toList = marks (auditRow browser' e').toList := by
  have hmarkup : auditRowPage.markup .text (browser, e) = auditRowPage.markup .text (browser', e') :=
    rfl
  rw [auditRow, auditRow, marks_fill ends_auditRowPage safe_auditRowPage,
    marks_fill ends_auditRowPage safe_auditRowPage, hmarkup]

theorem ends_terminalStart : terminalStart.ends .text = some .text := by decide +kernel

theorem safe_terminalStart : terminalStart.Safe := by simp [terminalStart, seq, Safe]

theorem safe_terminalEnd : terminalEnd.Safe := by simp [terminalEnd, seq, Safe]

/-- Parameters with a VM, or without. -/
def someParams (vm : Bool) : TerminalParams := ⟨if vm then some "1" else none, none⟩

-- One evaluation for all four, since it is the reading of the literals that takes its time.
theorem terminalEnd_closes : terminalEnd.ends .text = some .text ∧
    terminalEnd.ends .double = some .double ∧
      ∀ vm, '\'' ∉ terminalEnd.markup .text (someParams vm) ∧
        ¬ terminalEnd.markup .double (someParams vm) <:+
          terminalEnd.markup .text (someParams vm) := by
  decide +kernel

theorem terminalEnd_markup (m : Mode) (p : TerminalParams) :
    terminalEnd.markup m p = terminalEnd.markup m (someParams (truthy p.vm)) := by
  have hvm : truthy (someParams (truthy p.vm)).vm = truthy p.vm := by
    cases truthy p.vm <;> rfl
  simp only [terminalEnd, seq, List.foldr, markup, hvm]

theorem closes_terminalEnd (p : TerminalParams) : Closes (terminalEnd.fill p).toList where
  endTag := by
    have hstart : ['<', '/', 's'] <+: "</span>\n".toList := by decide +kernel
    refine ⟨'s', rfl, ?_⟩
    rw [terminalEnd, seq, List.foldr_cons, fill, fill, String.toList_append]
    exact hstart.trans (List.prefix_append _ _)
  double := by
    obtain ⟨htext, hdouble, hmarks⟩ := terminalEnd_closes
    rw [scan_fill htext safe_terminalEnd p, scan_fill hdouble safe_terminalEnd p,
      terminalEnd_markup, terminalEnd_markup .text]
    exact (hmarks _).2
  single := by
    obtain ⟨htext, _, hmarks⟩ := terminalEnd_closes
    rw [scan_fill htext safe_terminalEnd p, terminalEnd_markup]
    exact (hmarks _).1

theorem marks_renderTerminal (p : TerminalParams) : marks (renderTerminal p).toList =
    terminalStart.markup .text p ++
      (scan .text ((orElse p.host "VM").toList ++ (terminalEnd.fill p).toList)).2 := by
  have hpage : (renderTerminal p).toList = (terminalStart.fill p).toList ++
      ((orElse p.host "VM").toList ++ (terminalEnd.fill p).toList) := by
    rw [renderTerminal, terminalPage, seq]
    simp [fill]
  rw [hpage, marks, scan_append, scan_fill ends_terminalStart safe_terminalStart]

/-- The page has the markup it has without a host just when the host opens no tag. -/
theorem renderTerminal_marks_iff (vm : Option String) (host : String) :
    marks (renderTerminal ⟨vm, some host⟩).toList = marks (renderTerminal ⟨vm, none⟩).toList ↔
      opensMarkup host.toList = false := by
  have hstart : terminalStart.markup .text ⟨vm, some host⟩ = terminalStart.markup .text ⟨vm, none⟩ := rfl
  have hend : terminalEnd.fill ⟨vm, some host⟩ = terminalEnd.fill ⟨vm, none⟩ := rfl
  have hcloses := closes_terminalEnd ⟨vm, none⟩
  have hplain := (hcloses.marks_iff "VM".toList).mpr (by decide)
  have hnone : orElse none "VM" = "VM" := rfl
  rw [marks_renderTerminal, marks_renderTerminal, hstart, hend, List.append_cancel_left_eq, hnone,
    hplain]
  by_cases hhost : host = ""
  · subst hhost
    have hempty : orElse (some "") "VM" = "VM" := rfl
    rw [hempty, hplain]
    exact ⟨fun _ => rfl, fun _ => rfl⟩
  · have hsome : orElse (some host) "VM" = host := by simp [orElse, truthy, hhost]
    rw [hsome]
    exact hcloses.marks_iff host.toList

/-- The free texts of a VM. -/
structure Texts where
  hostname : String
  template : String
  ipAddress : Option String
  lastError : Option String

def VMOut.withTexts (vm : VMOut) (texts : Texts) : VMOut :=
  { vm with
    hostname := texts.hostname
    template := texts.template
    ipAddress := texts.ipAddress
    lastError := texts.lastError }

theorem withTexts_sameButText (rows : List (VMOut × Texts × Texts)) :
    List.Forall₂ SameButText (rows.map fun r => r.1.withTexts r.2.1)
      (rows.map fun r => r.1.withTexts r.2.2) := by
  induction rows with
  | nil => exact .nil
  | cons r rows ih => exact .cons ⟨rfl, rfl, rfl⟩ ih

theorem shownErrors_withTexts (rows : List (VMOut × Texts × Texts)) :
    List.Forall₂ (fun vm vm' : VMOut => truthy vm.lastError = truthy vm'.lastError)
        (rows.map fun r => r.1.withTexts r.2.1) (rows.map fun r => r.1.withTexts r.2.2) ↔
      ∀ r ∈ rows, truthy r.2.1.lastError = truthy r.2.2.lastError := by
  induction rows with
  | nil => simp
  | cons r rows ih =>
    rw [List.map_cons, List.map_cons, List.forall₂_cons, ih, List.forall_mem_cons]
    rfl

/-- No text changes the markup of the pages: but for a host of the terminal that opens a tag, and
for an error that is there or not. -/
theorem pages_keep_markup (browser : Browser) :
    (∀ vm host, marks (renderTerminal ⟨vm, some host⟩).toList =
        marks (renderTerminal ⟨vm, none⟩).toList ↔ opensMarkup host.toList = false) ∧
      (∀ rows : List (VMOut × Texts × Texts),
        marks (vmTable browser (rows.map fun r => r.1.withTexts r.2.1)).toList =
            marks (vmTable browser (rows.map fun r => r.1.withTexts r.2.2)).toList ↔
          ∀ r ∈ rows, truthy r.2.1.lastError = truthy r.2.2.lastError) ∧
      ∀ e e', marks (auditRow browser e).toList = marks (auditRow browser e').toList := by
  refine ⟨renderTerminal_marks_iff, ?_, auditRow_marks browser browser⟩
  intro rows
  rw [vmTable_marks_iff browser (withTexts_sameButText rows), shownErrors_withTexts]

/-- A host with a tag in it comes to the page as a tag. -/
theorem renderTerminal_injects : ¬ ∀ vm host host',
    marks (renderTerminal ⟨vm, host⟩).toList = marks (renderTerminal ⟨vm, host'⟩).toList := by
  intro hall
  have hsame := hall (some "1") (some "<img src=x onerror=alert(document.cookie)>") none
  rw [renderTerminal_marks_iff] at hsame
  revert hsame
  decide +kernel

end Clusteration.Web
