import Mathlib.Data.List.Basic
import Clusteration.Panel.Entities

namespace Clusteration

/-- `PROGRESS_STEPS`: the keys with their labels. -/
def progressSteps : List (String × String) :=
  [("queued", "Job criado"), ("resolve-template", "Validar template"), ("clone", "Clonar VM"),
   ("config-cloudinit", "Cloud-init"), ("resize-check", "Disco"), ("start", "Ligar"),
   ("wait-ip", "IP"), ("reset-machine-id", "Identidade única"), ("ready", "SSH")]

/-- `operationKey`: what follows the first colon. -/
def operationKey (operation : Option String) : String :=
  let op := match operation with
    | some op => if op = "" then "queued" else op
    | none => "queued"
  if op = "queued" then "queued"
  else
    let cs := op.toList
    if cs.contains ':' then String.ofList ([':'].intercalate ((cs.splitOn ':').drop 1)) else op

/-- The index of a key among the steps, as `renderProgressSteps` looks it up. -/
def keyIndex (key : String) : Nat :=
  if key = "reboot-uniq" || key = "wait-ip-after-reboot" then 7
  else if key = "resize" || key = "resize-skip" then 4
  else if key = "allocate-vmid" then 1
  else ((progressSteps.map Prod.fst).findIdx? fun k => k = key).getD 0

/-- The step that `job.meta.operation` names. -/
def Job.progress (job : Job) : Nat := keyIndex (operationKey job.metadata.operation)

/-- `currentIndex` of `renderProgressSteps`. -/
def currentIndex (job : Job) (vm : VM) : Nat :=
  if vm.status = .running && vm.sshStatus = .ready then progressSteps.length - 1 else job.progress

/-- The class of a step in the list. -/
inductive StepClass where
  | done | failed | current | ahead
  deriving DecidableEq, Repr

def progressFailed (job : Job) (vm : VM) : Bool :=
  job.status = .failed || vm.status = .error || vm.sshStatus = .failed

def stepClass (job : Job) (vm : VM) (index : Nat) : StepClass :=
  let current := currentIndex job vm
  let failed := progressFailed job vm
  if index < current || (!failed && index = progressSteps.length - 1 && vm.sshStatus = .ready) then
    .done
  else if index = current then if failed then .failed else .current
  else .ahead

/-- `renderProgressSteps`: each step's class, number and label. -/
def renderProgressSteps (job : Job) (vm : VM) : List (StepClass × Nat × String) :=
  progressSteps.mapIdx fun index step => (stepClass job vm index, index + 1, step.2)

theorem splitOn_colon {l : List Char} (h : ':' ∉ l) (rest : List Char) :
    (l ++ ':' :: rest).splitOn ':' = l :: rest.splitOn ':' := by
  apply List.splitOnP_append_cons_of_forall_mem
  · intro x hx
    have hne : x ≠ ':' := by
      rintro rfl
      exact h hx
    simpa using hne
  · simp

/-- An operation of a phase is found under its own key. -/
theorem operationKey_phase {phase : String} (hp : ':' ∉ phase.toList) (key : String) :
    operationKey (some (phase ++ (":" ++ key))) = key := by
  have hchars : (phase ++ (":" ++ key)).toList = phase.toList ++ ':' :: key.toList := by simp
  have hcolon : ':' ∈ (phase ++ (":" ++ key)).toList := by
    rw [hchars]
    simp
  have hempty : phase ++ (":" ++ key) ≠ "" := by
    intro h
    rw [h] at hcolon
    cases hcolon
  have hqueued : phase ++ (":" ++ key) ≠ "queued" := by
    intro h
    rw [h] at hcolon
    revert hcolon
    decide
  unfold operationKey
  simp only [if_neg hempty, if_neg hqueued]
  rw [if_pos (by simp), hchars, splitOn_colon hp, List.drop_one, List.tail_cons,
    List.intercalate_splitOn, String.ofList_toList]

theorem keyIndex_lt (key : String) : keyIndex key < progressSteps.length := by
  have hlen : progressSteps.length = 9 := rfl
  unfold keyIndex
  split
  · omega
  split
  · omega
  split
  · omega
  cases h : (progressSteps.map Prod.fst).findIdx? fun k => k = key with
  | none =>
    rw [Option.getD_none]
    omega
  | some i =>
    obtain ⟨hi, _⟩ := List.findIdx?_eq_some_iff_getElem.mp h
    simpa using hi

/-- A step before the one the operation is at is shown as done, whatever has become of the VM. -/
theorem stepClass_done (job : Job) (vm : VM) {index : Nat} (h : index < job.progress) :
    stepClass job vm index = .done := by
  have hlt : index < currentIndex job vm := by
    have hbound : job.progress < progressSteps.length := keyIndex_lt _
    unfold currentIndex
    split <;> omega
  unfold stepClass
  simp [hlt]

end Clusteration
