import Clusteration.Protocol.Phases

namespace Clusteration

/-- The jobs that destroy the VM's guest. -/
def JobType.destroys : JobType → Bool
  | deleteVm | reinstallVm => true
  | _ => false

/-- What a job knows of its record by the stage it is in. -/
def Exec.Ok (w : Exec) : Prop :=
  match w.stage with
  | .entry => w.type = .createVm → w.x.vmid = none
  | .acting | .powering _ | .powered | .heard _ => (∃ op, powerOp w.type = some op ∧ w.x.status = op.transient) ∧
      w.x.vmid.isSome = true ∧ (w.type = .startVm → w.x.ssh = .pending)
  | .deleting | .gone => w.type.destroys = true ∧ w.x.status = .deleting ∧
      (w.type = .reinstallVm → w.x.ssh = .pending)
  | .destroying n _ => w.type.destroys = true ∧ w.x.status = .deleting ∧ w.x.vmid = some n ∧
      (w.type = .reinstallVm → w.x.ssh = .pending)
  | .blank => w.type = .reinstallVm ∧ w.x.status = .provisioning ∧ w.x.vmid = none ∧
      w.x.ssh = .pending
  | .prepared | .allocated _ | .lost _ => w.type.provisions = true ∧ w.x.vmid = none ∧
      w.x.ssh = .pending
  | .cloned n | .copying n _ => w.type.provisions = true ∧ w.x.vmid = none ∧ w.x.ssh = .pending ∧
      w.target = some n
  | .created n | .starting n _ | .started n => w.type.provisions = true ∧ w.x.status = .provisioning ∧ w.x.vmid = some n ∧
      w.x.ssh = .pending ∧ w.target = some n
  | .up n | .named n _ => w.type.provisions = true ∧ w.x.status = .running ∧ w.x.vmid = some n ∧
      w.x.ssh = .pending ∧ w.target = some n
  | .reached => w.type = .sshReadinessCheck ∧ w.x.ip.isSome = true
  | .settled => (w.type ≠ .sshReadinessCheck → w.x.status.transient = false) ∧
      (w.type = .sshReadinessCheck → w.x.ssh ≠ .pending)

theorem powerOp_final {type : JobType} {op : PowerOp} (h : powerOp type = some op) :
    op.final.transient = false := by
  cases type <;> cases h <;> rfl

theorem powerOp_ne_deleted {type : JobType} {op : PowerOp} (h : powerOp type = some op) :
    op.transient ≠ .deleted ∧ op.final ≠ .deleted := by
  cases type <;> cases h <;> exact ⟨by simp, by simp⟩

theorem powerOp_ne_ssh {type : JobType} {op : PowerOp} (h : powerOp type = some op) :
    type ≠ .sshReadinessCheck := by
  rintro rfl
  cases h

theorem Exec.Ok.learn {w : Exec} {e : Eff} {r : Ans e} {stage : Stage} (h : Learns w e r stage)
    (hw : w.Ok) : { w with stage := stage }.Ok := by
  cases h with
  | nextId hs _ | powering _ hs _ _ _ | powered _ hs _ | heard _ hs _ _ _ | missing hs _ _ | starting _ hs _
  | started _ hs _ | destroyed _ hs _ | unaccepted _ _ _ hs _ | copying _ hs | broken _ _ hs _ | late hs _
  | named _ hs _ =>
    simp only [Exec.Ok, hs] at hw ⊢
    tauto
  | accepted _ hs hn _ =>
    simp only [Exec.Ok, hs] at hw ⊢
    exact ⟨hw.1, hw.2.1, hn, hw.2.2⟩
  | reached hs ht hip =>
    simp only [Exec.Ok]
    exact ⟨ht, by simp [hip]⟩

/-- A reading of the clock begins the wait for the clone, or ends it. -/
theorem Learns.clock_cases {w : Exec} {now : Nat} {stage : Stage} (h : Learns w .time now stage) :
    (∃ n, w.stage = .cloned n ∧ stage = .copying n now) ∨
      ∃ n start, w.stage = .copying n start ∧ stage = .lost n ∧ start + 600000 ≤ now := by
  cases h with
  | copying _ hs => exact .inl ⟨_, hs, rfl⟩
  | late hs hle => exact .inr ⟨_, _, hs, rfl, hle⟩

theorem Exec.Ok.gone {w : Exec} (h : w.Gone) (hw : w.Ok) :
    w.type.destroys = true ∧ w.x.status = .deleting ∧ (w.type = .reinstallVm → w.x.ssh = .pending) := by
  rcases h with hs | ⟨hs, _⟩
  · simpa only [Exec.Ok, hs] using hw
  · simpa only [Exec.Ok, hs] using hw

theorem Exec.Ok.edit {w : Exec} {stage : Stage} {x : Core} {target : Option Int}
    (h : Edit w stage x target) (hw : w.Ok) : { w with stage, x, target }.Ok := by
  cases h with
  | metadata => exact hw
  | @power op hs hop hn =>
    simp only [Exec.Ok]
    exact ⟨⟨op, hop, rfl⟩, hn, fun ht => if_pos ht⟩
  | stopped hs hop _ | addressed hs hop | unheard hs hop =>
    exact ⟨fun _ => powerOp_final hop, fun h => absurd h (powerOp_ne_ssh hop)⟩
  | delete hs ht => simp [Exec.Ok, ht, JobType.destroys]
  | wipe hs ht => simp [Exec.Ok, ht, JobType.destroys]
  | deleted now hg ht => exact ⟨fun _ => rfl, fun h => by rw [ht] at h; cases h⟩
  | cleared hg ht => simp [Exec.Ok, ht, (hw.gone hg).2.2 ht]
  | prepare hs =>
    simp only [Exec.Ok]
    rcases hs with ⟨hs, ht⟩ | ⟨hs, ht⟩
    · simp only [Exec.Ok, hs] at hw
      simp [ht, JobType.provisions, hw ht]
    · simp only [Exec.Ok, hs] at hw
      simp [ht, JobType.provisions, hw.2.2.1]
  | target hs =>
    simp only [Exec.Ok, hs] at hw ⊢
    exact ⟨hw.1, hw.2.1, hw.2.2, trivial⟩
  | targetLost hs =>
    simp only [Exec.Ok, hs] at hw ⊢
    exact hw
  | adopt hs =>
    simp only [Exec.Ok, hs] at hw ⊢
    exact ⟨hw.1, trivial, trivial, hw.2.2⟩
  | booted hs | address hs =>
    simp only [Exec.Ok, hs] at hw ⊢
    tauto
  | noAddress hs | ready hs =>
    simp only [Exec.Ok, hs] at hw
    refine ⟨fun _ => by simp [hw.2.1, VMStatus.transient], fun h => ?_⟩
    rw [h] at hw
    cases hw.1
  | sshReady hs =>
    simp only [Exec.Ok, hs] at hw
    exact ⟨fun hne => absurd hw.1 hne, fun _ => by simp⟩
  | sshFailed hs ht => exact ⟨fun hne => absurd ht hne, fun _ => by simp⟩

/-- The statuses of a record that stands for a guest. -/
def VMStatus.onGuest : VMStatus → Bool
  | running | stopped | starting | stopping | rebooting => true
  | _ => false

/-- What the columns of a record say of a guest, they say with a VMID. -/
structure Core.Backed (x : Core) : Prop where
  status : x.status.onGuest = true → x.vmid.isSome = true
  ip : x.ip.isSome = true → x.vmid.isSome = true
  ssh : x.ssh = .ready → x.vmid.isSome = true

theorem Core.Backed.edit {w : Exec} {stage : Stage} {x : Core} {target : Option Int}
    (h : Edit w stage x target) (hw : w.Ok) (hx : w.x.Backed) : x.Backed := by
  cases h with
  | metadata | target _ | targetLost _ | ready _ => exact hx
  | power hs hop hn => exact ⟨fun _ => hn, fun _ => hn, fun _ => hn⟩
  | stopped hs _ _ | addressed hs _ | unheard hs _ =>
    simp only [Exec.Ok, hs] at hw
    exact ⟨fun _ => hw.2.1, fun _ => hw.2.1, fun _ => hw.2.1⟩
  | delete _ _ | deleted _ _ _ => exact ⟨fun h => (by cases h), hx.ip, hx.ssh⟩
  | wipe _ _ => exact ⟨fun h => (by cases h), hx.ip, fun h => (by cases h)⟩
  | cleared hg ht =>
    have hssh := (hw.gone hg).2.2 ht
    exact ⟨fun h => (by cases h), fun h => (by cases h), fun h => (by simp [hssh] at h)⟩
  | prepare _ | noAddress _ | sshFailed _ _ => exact ⟨hx.status, hx.ip, fun h => (by cases h)⟩
  | adopt _ => exact ⟨fun _ => rfl, fun _ => rfl, fun _ => rfl⟩
  | booted hs | address hs =>
    simp only [Exec.Ok, hs] at hw
    have hn : w.x.vmid.isSome = true := by simp [hw.2.2.1]
    exact ⟨fun _ => hn, fun _ => hn, fun _ => hn⟩
  | sshReady hs =>
    simp only [Exec.Ok, hs] at hw
    exact ⟨hx.status, hx.ip, fun _ => hx.ip hw.2⟩

end Clusteration
