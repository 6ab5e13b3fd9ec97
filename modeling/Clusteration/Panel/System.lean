import Clusteration.Framework.Reach
import Clusteration.Panel.Routes
import Clusteration.Panel.Startup

open Async Transition

namespace Clusteration

inductive Thread where
  | boot
  | worker
  | request (i : Nat)
  deriving DecidableEq

abbrev Handler := Prog Eff Ans (Except Exc Response)

/-- The panel's process and what it works on. `worker` is the `dispatch` the worker loop is in;
it has returned when the loop waits at `JOB_QUEUE.get()`. -/
structure Sys where
  shared : Shared := {}
  alive : Bool := false
  settings : Settings := {}
  boot : Prog Eff Ans Unit := .ret ()
  worker : Prog Eff Ans Unit := .ret ()
  requests : List Handler := []

/-- What is left of the shared state when the process ends. -/
def Shared.crash (s : Shared) : Shared :=
  { s with queue := [], locked := false, workerOn := false }

inductive Label where
  | crash
  | restart (settings : Settings)
  | get (p : Payload)
  | receive (r : Request)
  | await (t : Thread) (e : Eff) (answer : Ans e)

/-- One step: the process ends or starts, the worker takes a payload, a request arrives, or one
coroutine goes through one await. Requests are only accepted once `lifespan` has yielded. -/
inductive Step : Sys → Label → Sys → Prop
  | crash {s : Sys} : s.alive = true →
      Step s .crash { shared := s.shared.crash, settings := s.settings }
  | restart {s : Sys} (settings : Settings) : s.alive = false →
      Step s (.restart settings)
        { shared := s.shared, alive := true, settings, boot := lifespan settings }
  | get {s : Sys} {p : Payload} {rest : List Payload} : s.alive = true → s.shared.workerOn = true →
      s.worker.isRet = true → s.shared.queue = p :: rest →
      Step s (.get p)
        { s with
          shared := { s.shared with queue := rest, hist := .dispatch p.jobId :: s.shared.hist }
          worker := dispatch s.settings p }
  | receive {s : Sys} (r : Request) : s.alive = true → s.boot.isRet = true →
      Step s (.receive r) { s with requests := s.requests ++ [serve s.settings r] }
  | boot {s : Sys} {e : Eff} {k : Ans e → Prog Eff Ans Unit} {a : Ans e} {sh : Shared} :
      s.alive = true → s.boot = .await e k → Act s.shared e a sh →
      Step s (.await .boot e a) { s with shared := sh, boot := k a }
  | worker {s : Sys} {e : Eff} {k : Ans e → Prog Eff Ans Unit} {a : Ans e} {sh : Shared} :
      s.alive = true → s.worker = .await e k → Act s.shared e a sh →
      Step s (.await .worker e a) { s with shared := sh, worker := k a }
  | request {s : Sys} {i : Nat} {e : Eff} {k : Ans e → Handler} {a : Ans e} {sh : Shared} :
      s.alive = true → s.requests[i]? = some (.await e k) → Act s.shared e a sh →
      Step s (.await (.request i) e a)
        { s with shared := sh, requests := s.requests.set i (k a) }

/-- Before the panel ran for the first time: no VM and no job, and only guests that are not its
own, with machine-ids of their own. -/
structure Initial (s : Sys) : Prop where
  dead : s.alive = false
  boot : s.boot = .ret ()
  worker : s.worker = .ret ()
  requests : s.requests = []
  queue : s.shared.queue = []
  workerOff : s.shared.workerOn = false
  unlocked : s.shared.locked = false
  vms : s.shared.db.vms = {}
  jobs : s.shared.db.jobs = {}
  hist : s.shared.hist = []
  foreign : ∀ g ∈ s.shared.pve.guests, g.origin = none
  undrawn : ∀ g ∈ s.shared.pve.guests, ∀ k, g.machineId ≠ .fresh k ∧ g.bootId ≠ .fresh k
  distinct : (s.shared.pve.guests.map Guest.vmid).Nodup

/-- A condition on steps: the shared state before it, the step, and the shared state after it. -/
abbrev Cond := Shared → Label → Shared → Prop

def Cond.ok (cond : Cond) (s : Sys) (l : Label) (s' : Sys) : Prop := cond s.shared l s'.shared

/-- The states of the runs whose steps all meet `cond`. -/
def Reachable (cond : Cond) : Sys → Prop := Reach Step cond.ok Initial

/-- No condition. -/
def Cond.any : Cond := fun _ _ _ => True

/-- In this step `dispatch` marks the job as running, and the job's record is `vm`. -/
structure Begins (s s' : Shared) (j : JobId) (job : Job) (vm : VM) : Prop where
  event : s'.hist = .enter j (some vm) :: s.hist
  row : s.db.jobs.get j = some job

/-- Startup has completed, the worker waits for a payload and no request is in flight. -/
structure Sys.Between (s : Sys) : Prop where
  alive : s.alive = true
  started : s.boot.isRet = true
  idle : s.worker.isRet = true
  answered : ∀ p ∈ s.requests, p.isRet = true

instance (s : Sys) : Decidable s.Between :=
  decidable_of_iff (s.alive = true ∧ s.boot.isRet = true ∧ s.worker.isRet = true ∧
    ∀ p ∈ s.requests, p.isRet = true)
    ⟨fun h => ⟨h.1, h.2.1, h.2.2.1, h.2.2.2⟩, fun h => ⟨h.alive, h.started, h.idle, h.answered⟩⟩

inductive Choice where
  | crash
  | restart (settings : Settings)
  | get
  | receive (r : Request)
  | run (t : Thread) (i : In)

def Prog.advance {α : Type} (p : Prog Eff Ans α) (sh : Shared) (i : In) :
    Option ((Σ e : Eff, Ans e) × Shared × Prog Eff Ans α) :=
  match p with
  | .ret _ => none
  | .await e k => (perform sh e i).map fun (a, sh') => (⟨e, a⟩, sh', k a)

def Sys.step (s : Sys) : Choice → Option (Label × Sys)
  | .crash =>
    if s.alive then some (.crash, { shared := s.shared.crash, settings := s.settings }) else none
  | .restart settings =>
    if s.alive then none
    else some (.restart settings,
      { shared := s.shared, alive := true, settings, boot := lifespan settings })
  | .get =>
    match s.shared.queue with
    | [] => none
    | p :: rest =>
      if s.alive && s.shared.workerOn && s.worker.isRet then
        some (.get p,
          { s with
            shared := { s.shared with queue := rest, hist := .dispatch p.jobId :: s.shared.hist }
            worker := dispatch s.settings p })
      else none
  | .receive r =>
    if s.alive && s.boot.isRet then
      some (.receive r, { s with requests := s.requests ++ [serve s.settings r] })
    else none
  | .run t i =>
    if !s.alive then none
    else match t with
    | .boot => (Prog.advance s.boot s.shared i).map fun (a, shared, boot) =>
      (.await .boot a.1 a.2, { s with shared, boot })
    | .worker => (Prog.advance s.worker s.shared i).map fun (a, shared, worker) =>
      (.await .worker a.1 a.2, { s with shared, worker })
    | .request n =>
      match s.requests[n]? with
      | none => none
      | some p => (Prog.advance p s.shared i).map fun (a, shared, p') =>
        (.await (.request n) a.1 a.2, { s with shared, requests := s.requests.set n p' })

theorem advance_eq {α : Type} {p : Prog Eff Ans α} {sh sh' : Shared} {i : In}
    {a : Σ e : Eff, Ans e} {p' : Prog Eff Ans α}
    (h : Prog.advance p sh i = some (a, sh', p')) :
    ∃ k, p = .await a.1 k ∧ Act sh a.1 a.2 sh' ∧ p' = k a.2 := by
  cases p with
  | ret b => cases h
  | await e k =>
    simp only [Prog.advance, Option.map_eq_some_iff, Prod.mk.injEq] at h
    obtain ⟨⟨b, sh''⟩, hp, rfl, rfl, rfl⟩ := h
    exact ⟨k, rfl, ⟨i, hp⟩, rfl⟩

theorem step_sound {s s' : Sys} {c : Choice} {l : Label} (h : s.step c = some (l, s')) :
    Step s l s' := by
  cases c with
  | crash =>
    simp only [Sys.step, Option.ite_none_right_eq_some, Option.some.injEq, Prod.mk.injEq] at h
    obtain ⟨ha, rfl, rfl⟩ := h
    exact .crash ha
  | restart settings =>
    simp only [Sys.step, Option.ite_none_left_eq_some, Option.some.injEq, Prod.mk.injEq] at h
    obtain ⟨ha, rfl, rfl⟩ := h
    exact .restart settings (by simpa using ha)
  | get =>
    simp only [Sys.step] at h
    split at h
    · cases h
    · next p rest hq =>
      simp only [Option.ite_none_right_eq_some, Option.some.injEq, Prod.mk.injEq,
        Bool.and_eq_true] at h
      obtain ⟨⟨⟨ha, hw⟩, hr⟩, rfl, rfl⟩ := h
      exact .get ha hw hr hq
  | receive r =>
    simp only [Sys.step, Option.ite_none_right_eq_some, Option.some.injEq, Prod.mk.injEq,
      Bool.and_eq_true] at h
    obtain ⟨⟨ha, hb⟩, rfl, rfl⟩ := h
    exact .receive r ha hb
  | run t i =>
    simp only [Sys.step, Option.ite_none_left_eq_some, Bool.not_eq_true', Bool.not_eq_false] at h
    obtain ⟨ha, h⟩ := h
    cases t with
    | boot =>
      simp only [Option.map_eq_some_iff, Prod.mk.injEq] at h
      obtain ⟨⟨a, sh, p'⟩, hp, rfl, rfl⟩ := h
      obtain ⟨k, hk, hact, rfl⟩ := advance_eq hp
      exact .boot ha hk hact
    | worker =>
      simp only [Option.map_eq_some_iff, Prod.mk.injEq] at h
      obtain ⟨⟨a, sh, p'⟩, hp, rfl, rfl⟩ := h
      obtain ⟨k, hk, hact, rfl⟩ := advance_eq hp
      exact .worker ha hk hact
    | request n =>
      dsimp only at h
      split at h
      · cases h
      · next p hn =>
        simp only [Option.map_eq_some_iff, Prod.mk.injEq] at h
        obtain ⟨⟨a, sh, p'⟩, hp, rfl, rfl⟩ := h
        obtain ⟨k, rfl, hact, rfl⟩ := advance_eq hp
        exact .request ha hn hact

/-- Follow choices, with a check on every step. -/
def Sys.run (ok : Sys → Label → Sys → Bool) (s : Sys) : List Choice → Option Sys
  | [] => some s
  | c :: cs => (s.step c).bind fun (l, s') => if ok s l s' then s'.run ok cs else none

theorem run_path {ok : Sys → Label → Sys → Bool} {cond : Cond}
    (hok : ∀ s l s', ok s l s' = true → cond.ok s l s') {s s' : Sys} {cs : List Choice}
    (h : s.run ok cs = some s') : ∀ {s₀ : Sys}, Path Step cond.ok s₀ s → Path Step cond.ok s₀ s' := by
  induction cs generalizing s with
  | nil =>
    intro s₀ hp
    cases h
    exact hp
  | cons c cs ih =>
    intro s₀ hp
    simp only [Sys.run, Option.bind_eq_some_iff] at h
    obtain ⟨⟨l, s₁⟩, hs, h⟩ := h
    rw [Option.ite_none_right_eq_some] at h
    exact ih h.2 (.next hp (step_sound hs) (hok _ _ _ h.1))

theorem run_reachable {ok : Sys → Label → Sys → Bool} {cond : Cond}
    (hok : ∀ s l s', ok s l s' = true → cond.ok s l s') {s s' : Sys} {cs : List Choice}
    (hs : Reachable cond s) (h : s.run ok cs = some s') : Reachable cond s' :=
  Reach.path hs (run_path hok h (.refl s))

namespace Scenario

def settings : Settings where
  proxmoxHost := "pve"
  proxmoxTokenId := "id"
  proxmoxTokenSecret := "token"
  consoleSshPrivateKey := "private"
  consoleSshPublicKey := "public"

def template : Guest where
  vmid := 9000
  node := "pve1"
  machineId := .template 9000
  bootId := .template 9000

def panel : Sys := { shared := { pve := { guests := [template] } } }

theorem panel_initial : Initial panel where
  dead := rfl
  boot := rfl
  worker := rfl
  requests := rfl
  queue := rfl
  workerOff := rfl
  unlocked := rfl
  vms := rfl
  jobs := rfl
  hist := rfl
  foreign := by simp [panel, template]
  undrawn := by simp [panel, template]
  distinct := by simp [panel]

/-- The state such a run ends in. -/
theorem reached {ok : Sys → Label → Sys → Bool} {cond : Cond}
    (hok : ∀ s l s', ok s l s' = true → cond.ok s l s') {cs : List Choice}
    (h : (panel.run ok cs).isSome = true) : Reachable cond ((panel.run ok cs).get h) :=
  run_reachable hok (.start panel_initial) (Option.some_get h).symm

/-- A run that is evaluated once, up to a state that passes a check. -/
theorem evaluated {ok : Sys → Label → Sys → Bool} {cond : Cond}
    (hok : ∀ s l s', ok s l s' = true → cond.ok s l s') {cs : List Choice} {p : Sys → Bool}
    (h : (panel.run ok cs).any p = true) : ∃ s, Reachable cond s ∧ p s = true := by
  obtain ⟨s, hs, hp⟩ := (Option.any_eq_true _ _).mp h
  exact ⟨s, run_reachable hok (.start panel_initial) hs, hp⟩

theorem evaluated_any {cs : List Choice} {p : Sys → Bool}
    (h : (panel.run (fun _ _ _ => true) cs).any p = true) : ∃ s, Reachable .any s ∧ p s = true :=
  @evaluated _ Cond.any (fun _ _ _ _ => trivial) cs p h

/-- A restart that finds these jobs queued, `resumed` of which it puts back. -/
def startup (queued : List JobId) (resumed : Nat) : List Choice :=
  [.restart settings, .run .boot .none, .run .boot .none, .run .boot .none,
    .run .boot (.order queued)] ++ List.replicate (resumed + 1) (.run .boot .none)

def worker (ins : List In) : List Choice := ins.map (.run .worker)

def request (n : Nat) (ins : List In) : List Choice := ins.map (.run (.request n))

/-- Proxmox answers, and carries the request out if `applied`. -/
def answer (data : Json) (applied : Bool) : In :=
  .http { applied, out := .response 200 { json := some (.obj [("data", data)]) } }

def refusal : In := .http { out := .response 403 {} }

/-- `/cluster/resources`, with the template and the guests of these VMIDs. -/
def listing (vmids : List Int) : In :=
  let row (n : Int) (isTemplate : Int) : Json :=
    .obj [("vmid", .int n), ("node", .str "pve1"), ("template", .int isTemplate),
      ("maxdisk", .int 12884901888)]
  answer (.arr (row 9000 1 :: vmids.map fun n => row n 0)) false

def body (hostname : String) (h : isHostname hostname = true ∧ isLowercase hostname = true) :
    VMCreate where
  hostname := hostname
  template := "debian"
  rootPassword := "password"
  hostname_valid := h.1
  hostname_lower := h.2
  rootPassword_valid := by decide

theorem named_a : isHostname "a" = true ∧ isLowercase "a" = true := by decide

theorem named_b : isHostname "b" = true ∧ isLowercase "b" = true := by decide

/-- Request `n` creates a VM; Proxmox names `vmid` as the next free VMID. -/
def create (n : Nat) (vm : VMCreate) (vmid : Int) : List Choice :=
  .receive (.createVm vm) :: request n
    [.none, .none, answer (.int vmid) false, listing [], listing [], answer .null false, .none, .none,
      .none, .none, .none]

/-- Request `n` deletes the VM. -/
def delete (n : Nat) (v : VmId) (hostname : String) : List Choice :=
  .receive (.deleteVm v hostname) :: request n [.none, .none, .none]

/-- Request `n` reinstalls the VM. -/
def reinstall (n : Nat) (v : VmId) (hostname : String) : List Choice :=
  .receive (.reinstallVm v
    { confirmHostname := hostname, rootPassword := "password", rootPassword_valid := by decide }) ::
    request n [.none, .none, answer (.int 100) false, listing [], listing [], answer .null false,
      .none, .none]

/-- A task that has ended well. -/
def stopped : In := answer (.obj [("status", .str "stopped"), ("exitstatus", .str "OK")]) false

/-- A guest boots and gets the lease `ip`. -/
def leased (upid ip : String) : In :=
  .http { applied := true, addr := ip
          out := .response 200 { json := some (.obj [("data", .str upid)]) } }

/-- The agent's answer to `network-get-interfaces`. -/
def interfaces (ip : String) : In :=
  answer (.obj [("result", .arr [.obj [("name", .str "eth0"), ("ip-addresses",
    .arr [.obj [("ip-address-type", .str "ipv4"), ("ip-address", .str ip)]])]])]) false

/-- The worker takes a creation and clones the template as guest `n`, up to the commit of
`target_vmid`; `k` sets its UPIDs apart. -/
def cloning (k : String) (n : Int) : List Choice :=
  .get :: worker [.none, .none, .none, .none, .none, .none, listing [], .none, .none,
    answer (.int n) false, answer (.str ("clone" ++ k)) true, .none]

/-- The clone is done and its VMID recorded. -/
def clone (k : String) (n : Int) : List Choice := cloning k n ++ worker [.nat 0, stopped, .none]

/-- The clone's configuration is refused, and the creation fails. -/
def unconfigured : List Choice := worker [.none, refusal, .none]

/-- It boots the clone. -/
def boot (k : String) (n : Int) (ip : String) : List Choice :=
  worker [.none, answer .null true, .none, listing [n], leased ("start" ++ k) ip, .none, .nat 0,
    stopped, .none]

/-- It gives the clone a machine-id of its own and reboots it, up to the last commit of the job. -/
def identifying (k : String) (ip ip' : String) : List Choice :=
  worker [.none, .nat 0, interfaces ip, .none, .none, answer (.obj [("pid", .int 1)]) true, .nat 0,
    answer (.obj [("exited", .int 1), ("out-data", .str "reset-ok")]) false,
    leased ("reboot" ++ k) ip', .none, .nat 0, stopped, .none, .nat 0, interfaces ip', .none, .none]

/-- The job ends well and is followed up. -/
def success : List Choice := worker [.none, .none, .none]

def identify (k : String) (ip ip' : String) : List Choice := identifying k ip ip' ++ success

/-- The worker takes a readiness check, which succeeds. -/
def check : List Choice := .get ::
  worker [.none, .none, .none, .nat 0, .nat 0, .ssh true, .none, .none, .none]

/-- Request `n` reboots the VM. -/
def reboot (n : Nat) (v : VmId) : List Choice := .receive (.rebootVm v) :: request n [.none, .none, .none]

/-- The worker takes the reboot, up to the commit of the status `running`. -/
def rebooting (k ip : String) : List Choice :=
  .get :: worker [.none, .none, .none, .none, answer (.obj [("status", .str "running")]) false,
    leased ("reboot" ++ k) ip, .none, .nat 0, stopped, .nat 0, interfaces ip, .none]

/-- The worker takes a creation; Proxmox shows it no template. -/
def createRefused : List Choice :=
  .get :: worker [.none, .none, .none, .none, .none, .none, refusal, refusal, .none]

/-- The worker takes the deletion of a VM that has no guest. -/
def deleteBlank : List Choice := .get :: worker [.none, .none, .none, .none, .nat 0, .none, .none]

/-- The worker begins to delete a VM that has a guest. -/
def deleting : List Choice := .get :: worker [.none, .none, .none, .none]

/-- It finds the guest stopped and has it destroyed. -/
def destroying : List Choice :=
  worker [answer (.obj [("status", .str "stopped")]) false, .none,
    answer (.obj [("status", .str "stopped")]) false, answer (.str "destroy") true]

end Scenario

end Clusteration
