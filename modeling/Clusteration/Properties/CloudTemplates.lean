import Clusteration.Framework.Protocol
import Clusteration.Scripts.CloudTemplates

open Async Task Transition

namespace Clusteration.Scripts

/-- The builds of `buildTemplates`: the name the filter knows, the VMID and the template's name. -/
def TemplateEnv.builds (env : TemplateEnv) : List (String × String × String) :=
  [("debian", env.debianVmid, "debian-13-cloudinit-template"),
   ("ubuntu", env.ubuntuVmid, "ubuntu-2604-cloudinit-template"),
   ("fedora", env.fedoraVmid, "fedora-44-cloudinit-template"),
   ("hermes", env.hermesVmid, "hermes-ai-template"),
   ("openclaw", env.openclawVmid, "openclaw-ai-template"),
   ("claude", env.claudeVmid, "claude-cli-template")]

/-- The VMID is one of a template that the filter selects. -/
def TemplateEnv.Chooses (env : TemplateEnv) (vmid : String) : Prop :=
  ∃ os name, (os, vmid, name) ∈ env.builds ∧ env.selected os = true

/-- The commands that make a template of nothing. -/
def TemplateEnv.recipe (env : TemplateEnv) (vmid name image disk : String) : List Cmd :=
  [.create vmid (env.createOptions name "l26"), .importdisk vmid image env.storage,
   .set vmid ["--scsi0", disk], .set vmid ["--ide2", s!"{env.storage}:cloudinit"],
   .set vmid ["--boot", "c", "--bootdisk", "scsi0"], .set vmid ["--ipconfig0", "ip=dhcp"],
   .set vmid ["--ciuser", "root"], .template vmid]

/-- These commands, all of which succeeded, are a whole build of a selected template. -/
def TemplateEnv.Complete (env : TemplateEnv) (vmid : String) (done : List Cmd) : Prop :=
  ∃ os name image disk, (os, vmid, name) ∈ env.builds ∧ env.selected os = true ∧ disk ≠ "" ∧
    done = env.recipe vmid name image disk

inductive BuildPhase where
  /-- no template is being made; these VMIDs are settled -/
  | idle (settled : List String)
  | making (vmid : String) (done : List Cmd) (settled : List String)
  /-- a command on the guest has failed, and the script can only fail -/
  | broken

/-- The commands that bring a new guest on its way. -/
def Cmd.builds : Cmd → Option String
  | importdisk v _ _ | set v _ => some v
  | _ => none

inductive BuildT (env : TemplateEnv) : BuildPhase → Cmd → Reply → BuildPhase → Prop
  | plain {φ : BuildPhase} {c : Cmd} {r : Reply} : c.vmid = none → BuildT env φ c r φ
  | look {vmid : String} {l : List String} {r : Reply} : env.Chooses vmid →
      BuildT env (.idle l) (.status vmid) r (.idle (if r.status = 0 then vmid :: l else l))
  | stop {vmid : String} {l : List String} {r : Reply} : env.Chooses vmid →
      env.replaceExisting = "1" → BuildT env (.idle l) (.stop vmid) r (.idle l)
  | destroy {vmid : String} {l : List String} {r : Reply} : env.Chooses vmid →
      env.replaceExisting = "1" → BuildT env (.idle l) (.destroy vmid) r (.idle l)
  | create {vmid : String} {options : List String} {l : List String} {r : Reply} : env.Chooses vmid →
      r.status = 0 →
      BuildT env (.idle l) (.create vmid options) r (.making vmid [.create vmid options] l)
  | build {vmid : String} {c : Cmd} {done : List Cmd} {l : List String} {r : Reply} :
      c.builds = some vmid → r.status = 0 →
      BuildT env (.making vmid done l) c r (.making vmid (done ++ [c]) l)
  | config {vmid : String} {done : List Cmd} {l : List String} {r : Reply} :
      BuildT env (.making vmid done l) (.config vmid) r (.making vmid done l)
  | finish {vmid : String} {done : List Cmd} {l : List String} {r : Reply} :
      env.Complete vmid (done ++ [.template vmid]) → r.status = 0 →
      BuildT env (.making vmid done l) (.template vmid) r (.idle (vmid :: l))
  | spoilt {vmid : String} {c : Cmd} {φ : BuildPhase} {r : Reply} :
      (∃ l options, φ = .idle l ∧ c = .create vmid options) ∨
        (∃ done l, φ = .making vmid done l ∧ (c.builds = some vmid ∨ c = .template vmid)) →
      env.Chooses vmid → r.status ≠ 0 → BuildT env φ c r .broken

/-- The script ends with an error. -/
def Exits (status : Nat) (_ : Unit) (_ : BuildPhase) : Prop := status ≠ 0

/-- Nothing is being made, and what was settled still is. -/
def Idle {α : Type} (l : List String) (P : α → List String → Prop) (a : α) (_ : Unit)
    (φ : BuildPhase) : Prop :=
  ∃ l', φ = .idle l' ∧ (∀ v ∈ l, v ∈ l') ∧ P a l'

variable {env : TemplateEnv} {φ : BuildPhase} {vmid name image : String} {l : List String}

section Rules
variable {Q : Unit → Unit → BuildPhase → Prop}

theorem must_plain {c : Cmd} (hc : c.vmid = none) (hQ : Q () () φ) :
    Spec (BuildT env) (must c) () φ Q Exits := by
  apply spec_bind
  apply spec_await
  intro r
  refine ⟨φ, .plain hc, ?_⟩
  split
  · exact spec_pure hQ
  · next hfailed => exact spec_raise hfailed

theorem run_plain {c : Cmd} {Q : Nat → Unit → BuildPhase → Prop} (hc : c.vmid = none)
    (hQ : ∀ st, Q st () φ) : Spec (BuildT env) (run c) () φ Q Exits := by
  apply spec_bind
  apply spec_await
  intro r
  exact ⟨φ, .plain hc, spec_pure (hQ r.status)⟩

theorem has_plain {tool : String} {Q : Bool → Unit → BuildPhase → Prop} (hQ : ∀ found, Q found () φ) :
    Spec (BuildT env) (has tool) () φ Q Exits := by
  apply spec_bind
  apply run_plain rfl
  intro st
  exact spec_pure (hQ _)

theorem echo_plain {text : String} (hQ : Q () () φ) : Spec (BuildT env) (echo text) () φ Q Exits :=
  must_plain rfl hQ

theorem need_plain {tool : String} (hQ : Q () () φ) : Spec (BuildT env) (need tool) () φ Q Exits := by
  apply spec_bind
  apply has_plain
  intro found
  cases found with
  | true => exact spec_pure hQ
  | false =>
    apply spec_bind
    apply echo_plain
    exact spec_raise Nat.one_ne_zero

theorem download_plain {url dest : String} (hQ : Q () () φ) :
    Spec (BuildT env) (download url dest) () φ Q Exits := by
  apply spec_bind
  apply must_plain rfl
  apply spec_bind
  apply run_plain rfl
  intro cached
  split
  · exact echo_plain hQ
  · apply spec_bind
    apply echo_plain
    apply spec_bind
    apply has_plain
    intro curl
    split
    · apply spec_bind
      apply must_plain rfl
      exact must_plain rfl hQ
    · apply spec_bind
      apply must_plain rfl
      exact must_plain rfl hQ

theorem customizeCommon_plain {family : String} (hQ : Q () () φ) :
    Spec (BuildT env) (customizeCommon image family) () φ Q Exits := by
  apply spec_bind
  apply has_plain
  intro found
  split
  · exact must_plain rfl hQ
  · apply spec_bind
    apply echo_plain
    exact echo_plain hQ

theorem expandCloudImage_plain {source : String} (hQ : Q () () φ) :
    Spec (BuildT env) (expandCloudImage env source image) () φ Q Exits := by
  have hrest : ∀ img, Spec (BuildT env)
      (if img = true then do
        must (.tool ["rm", "-f", image])
        must (.tool ["qemu-img", "create", "-f", "qcow2", image, env.aiImageSize])
        must (.tool ["virt-resize", "--expand", "/dev/sda1", source, image])
      else do
        echo "virt-resize/qemu-img not found; copying image without offline resize"
        must (.tool ["cp", "-f", source, image])) () φ Q Exits := by
    intro img
    split
    · apply spec_bind
      apply must_plain rfl
      apply spec_bind
      apply must_plain rfl
      exact must_plain rfl hQ
    · apply spec_bind
      apply echo_plain
      exact must_plain rfl hQ
  apply spec_bind
  apply has_plain
  intro resize
  cases resize with
  | true =>
    apply spec_bind
    apply has_plain
    intro img
    exact hrest img
  | false =>
    apply spec_bind
    exact spec_pure (hrest false)

theorem customizeAi_plain {bundle : String} (hQ : Q () () φ) :
    Spec (BuildT env) (customizeAi env image bundle) () φ Q Exits := by
  apply spec_bind
  apply customizeCommon_plain
  apply spec_bind
  apply has_plain
  intro found
  split
  · split
    · exact must_plain rfl hQ
    · exact spec_pure hQ
  · exact spec_pure hQ

end Rules

section Builds

theorem idle_refl {α : Type} {P : α → List String → Prop} {a : α} (h : P a l) :
    Idle l P a () (.idle l) := ⟨l, rfl, fun _ hv => hv, h⟩

theorem vmidExists_spec {Q : Bool → Unit → BuildPhase → Prop} (hv : env.Chooses vmid)
    (hfound : Q true () (.idle (vmid :: l))) (hfree : Q false () (.idle l)) :
    Spec (BuildT env) (vmidExists vmid) () (.idle l) Q Exits := by
  apply spec_bind
  apply spec_bind
  apply spec_await
  intro r
  refine ⟨_, .look hv, spec_pure (spec_pure ?_)⟩
  by_cases hr : r.status = 0
  · simpa [hr] using hfound
  · simpa [hr] using hfree

/-- A build is skipped only where the VMID was found. -/
theorem skipExistingBuild_spec (hv : env.Chooses vmid) :
    Spec (BuildT env) (skipExistingBuild env vmid name) () (.idle l)
      (Idle l fun skipped l' => skipped = true → vmid ∈ l') Exits := by
  have hgrown : ∀ v ∈ l, v ∈ vmid :: l := fun v h => List.mem_cons_of_mem _ h
  apply spec_bind
  apply vmidExists_spec hv
  · split
    · split
      · apply spec_bind
        apply run_plain rfl
        intro _
        exact spec_pure ⟨_, rfl, hgrown, fun _ => List.mem_cons_self⟩
      · exact spec_pure ⟨_, rfl, hgrown, by simp⟩
    · exact spec_pure ⟨_, rfl, hgrown, by simp⟩
  · split
    · next h => cases h
    · exact spec_pure ⟨_, rfl, fun _ h => h, by simp⟩

/-- Where `prepare_vmid` fails, the VMID was found. -/
theorem prepareVmid_spec (hv : env.Chooses vmid) :
    Spec (BuildT env) (prepareVmid env vmid) () (.idle l)
      (Idle l fun st l' => st ≠ 0 → vmid ∈ l') Exits := by
  have hgrown : ∀ v ∈ l, v ∈ vmid :: l := fun v h => List.mem_cons_of_mem _ h
  apply spec_bind
  apply vmidExists_spec hv
  · split
    · split
      · next hreplace =>
        apply spec_bind
        apply run_plain rfl
        intro _
        apply spec_bind
        apply spec_bind
        apply spec_await
        intro r
        refine ⟨_, .stop hv hreplace, spec_pure ?_⟩
        apply spec_bind
        apply spec_await
        intro r'
        exact ⟨_, .destroy hv hreplace, spec_pure ⟨_, rfl, hgrown, fun _ => List.mem_cons_self⟩⟩
      · split
        · apply spec_bind
          apply run_plain rfl
          intro _
          exact spec_pure ⟨_, rfl, hgrown, fun _ => List.mem_cons_self⟩
        · apply spec_bind
          apply run_plain rfl
          intro _
          exact spec_raise Nat.one_ne_zero
    · next h => exact absurd rfl h
  · split
    · next h => cases h
    · exact spec_pure ⟨_, rfl, fun _ h => h, by simp⟩

variable {Q : Unit → Unit → BuildPhase → Prop} {done : List Cmd}

/-- A command on the guest that is being made: it succeeds, or the script fails. -/
theorem must_build {c : Cmd} (hv : env.Chooses vmid) (hc : c.builds = some vmid)
    (hQ : Q () () (.making vmid (done ++ [c]) l)) :
    Spec (BuildT env) (must c) () (.making vmid done l) Q Exits := by
  apply spec_bind
  apply spec_await
  intro r
  by_cases hr : r.status = 0
  · refine ⟨_, .build hc hr, ?_⟩
    rw [if_pos hr]
    exact spec_pure hQ
  · refine ⟨.broken, .spoilt (.inr ⟨done, l, rfl, .inl hc⟩) hv hr, ?_⟩
    rw [if_neg hr]
    exact spec_raise hr

theorem makeTemplate_spec {os : String} (hb : (os, vmid, name) ∈ env.builds)
    (hs : env.selected os = true) :
    Spec (BuildT env) (makeTemplate env vmid name image "l26") () (.idle l)
      (Idle l fun _ l' => vmid ∈ l') Exits := by
  have hv : env.Chooses vmid := ⟨os, name, hb, hs⟩
  apply spec_bind
  apply echo_plain
  apply spec_bind
  apply spec_bind
  apply spec_await
  intro r
  by_cases hr : r.status = 0
  · refine ⟨_, .create hv hr, ?_⟩
    rw [if_pos hr]
    apply spec_pure
    apply spec_bind
    apply must_build hv rfl
    apply spec_bind
    apply spec_await
    intro config
    refine ⟨_, .config, ?_⟩
    split
    · dsimp only
      split
      · apply spec_bind
        apply echo_plain
        exact spec_raise Nat.one_ne_zero
      · next hdisk =>
        apply spec_bind
        apply must_build hv rfl
        apply spec_bind
        apply must_build hv rfl
        apply spec_bind
        apply must_build hv rfl
        apply spec_bind
        apply must_build hv rfl
        apply spec_bind
        apply must_build hv rfl
        apply spec_bind
        apply spec_await
        intro r'
        by_cases hr' : r'.status = 0
        · refine ⟨_, .finish ⟨os, name, image, _, hb, hs, hdisk, rfl⟩ hr', ?_⟩
          rw [if_pos hr']
          exact spec_pure ⟨_, rfl, fun _ h => List.mem_cons_of_mem _ h, List.mem_cons_self⟩
        · refine ⟨.broken, .spoilt (.inr ⟨_, _, rfl, .inr rfl⟩) hv hr', ?_⟩
          rw [if_neg hr']
          exact spec_raise hr'
    · next hfailed => exact spec_raise hfailed
  · refine ⟨.broken, .spoilt (.inl ⟨l, _, rfl, rfl⟩) hv hr, ?_⟩
    rw [if_neg hr]
    exact spec_raise hr

theorem createTemplate_spec {os : String} (hb : (os, vmid, name) ∈ env.builds)
    (hs : env.selected os = true) :
    Spec (BuildT env) (createTemplate env vmid name image) () (.idle l)
      (Idle l fun _ l' => vmid ∈ l') Exits := by
  apply spec_bind
  apply spec_mono (prepareVmid_spec ⟨os, name, hb, hs⟩) _ fun _ _ _ hx => hx
  intro st _ φ' hidle
  obtain ⟨l', rfl, hgrown, hfound⟩ := hidle
  split
  · apply spec_mono (makeTemplate_spec hb hs) _ fun _ _ _ hx => hx
    intro _ _ φ'' hdone
    obtain ⟨l'', rfl, hgrown', hmem⟩ := hdone
    exact ⟨l'', rfl, fun v hv => hgrown' v (hgrown v hv), hmem⟩
  · next hst => exact spec_pure ⟨l', rfl, hgrown, hfound hst⟩

/-- The VMID is settled, if the template is selected. -/
def Settled (env : TemplateEnv) (os vmid : String) (_ : Unit) (l : List String) : Prop :=
  env.selected os = true → vmid ∈ l

/-- Either build: it is skipped, or the image is prepared and a template made of it. -/
theorem build_spec {os : String} {rest : Script Unit} (hv : env.Chooses vmid)
    (hrest : ∀ l', Spec (BuildT env) rest () (.idle l') (Idle l' fun _ l'' => vmid ∈ l'') Exits) :
    Spec (BuildT env) (do
      if ← skipExistingBuild env vmid name then pure ()
      else rest) () (.idle l) (Idle l (Settled env os vmid)) Exits := by
  apply spec_bind
  apply spec_mono (skipExistingBuild_spec hv) _ fun _ _ _ hx => hx
  intro skipped _ φ' hidle
  obtain ⟨l', rfl, hgrown, hfound⟩ := hidle
  split
  · next hskip => exact spec_pure ⟨l', rfl, hgrown, fun _ => hfound hskip⟩
  · apply spec_mono (hrest l') _ fun _ _ _ hx => hx
    intro _ _ φ'' hdone
    obtain ⟨l'', rfl, hgrown', hmem⟩ := hdone
    exact ⟨l'', rfl, fun v hv => hgrown' v (hgrown v hv), fun _ => hmem⟩

theorem buildBase_spec {os url : String} (hb : (os, vmid, name) ∈ env.builds) :
    Spec (BuildT env) (buildBase env os vmid name url) () (.idle l)
      (Idle l (Settled env os vmid)) Exits := by
  unfold buildBase
  split
  · next hs =>
    apply build_spec ⟨os, name, hb, hs⟩
    intro l'
    apply spec_bind
    apply download_plain
    apply spec_bind
    apply must_plain rfl
    apply spec_bind
    apply customizeCommon_plain
    exact createTemplate_spec hb hs
  · next hs =>
    apply echo_plain
    exact idle_refl fun h => absurd h hs

theorem buildAi_spec {bundle : String} (hb : (bundle, vmid, name) ∈ env.builds) :
    Spec (BuildT env) (buildAi env bundle vmid name) () (.idle l)
      (Idle l (Settled env bundle vmid)) Exits := by
  unfold buildAi
  split
  · next hs =>
    apply build_spec ⟨bundle, name, hb, hs⟩
    intro l'
    apply spec_bind
    apply download_plain
    apply spec_bind
    apply expandCloudImage_plain
    apply spec_bind
    apply customizeAi_plain
    exact createTemplate_spec hb hs
  · next hs =>
    apply echo_plain
    exact idle_refl fun h => absurd h hs

/-- Where the script ends well, every selected VMID is settled. -/
def AllSettled (env : TemplateEnv) (_ : Unit) (_ : Unit) (φ : BuildPhase) : Prop :=
  ∃ l, φ = .idle l ∧ ∀ vmid, env.Chooses vmid → vmid ∈ l

/-- A build, and those that come after it. -/
theorem then_spec {m rest : Script Unit} {os : String} {Q : Unit → Unit → BuildPhase → Prop}
    (hm : Spec (BuildT env) m () (.idle l) (Idle l (Settled env os vmid)) Exits)
    (hrest : ∀ l', (∀ v ∈ l, v ∈ l') → (env.selected os = true → vmid ∈ l') →
      Spec (BuildT env) rest () (.idle l') Q Exits) :
    Spec (BuildT env) (do m; rest) () (.idle l) Q Exits := by
  apply spec_bind
  apply spec_mono hm _ fun _ _ _ hx => hx
  intro _ _ φ' hidle
  obtain ⟨l', rfl, hgrown, hsettled⟩ := hidle
  exact hrest l' hgrown hsettled

theorem buildTemplates_spec :
    Spec (BuildT env) (buildTemplates env) () (.idle []) (AllSettled env) Exits := by
  apply then_spec (buildBase_spec (by simp [TemplateEnv.builds]))
  intro l₁ _ hdebian
  apply then_spec (buildBase_spec (by simp [TemplateEnv.builds]))
  intro l₂ hgrown₂ hubuntu
  apply then_spec (buildBase_spec (by simp [TemplateEnv.builds]))
  intro l₃ hgrown₃ hfedora
  apply then_spec (buildAi_spec (by simp [TemplateEnv.builds]))
  intro l₄ hgrown₄ hhermes
  apply then_spec (buildAi_spec (by simp [TemplateEnv.builds]))
  intro l₅ hgrown₅ hopenclaw
  apply spec_mono (buildAi_spec (by simp [TemplateEnv.builds])) _ fun _ _ _ hx => hx
  intro _ _ φ' hidle
  obtain ⟨l₆, rfl, hgrown₆, hclaude⟩ := hidle
  refine ⟨l₆, rfl, ?_⟩
  intro vmid hv
  obtain ⟨os, name, hmem, hs⟩ := hv
  simp only [TemplateEnv.builds, List.mem_cons, Prod.mk.injEq, List.not_mem_nil, or_false] at hmem
  rcases hmem with ⟨rfl, rfl, -⟩ | ⟨rfl, rfl, -⟩ | ⟨rfl, rfl, -⟩ | ⟨rfl, rfl, -⟩ | ⟨rfl, rfl, -⟩ |
    ⟨rfl, rfl, -⟩
  · exact hgrown₆ _ (hgrown₅ _ (hgrown₄ _ (hgrown₃ _ (hgrown₂ _ (hdebian hs)))))
  · exact hgrown₆ _ (hgrown₅ _ (hgrown₄ _ (hgrown₃ _ (hubuntu hs))))
  · exact hgrown₆ _ (hgrown₅ _ (hgrown₄ _ (hfedora hs)))
  · exact hgrown₆ _ (hgrown₅ _ (hhermes hs))
  · exact hgrown₆ _ (hopenclaw hs)
  · exact hclaude hs

theorem main_spec : Spec (BuildT env) (main env) () (.idle []) (AllSettled env) Exits := by
  apply spec_bind
  apply spec_await
  intro uid
  refine ⟨_, .plain rfl, ?_⟩
  split
  · apply spec_bind
    apply need_plain
    apply spec_bind
    apply need_plain
    have hrest : Spec (BuildT env) (do
        must (.tool ["mkdir", "-p", env.workdir])
        buildTemplates env) () (.idle []) (AllSettled env) Exits := by
      apply spec_bind
      apply must_plain rfl
      exact buildTemplates_spec
    apply spec_bind
    apply has_plain
    intro curl
    split
    · exact hrest
    · apply spec_bind
      exact need_plain hrest
  · apply spec_bind
    apply echo_plain
    exact spec_raise Nat.one_ne_zero

end Builds

/-- The guest at the VMID is the script's and has had these commands, or others have meddled with it. -/
def Build.Making (s : Build) (vmid : String) (done : List Cmd) : Prop :=
  s.guests vmid = some (.mine done) ∨
    vmid ∈ s.meddled ∧ ∀ done', s.guests vmid ≠ some (.mine done')

/-- What the phase says of the guests. -/
def BuildPhase.Holds (env : TemplateEnv) (s : Build) : BuildPhase → Prop
  | idle l => (∀ v ∈ l, v ∈ s.settled) ∧
      ∀ v done, s.guests v = some (.mine done) → env.Complete v done
  | making vmid done l => (∀ v ∈ l, v ∈ s.settled) ∧ env.Chooses vmid ∧ s.Making vmid done ∧
      ∀ v done', v ≠ vmid → s.guests v = some (.mine done') → env.Complete v done'
  | broken => True

/-- What a command of the script may name, and change. -/
structure Cmd.Allowed (env : TemplateEnv) (s : Build) (c : Cmd) : Prop where
  chosen : ∀ v, c.vmid = some v → env.Chooses v
  own : ∀ v, c.changes = some v → env.replaceExisting ≠ "1" →
    (∃ done, s.guests v = some (.mine done)) ∨ v ∈ s.meddled

theorem Build.Making.own {s : Build} {vmid : String} {done : List Cmd} (h : s.Making vmid done) :
    (∃ done, s.guests vmid = some (.mine done)) ∨ vmid ∈ s.meddled :=
  h.imp (fun hmine => ⟨done, hmine⟩) And.left

theorem Cmd.Allowed.of_vmid {s : Build} {c : Cmd} {v : String}
    (hv : c.vmid = some v) (hchosen : env.Chooses v)
    (hown : c.changes = none ∨ env.replaceExisting = "1" ∨
      (∃ done, s.guests v = some (.mine done)) ∨ v ∈ s.meddled) :
    c.Allowed env s where
  chosen v' hv' := by
    rw [hv] at hv'
    cases hv'
    exact hchosen
  own v' hv' hnot := by
    rcases hown with hnone | hreplace | hmine
    · rw [hnone] at hv'
      cases hv'
    · exact absurd hreplace hnot
    · have hsame : c.vmid = some v' := by
        cases c <;> simp_all [Cmd.changes, Cmd.vmid]
      rw [hv] at hsame
      cases hsame
      exact hmine

theorem Cmd.vmid_of_builds {c : Cmd} {v : String} (h : c.builds = some v) : c.vmid = some v := by
  cases c <;> simp_all [Cmd.builds, Cmd.vmid]

section Step
variable {s : Build} {c : Cmd} {r : Reply} {φ' : BuildPhase}

theorem BuildT.allowed (ht : BuildT env φ c r φ') (hφ : φ.Holds env s) : c.Allowed env s := by
  cases ht with
  | plain hc =>
    have hnone : c.changes = none := by
      cases c <;> simp_all [Cmd.vmid, Cmd.changes]
    exact ⟨fun v hv => by simp [hc] at hv, fun v hv => by simp [hnone] at hv⟩
  | look hchosen | create hchosen _ => exact .of_vmid rfl hchosen (.inl rfl)
  | stop hchosen hreplace | destroy hchosen hreplace => exact .of_vmid rfl hchosen (.inr (.inl hreplace))
  | build hc _ => exact .of_vmid (Cmd.vmid_of_builds hc) hφ.2.1 (.inr (.inr hφ.2.2.1.own))
  | config => exact .of_vmid rfl hφ.2.1 (.inl rfl)
  | finish _ _ => exact .of_vmid rfl hφ.2.1 (.inr (.inr hφ.2.2.1.own))
  | spoilt hwhere hchosen _ =>
    rcases hwhere with ⟨l, options, rfl, rfl⟩ | ⟨done, l, rfl, hc | rfl⟩
    · exact .of_vmid rfl hchosen (.inl rfl)
    · exact .of_vmid (Cmd.vmid_of_builds hc) hchosen (.inr (.inr hφ.2.2.1.own))
    · exact .of_vmid rfl hchosen (.inr (.inr hφ.2.2.1.own))

/-- The state after a command. -/
def Build.after (s : Build) (c : Cmd) (r : Reply) (guests : String → Option Guest)
    (script : Prog Cmd (fun _ => Reply) (Except Nat Unit × Unit)) : Build :=
  { s with
    guests
    settled := (if r.status = 0 then c.settles.toList else []) ++ s.settled
    script }

variable {guests : String → Option Guest} {half : Bool}
  {script : Prog Cmd (fun _ => Reply) (Except Nat Unit × Unit)}

/-- A command that leaves the guests as they are. -/
theorem BuildPhase.Holds.after (h : φ.Holds env s) : φ.Holds env (s.after c r s.guests script) := by
  have hgrown : ∀ v, v ∈ s.settled → v ∈ (s.after c r s.guests script).settled :=
    fun v hv => List.mem_append_right _ hv
  cases φ with
  | idle l => exact ⟨fun v hv => hgrown v (h.1 v hv), h.2⟩
  | making vmid done l => exact ⟨fun v hv => hgrown v (h.1 v hv), h.2⟩
  | broken => trivial

theorem act_mine {vmid : String} {done : List Cmd} (hc : c.builds = some vmid ∨ c = .template vmid)
    (hr : r.status = 0) (hmine : s.guests vmid = some (.mine done)) :
    c.act r half s.guests = some (Function.update s.guests vmid (some (.mine (done ++ [c])))) := by
  rcases hc with hc | rfl
  · cases c <;> cases hc <;> simp only [Cmd.act, hmine, hr, if_true]
  · simp only [Cmd.act, hmine, hr, if_true]

theorem act_not_mine {vmid : String} (hc : c.builds = some vmid ∨ c = .template vmid)
    (hnot : ∀ done, s.guests vmid ≠ some (.mine done)) : c.act r half s.guests = some s.guests := by
  have hact : ∀ g, s.guests vmid = g → (g = none ∨ g = some .other) →
      c.act r half s.guests = some s.guests := by
    rintro g hg (rfl | rfl)
    · rcases hc with hc | rfl
      · cases c <;> cases hc <;> simp only [Cmd.act, hg]
      · simp only [Cmd.act, hg]
    · rcases hc with hc | rfl
      · cases c <;> cases hc <;> simp only [Cmd.act, hg]
      · simp only [Cmd.act, hg]
  cases hg : s.guests vmid with
  | none => exact hact _ hg (.inl rfl)
  | some g =>
    cases g with
    | other => exact hact _ hg (.inr rfl)
    | mine done => exact absurd hg (hnot done)

/-- A command of the build reaches the script's own guest, and no other. -/
theorem Build.Making.act {vmid : String} {done : List Cmd} (h : s.Making vmid done)
    (hc : c.builds = some vmid ∨ c = .template vmid) (hr : r.status = 0)
    (hact : c.act r half s.guests = some guests) :
    (s.after c r guests script).Making vmid (done ++ [c]) ∧ ∀ v, v ≠ vmid → guests v = s.guests v := by
  rcases h with hmine | ⟨hin, hnot⟩
  · obtain rfl := Option.some.inj ((act_mine hc hr hmine).symm.trans hact)
    exact ⟨.inl (Function.update_self _ _ _), fun v hne => Function.update_of_ne hne _ _⟩
  · obtain rfl := Option.some.inj ((act_not_mine hc hnot).symm.trans hact)
    exact ⟨.inr ⟨hin, hnot⟩, fun _ _ => rfl⟩

theorem BuildT.holds (ht : BuildT env φ c r φ') (hφ : φ.Holds env s)
    (hact : c.act r half s.guests = some guests) : φ'.Holds env (s.after c r guests script) := by
  have hgrown : ∀ l : List String, (∀ v ∈ l, v ∈ s.settled) →
      ∀ v ∈ l, v ∈ (s.after c r guests script).settled :=
    fun l hl v hv => List.mem_append_right _ (hl v hv)
  cases ht with
  | plain hc =>
    have hsame : guests = s.guests := by
      cases c <;> simp_all [Cmd.vmid, Cmd.act]
    subst hsame
    exact hφ.after
  | config | stop _ _ =>
    cases hact
    exact hφ.after
  | @look vmid l _ _ =>
    simp only [Cmd.act, Option.ite_none_left_eq_some, Option.some.injEq] at hact
    obtain ⟨-, rfl⟩ := hact
    refine ⟨?_, hφ.2⟩
    by_cases hr : r.status = 0
    · simp only [hr, if_true, List.mem_cons]
      rintro v (rfl | hv)
      · simp [Build.after, hr, Cmd.settles]
      · exact hgrown l hφ.1 v hv
    · simp only [hr, if_false]
      exact hgrown l hφ.1
  | @destroy vmid l _ _ _ =>
    have hless : ∀ v done, guests v = some (.mine done) → s.guests v = some (.mine done) := by
      intro v done hv
      simp only [Cmd.act] at hact
      split at hact <;> cases hact
      · by_cases hvv : v = vmid
        · subst hvv
          simp at hv
        · rwa [Function.update_of_ne hvv] at hv
      · exact hv
    exact ⟨hgrown l hφ.1, fun v done hv => hφ.2 v done (hless v done hv)⟩
  | @create vmid options l _ hchosen hr =>
    have hguests : guests = Function.update s.guests vmid (some (.mine [.create vmid options])) := by
      simp only [Cmd.act, hr, if_true] at hact
      split at hact <;> cases hact
      rfl
    subst hguests
    refine ⟨hgrown l hφ.1, hchosen, .inl (Function.update_self _ _ _), ?_⟩
    intro v done hne hv
    exact hφ.2 v done ((Function.update_of_ne hne _ _).symm.trans hv)
  | @build vmid c done l _ hc hr =>
    obtain ⟨hl, hchosen, hmaking, hothers⟩ := hφ
    obtain ⟨hmaking', hsame⟩ := hmaking.act (.inl hc) hr hact
    refine ⟨hgrown l hl, hchosen, hmaking', ?_⟩
    intro v done' hne hv
    exact hothers v done' hne ((hsame v hne).symm.trans hv)
  | @finish vmid done l _ hcomplete hr =>
    obtain ⟨hl, hchosen, hmaking, hothers⟩ := hφ
    obtain ⟨hmaking', hsame⟩ := hmaking.act (.inr rfl) hr hact
    refine ⟨?_, ?_⟩
    · intro v hv
      rcases List.mem_cons.mp hv with rfl | hv
      · simp [Build.after, hr, Cmd.settles]
      · exact hgrown l hl v hv
    · intro v done' hv
      by_cases hvv : v = vmid
      · subst hvv
        rcases hmaking' with hmine | ⟨-, hnot⟩
        · have hself : some (Guest.mine (done ++ [.template v])) = some (.mine done') :=
            hmine.symm.trans hv
          cases hself
          exact hcomplete
        · exact absurd hv (hnot done')
      · exact hothers v done' hvv ((hsame v hvv).symm.trans hv)
  | spoilt _ _ _ => trivial

/-- What others do at one VMID leaves the phase as it is. -/
theorem BuildPhase.Holds.disturbed {v : String} {there : Bool} (h : φ.Holds env s) :
    φ.Holds env (s.disturbed v there) := by
  have hgone : ∀ done, (s.disturbed v there).guests v ≠ some (.mine done) := by
    intro done
    unfold Build.disturbed
    dsimp only
    rw [Function.update_self]
    cases there <;> nofun
  have hsame : ∀ v', v' ≠ v → (s.disturbed v there).guests v' = s.guests v' :=
    fun v' hne => Function.update_of_ne hne _ _
  have hmine : ∀ v' done, (s.disturbed v there).guests v' = some (.mine done) →
      s.guests v' = some (.mine done) := by
    intro v' done h'
    by_cases hvv : v' = v
    · subst hvv
      exact absurd h' (hgone done)
    · rwa [hsame v' hvv] at h'
  have hmeddled : ∀ v' ∈ s.meddled, v' ∈ (s.disturbed v there).meddled := by
    intro v' hv'
    unfold Build.disturbed
    dsimp only
    split
    · exact List.mem_cons_of_mem _ hv'
    · exact hv'
  cases φ with
  | idle l => exact ⟨h.1, fun v' done h' => h.2 v' done (hmine v' done h')⟩
  | making vmid done l =>
    obtain ⟨hl, hchosen, hmaking, hothers⟩ := h
    refine ⟨hl, hchosen, ?_, fun v' done' hne' h' => hothers v' done' hne' (hmine v' done' h')⟩
    by_cases hvv : vmid = v
    · subst hvv
      refine .inr ⟨?_, hgone⟩
      rcases hmaking with hown | ⟨hin, -⟩
      · unfold Build.disturbed
        rw [hown]
        exact List.mem_cons_self ..
      · exact hmeddled vmid hin
    · rcases hmaking with hown | ⟨hin, hnot⟩
      · exact .inl ((hsame vmid hvv).trans hown)
      · exact .inr ⟨hmeddled vmid hin, fun done' h' => hnot done' (hmine vmid done' h')⟩
  | broken => trivial

end Step

/-- Where the script may end. -/
def Ends (env : TemplateEnv) (out : Except Nat Unit × Unit) (φ : BuildPhase) : Prop :=
  match out.1 with
  | .ok a => AllSettled env a out.2 φ
  | .error x => Exits x out.2 φ

def OnCourse (env : TemplateEnv) (s : Build) : Prop :=
  ∃ φ : BuildPhase, φ.Holds env s ∧ s.script.Follows (BuildT env) φ (Ends env)

theorem Build.Reachable.onCourse {s : Build} (h : Build.Reachable env s) : OnCourse env s := by
  apply Reach.invariant _ _ h
  · intro s hs
    obtain ⟨hsettled, -, hscript, hguests⟩ := hs
    refine ⟨.idle [], ⟨fun v hv => (by cases hv), ?_⟩, ?_⟩
    · intro v done hv
      rcases hguests v with hnone | hother
      · rw [hnone] at hv
        cases hv
      · rw [hother] at hv
        cases hv
    · rw [hscript]
      apply Prog.follows_mono main_spec.follows
      intro out φ hend
      obtain ⟨r, u⟩ := out
      cases r with
      | ok a => exact hend
      | error x => exact hend
  · intro s l s' hs hstep _
    obtain ⟨φ, hholds, hfollows⟩ := hs
    cases l with
    | others v there =>
      cases hstep
      exact ⟨φ, hholds.disturbed, hfollows⟩
    | script r half =>
      cases hscript : s.script with
      | ret a =>
        simp only [Build.step, hscript] at hstep
        cases hstep
      | await c k =>
        simp only [Build.step, hscript, Option.map_eq_some_iff] at hstep
        obtain ⟨guests, hact, rfl⟩ := hstep
        rw [hscript] at hfollows
        obtain ⟨φ', ht, hrest⟩ := hfollows r
        exact ⟨φ', ht.holds hholds hact, hrest⟩

/-- Whatever the others on the node do meanwhile, and however commands fail: the script names no VMID but
those of selected templates; unless it is told to replace what exists, it changes no guest that it has not
made itself, as long as the others leave those it made alone; and where it ends well, every guest it made
that the others left alone has come through a whole build, and every selected VMID was found to exist or
has been made a template. -/
theorem templates_built {s : Build} (h : Build.Reachable env s) :
    (∀ c k, s.script = .await c k → c.Allowed env s) ∧
    (s.script = .ret (.ok (), ()) →
      (∀ v done, s.guests v = some (.mine done) → env.Complete v done) ∧
      ∀ v, env.Chooses v → v ∈ s.settled) := by
  obtain ⟨φ, hholds, hfollows⟩ := h.onCourse
  constructor
  · intro c k hscript
    rw [hscript] at hfollows
    obtain ⟨φ', ht, _⟩ := hfollows ⟨0, []⟩
    exact ht.allowed hholds
  · intro hscript
    rw [hscript] at hfollows
    obtain ⟨l, rfl, hall⟩ := hfollows
    exact ⟨hholds.2, fun v hv => hholds.1 v (hall v hv)⟩

/-- A node without guests, of whose templates only Debian's is wanted. -/
def debianOnly : TemplateEnv := { templateFilter := "debian" }

def emptyNode : Build := { guests := fun _ => none, script := main debianOnly () }

/-- The script builds the template; `virt-customize` is not installed. -/
def buildsDebian : List BuildLabel :=
  let ok (n : Nat) := List.replicate n (BuildLabel.script ⟨0, []⟩ false)
  let no := BuildLabel.script ⟨1, []⟩ false
  .script ⟨0, ["0"]⟩ false :: ok 4 ++ [no] ++ ok 1 ++ [no] ++ ok 5 ++ [no] ++ ok 2 ++ [no] ++ ok 3 ++
    [.script ⟨0, ["scsihw: virtio-scsi-pci", "unused0: local-lvm:vm-9000-disk-0"]⟩ false] ++ ok 11

/-- The script has ended well, and has settled the VMID. -/
def Build.ended (s : Build) (vmid : String) : Bool :=
  match s.script with
  | .ret (.ok (), ()) => decide (vmid ∈ s.settled)
  | _ => false

theorem templates_built_debian : ∃ s, Build.Reachable debianOnly s ∧
    s.script = .ret (.ok (), ()) ∧ "9000" ∈ s.settled ∧
    (∀ c k, s.script = .await c k → c.Allowed debianOnly s) ∧
    (s.script = .ret (.ok (), ()) →
      (∀ v done, s.guests v = some (.mine done) → debianOnly.Complete v done) ∧
      ∀ v, debianOnly.Chooses v → v ∈ s.settled) := by
  have hrun : (emptyNode.run buildsDebian).any (fun s => s.ended "9000") = true := by decide +kernel
  obtain ⟨s, hs, hends⟩ := (Option.any_eq_true _ _).mp hrun
  have hstart : Build.Reachable debianOnly emptyNode := .start ⟨rfl, rfl, rfl, fun v => .inl rfl⟩
  have hreach := hstart.run hs
  unfold Build.ended at hends
  split at hends
  · next hscript => exact ⟨s, hreach, hscript, of_decide_eq_true hends, templates_built hreach⟩
  · cases hends

end Clusteration.Scripts
