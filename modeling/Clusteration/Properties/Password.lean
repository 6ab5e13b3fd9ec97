import Clusteration.Auth.Phases

open Async Transition Task

namespace Clusteration.Auth

/-- Every hash it commits is one of the password it was given. -/
def Hashes (pwd : CryptContext) (newPassword : Option String) : Eff → Prop
  | .commitPassword _ _ passwordHash =>
    ∃ password salt, newPassword = some password ∧ pwd.hash salt password = some passwordHash
  | _ => True

/-- A request goes on as the request it is. -/
def Asked (pwd : CryptContext) (r : Request) (e : Eff) (_ : Ans e) (r' : Request) : Prop :=
  r' = r ∧ Hashes pwd r.newPassword e

theorem serve_asked (settings : Settings) (r : Request) :
    (serve settings r).Follows (Asked settings.pwd) r fun _ _ => True := by
  have hhashes : ∀ {r log e}, Needs settings r log e → Hashes settings.pwd r.newPassword e := by
    intro r log e h
    cases e with
    | commitPassword entry insert passwordHash =>
      obtain ⟨⟨password, salt, hnew, -, hhash⟩, -⟩ := h
      exact ⟨password, salt, hnew, hhash⟩
    | _ => trivial
  apply Prog.follows_map Prod.fst (serve_needs settings r) _ fun _ _ h => h
  rintro φ e a φ' ⟨hneeds, rfl⟩
  exact ⟨rfl, hhashes hneeds⟩

/-- The hash in the database is one of the password last set, or the first one a process had in its
environment. -/
def Remembers (pwd : CryptContext) (deeds : List Deed) (credential : Option String) : Prop :=
  match lastSet deeds with
  | some password => ∃ salt passwordHash,
      pwd.hash salt password = some passwordHash ∧ credential = some passwordHash
  | none => credential = firstHash deeds

structure Service.Kept (w : Service) : Prop where
  crew : Crew (Asked w.sys.settings.pwd) (fun _ _ => True) w.sys.requests w.asked
  credential : Remembers w.sys.settings.pwd w.deeds w.sys.shared.credential
  environment : w.sys.shared.credential = none → w.sys.settings.adminPasswordHash = ""

/-- An await leaves the stored hash alone, or it commits another one. -/
theorem act_credential {pwd : CryptContext} {s s' : Shared} {e : Eff} {a : Ans e}
    (h : Act pwd s e a s') (i : Nat) :
    (s'.credential = s.credential ∧ ∀ asked, (Label.await i e a).deeds asked = []) ∨
    ∃ entry insert passwordHash,
      Label.await i e a = .await i (.commitPassword entry insert passwordHash) true ∧
      s'.credential = some passwordHash := by
  obtain ⟨input, h⟩ := h
  cases e with
  | commitPassword entry insert passwordHash =>
    cases input <;> simp only [perform, reduceCtorEq] at h
    split at h
    · cases h
      exact .inl ⟨rfl, fun _ => rfl⟩
    · cases h
      exact .inr ⟨entry, insert, passwordHash, rfl, rfl⟩
  | _ =>
    refine .inl ⟨?_, fun _ => rfl⟩
    cases input <;> simp only [perform, reduceCtorEq] at h
    all_goals first
      | (cases h; rfl)
      | (split at h <;> first | (cases h; rfl) | (split at h <;> cases h; rfl) | cases h)

section Runs
variable {w w' : Service} {settings : Settings} {db : Shared} {deeds : List Deed}

/-- The seed keeps a hash that is there, and takes the environment's one otherwise. -/
theorem Remembers.seeded {pwd : CryptContext} {credential : Option String}
    (h : Remembers pwd deeds credential) (passwordHash : String) :
    Remembers pwd (.started passwordHash :: deeds)
      (credential.or (nonempty passwordHash)) := by
  unfold Remembers at h ⊢
  simp only [lastSet, firstHash]
  cases hset : lastSet deeds with
  | some password =>
    simp only [hset] at h
    obtain ⟨salt, stored, hhash, rfl⟩ := h
    exact ⟨salt, stored, hhash, rfl⟩
  | none =>
    simp only [hset] at h
    rw [h]

/-- A process that has started remembers what the database did. -/
theorem Starts.kept (hs : Starts settings db deeds w)
    (hname : settings.normUsername settings.adminUsername ≠ "")
    (hdb : Remembers settings.pwd deeds db.credential) : w.Kept := by
  have hshared : w.sys.shared = seeded settings db :=
    (seedAdminCredential_total hname).each _ _ hs.seed
  have hcred : w.sys.shared.credential = db.credential.or (nonempty settings.adminPasswordHash) := by
    rw [hshared]
    rfl
  constructor
  case crew =>
    rw [hs.requests, hs.asked]
    exact .nil
  case credential =>
    rw [hs.environment, hs.deeds, hcred]
    exact hdb.seeded _
  case environment =>
    rw [hs.environment, hcred]
    intro hnone
    rw [Option.or_eq_none_iff] at hnone
    simpa [nonempty] using hnone.2

/-- One step of a process. -/
theorem Service.Kept.within {l : Auth.Label} {sys : Sys} (h : w.Kept) (hs : Auth.Step w.sys l sys) :
    Service.Kept ⟨sys, w.asked ++ l.asks, l.deeds w.asked ++ w.deeds⟩ := by
  cases hs with
  | tick hle =>
    refine ⟨?_, h.credential, h.environment⟩
    simpa only [Label.asks, List.append_nil] using h.crew
  | receive r => exact ⟨h.crew.join (serve_asked _ r), h.credential, h.environment⟩
  | @await i e k a sh hp hact =>
    obtain ⟨r, r', hr, ⟨rfl, hhash⟩, hcrew⟩ := h.crew.await hp a
    -- the request is still the one that was asked
    have hsame : w.asked.set i r' = w.asked := by
      obtain ⟨hlt, hget⟩ := List.getElem?_eq_some_iff.mp hr
      rw [← hget, List.set_getElem_self]
    rw [hsame] at hcrew
    have hcrew' : Crew (Asked w.sys.settings.pwd) (fun _ _ => True) (w.sys.requests.set i (k a))
        (w.asked ++ (Label.await i e a).asks) := by
      simpa only [Label.asks, List.append_nil] using hcrew
    rcases act_credential hact i with ⟨hcred, hdeeds⟩ | ⟨entry, insert, passwordHash, hl, hcred⟩
    · constructor
      · exact hcrew'
      · rw [hdeeds, hcred]
        exact h.credential
      · rw [hcred]
        exact h.environment
    · cases hl
      obtain ⟨password, salt, hpassword, hhash⟩ := hhash
      have hdeeds : (Label.await i (.commitPassword entry insert passwordHash) true).deeds w.asked =
          [.set password] := by
        simp [Label.deeds, hr, hpassword]
      constructor
      · exact hcrew'
      · rw [hdeeds]
        exact ⟨salt, passwordHash, hhash, hcred⟩
      · intro hnone
        rw [hcred] at hnone
        cases hnone

theorem Service.Reachable.kept (h : w.Reachable)
    (hname : w.sys.settings.normUsername w.sys.settings.adminUsername ≠ "") : w.Kept := by
  induction h with
  | start hi =>
    obtain ⟨settings, monotonic, utcnow, hs⟩ := hi
    rw [hs.environment] at hname
    exact hs.kept hname rfl
  | @next w _ _ _ hstep _ ih =>
    cases hstep with
    | within hs =>
      have hsame := Auth.Step.settings hs
      rw [hsame] at hname
      exact (ih hname).within hs
    | restart hsame hs =>
      rw [hs.environment] at hname
      have hname' : w.sys.settings.normUsername w.sys.settings.adminUsername ≠ "" := by
        unfold Settings.normUsername at hname ⊢
        rwa [← hsame.adminUsername, ← hsame.casefold]
      refine hs.kept hname ?_
      rw [hsame.pwd]
      exact (ih hname').credential

end Runs

theorem verified_iff {valid : Option Bool} : valid.getD false = true ↔ valid = some true := by
  cases valid <;> simp

/-- The password the service goes by: the one last set, or one of the first hash a process had in
its environment. -/
def Current (pwd : CryptContext) (deeds : List Deed) (password : String) : Prop :=
  match lastSet deeds with
  | some last => password = last
  | none => ∃ passwordHash, firstHash deeds = some passwordHash ∧
      pwd.verify password passwordHash = some true

/-- Whatever happened before, `verify_admin` comes to an end, and accepts the administrator's name
with the current password and nothing else. -/
theorem verifyAdmin_accepts_iff {w : Service} (hw : w.Reachable)
    (hblank : strip w.sys.settings.adminUsername ≠ "")
    (hfold : ∀ name, w.sys.settings.casefold name = "" → name = "")
    (hpwd : ∀ salt secret passwordHash, w.sys.settings.pwd.hash salt secret = some passwordHash →
      ∀ guess, w.sys.settings.pwd.verify guess passwordHash = some true ↔ guess = secret)
    (username password : String) :
    Total (Act w.sys.settings.pwd) (verifyAdmin w.sys.settings username password) () w.sys.shared
      (fun accepted _ _ => accepted = true ↔
        w.sys.settings.normUsername username =
          w.sys.settings.normUsername w.sys.settings.adminUsername ∧
        Current w.sys.settings.pwd w.deeds password)
      fun _ _ _ => False := by
  have hname : w.sys.settings.normUsername w.sys.settings.adminUsername ≠ "" :=
    fun h => hblank (hfold _ h)
  have hkept := hw.kept hname
  unfold verifyAdmin
  split
  · next hother =>
    apply total_pure
    simp [hother]
  next hadmin =>
  rw [not_not] at hadmin
  refine total_bind (total_await ⟨_, _, act_selectCredential.mpr ⟨rfl, rfl⟩⟩ fun cred sh hact => ?_)
  obtain ⟨rfl, rfl⟩ := act_selectCredential.mp hact
  have hremembers := hkept.credential
  unfold Remembers at hremembers
  unfold Current
  cases hset : lastSet w.deeds with
  | some last =>
    simp only [hset] at hremembers ⊢
    obtain ⟨salt, passwordHash, hhash, hcred⟩ := hremembers
    rw [hcred]
    apply total_pure
    rw [← hpwd salt last passwordHash hhash password, verified_iff]
    simp [hadmin]
  | none =>
    simp only [hset] at hremembers ⊢
    rw [← hremembers]
    cases hcred : w.sys.shared.credential with
    | some passwordHash =>
      apply total_pure
      rw [verified_iff]
      simp [hadmin]
    | none =>
      -- no row, and then no hash in the environment to fall back on
      have hempty := hkept.environment hcred
      simp only [verifyLogin, hadmin, hempty, ne_eq, not_true_eq_false, if_false, if_true]
      apply total_pure
      simp

/-- A process that has just started on this database. -/
def Service.started (settings : Settings) (db : Shared) (deeds : List Deed) : Service where
  sys := { shared := seeded settings db, settings }
  deeds := .started settings.adminPasswordHash :: deeds

theorem started_starts {settings : Settings} {db : Shared} {deeds : List Deed}
    (hname : settings.normUsername settings.adminUsername ≠ "") :
    Starts settings db deeds (Service.started settings db deeds) := by
  refine ⟨rfl, rfl, rfl, rfl, ?_⟩
  have htotal := @seedAdminCredential_total settings db hname
  obtain ⟨⟨r, s⟩, sh, hends⟩ := htotal.can
  have hseeded := htotal.each _ _ hends
  cases r with
  | error x => exact hseeded.elim
  | ok u =>
    obtain rfl : sh = seeded settings db := hseeded
    exact hends

/-- One process follows choices. -/
def Service.follow (w : Service) : List Choice → Option Service
  | [] => some w
  | c :: cs => (w.sys.step c).bind fun (l, sys) =>
    Service.follow ⟨sys, w.asked ++ l.asks, l.deeds w.asked ++ w.deeds⟩ cs

theorem follow_reachable {w w' : Service} {cs : List Choice} (hw : w.Reachable)
    (h : w.follow cs = some w') : w'.Reachable := by
  induction cs generalizing w with
  | nil =>
    cases h
    exact hw
  | cons c cs ih =>
    simp only [Service.follow, Option.bind_eq_some_iff] at h
    obtain ⟨⟨l, sys⟩, hstep, h⟩ := h
    exact ih (.next hw (.within (step_sound hstep)) trivial) h

namespace Trials

def environment (passwordHash : String) : Settings :=
  { settings with adminPasswordHash := passwordHash }

theorem environment_name (passwordHash : String) :
    (environment passwordHash).normUsername (environment passwordHash).adminUsername ≠ "" := by
  change strip "admin" ≠ ""
  decide +kernel

/-- The second process, and how its password is changed. -/
def second : Service :=
  Service.started (environment "other")
    ((Service.started (environment "secret") {} []).sys.shared.stored 0 0) [.started "secret"]

def changing : List Choice :=
  .receive (.changePassword true "secret" "password") :: runs 0 [.none, .none, .nat 0, .none, .none]

theorem changing_follows : (second.follow changing).isSome = true := by decide +kernel

def third : Service :=
  Service.started (environment "third")
    (((second.follow changing).get changing_follows).sys.shared.stored 0 0)
    ((second.follow changing).get changing_follows).deeds

theorem third_reachable : third.Reachable := by
  have hfirst : (Service.started (environment "secret") {} []).Reachable :=
    .start ⟨_, 0, 0, started_starts (environment_name _)⟩
  have hsame : (environment "secret").SameAdmin (environment "other") := ⟨rfl, rfl, rfl⟩
  have hsecond : second.Reachable :=
    .next hfirst (.restart hsame (started_starts (environment_name _))) trivial
  have hchanged : ((second.follow changing).get changing_follows).Reachable :=
    follow_reachable hsecond (Option.some_get _).symm
  have hsame' : ((second.follow changing).get changing_follows).sys.settings.SameAdmin
      (environment "third") := ⟨rfl, rfl, rfl⟩
  exact .next hchanged (.restart hsame' (started_starts (environment_name _))) trivial

end Trials

open Trials

theorem verifyAdmin_accepts_changed : third.deeds =
      [.started "third", .set "password", .started "other", .started "secret"] ∧
    ∀ password, Total (Act third.sys.settings.pwd) (verifyAdmin third.sys.settings "admin" password) ()
      third.sys.shared (fun accepted _ _ => accepted = true ↔ password = "password")
      fun _ _ _ => False := by
  have hdeeds : third.deeds =
      [.started "third", .set "password", .started "other", .started "secret"] := by decide +kernel
  have hpwd : ∀ salt secret passwordHash,
      third.sys.settings.pwd.hash salt secret = some passwordHash → ∀ guess,
        third.sys.settings.pwd.verify guess passwordHash = some true ↔ guess = secret := by
    intro salt secret passwordHash hhash guess
    cases hhash
    change some (guess == secret) = some true ↔ guess = secret
    simp
  refine ⟨hdeeds, fun password => ?_⟩
  have hblank : strip third.sys.settings.adminUsername ≠ "" := environment_name "third"
  have haccepts := verifyAdmin_accepts_iff third_reachable hblank (fun name h => h) hpwd "admin" password
  refine total_mono haccepts ?_ fun _ _ _ hF => hF
  intro accepted _ _ hiff
  rw [hiff, hdeeds]
  exact ⟨fun h => h.2, fun h => ⟨rfl, h⟩⟩

end Clusteration.Auth
