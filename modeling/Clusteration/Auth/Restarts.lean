import Clusteration.Auth.System
import Clusteration.Framework.Runs

open Async Transition Task

namespace Clusteration.Auth

/-- What is done about the administrator's password. -/
inductive Deed where
  /-- a process started, with this hash in its environment -/
  | started (passwordHash : String)
  /-- a request set the password -/
  | set (password : String)
  deriving DecidableEq

/-- The password last set. The deeds are newest first. -/
def lastSet : List Deed → Option String
  | [] => none
  | .set password :: _ => some password
  | .started _ :: deeds => lastSet deeds

def nonempty (passwordHash : String) : Option String :=
  if passwordHash = "" then none else some passwordHash

/-- The first hash in an environment that was not empty. -/
def firstHash : List Deed → Option String
  | [] => none
  | .set _ :: deeds => firstHash deeds
  | .started passwordHash :: deeds => (firstHash deeds).or (nonempty passwordHash)

/-- A process, the requests it got, and all that was done about the password so far. -/
structure Service where
  sys : Sys
  asked : List Request := []
  deeds : List Deed := []

/-- The password a request sets when it succeeds. -/
def Request.newPassword : Request → Option String
  | .reset _ newPassword _ => some newPassword
  | .changePassword _ _ newPassword => some newPassword
  | _ => none

def Label.asks : Label → List Request
  | .receive r => [r]
  | _ => []

/-- A password is set when it is committed. -/
def Label.deeds (asked : List Request) : Label → List Deed
  | .await i (.commitPassword _ _ _) true =>
    (asked[i]?.bind Request.newPassword).toList.map Deed.set
  | _ => []

/-- What outlives a process. -/
def Shared.stored (s : Shared) (monotonic utcnow : Time) : Shared :=
  { monotonic, utcnow, credential := s.credential, resets := s.resets }

/-- The environment of another process: the password's hash, the mail settings and the lifetime of
codes may differ. -/
structure Settings.SameAdmin (settings settings' : Settings) : Prop where
  adminUsername : settings'.adminUsername = settings.adminUsername
  pwd : settings'.pwd = settings.pwd
  casefold : settings'.casefold = settings.casefold

/-- A process starts on this database, after what was done about the password before. -/
structure Starts (settings : Settings) (db : Shared) (before : List Deed) (w : Service) : Prop where
  environment : w.sys.settings = settings
  requests : w.sys.requests = []
  asked : w.asked = []
  deeds : w.deeds = .started settings.adminPasswordHash :: before
  seed : (seedAdminCredential settings ()).Ends (Act settings.pwd) db (.ok (), ()) w.sys.shared

inductive Service.Label where
  | restart (settings : Settings)
  | within (l : Auth.Label)

/-- The process ends at any point and another one starts, or it goes on. -/
inductive Service.Step : Service → Service.Label → Service → Prop
  | restart {w w' : Service} {settings : Settings} {monotonic utcnow : Time} :
      w.sys.settings.SameAdmin settings →
      Starts settings (w.sys.shared.stored monotonic utcnow) w.deeds w' →
      Step w (.restart settings) w'
  | within {w : Service} {l : Auth.Label} {sys : Sys} : Auth.Step w.sys l sys →
      Step w (.within l) ⟨sys, w.asked ++ l.asks, l.deeds w.asked ++ w.deeds⟩

/-- The first process, on an empty database. -/
def Service.Initial (w : Service) : Prop :=
  ∃ settings monotonic utcnow, Starts settings { monotonic, utcnow } [] w

def Service.Reachable : Service → Prop := Reach Service.Step (fun _ _ _ => True) Service.Initial

theorem Step.settings {s s' : Sys} {l : Label} (h : Step s l s') : s'.settings = s.settings := by
  cases h <;> rfl

section Seed
variable {settings : Settings} {db sh : Shared}

/-- The database after `seed_admin_credential`. -/
def seeded (settings : Settings) (db : Shared) : Shared :=
  { db with credential := db.credential.or (nonempty settings.adminPasswordHash) }

theorem act_selectCredential {pwd : CryptContext} {r : Option String} :
    Act pwd db .selectCredential r sh ↔ r = db.credential ∧ sh = db := by
  constructor
  · rintro ⟨i, h⟩
    cases i <;> simp only [perform, reduceCtorEq] at h
    cases h
    exact ⟨rfl, rfl⟩
  · rintro ⟨rfl, rfl⟩
    exact ⟨.none, rfl⟩

theorem seedAdminCredential_total (hname : settings.normUsername settings.adminUsername ≠ "") :
    Total (Act settings.pwd) (seedAdminCredential settings) () db
      (fun _ _ sh => sh = seeded settings db) fun _ _ _ => False := by
  unfold seedAdminCredential
  rw [if_neg hname]
  apply total_bind
  apply total_await ⟨_, _, act_selectCredential.mpr ⟨rfl, rfl⟩⟩
  intro existing db' hact
  obtain ⟨rfl, rfl⟩ := act_selectCredential.mp hact
  split
  · next hstay =>
    apply total_pure
    have hor : db'.credential.or (nonempty settings.adminPasswordHash) = db'.credential := by
      cases hcred : db'.credential with
      | some passwordHash => rfl
      | none => simpa [hcred, nonempty] using hstay
    rw [seeded, hor]
  · next hseed =>
    simp only [Bool.or_eq_true, decide_eq_true_eq, not_or, Bool.not_eq_true,
      Option.isSome_eq_false_iff, Option.isNone_iff_eq_none] at hseed
    obtain ⟨hnone, hhash⟩ := hseed
    have hperform : perform settings.pwd db' (.commitPassword none true settings.adminPasswordHash)
        .none = some (true, seeded settings db') := by
      simp [perform, seeded, nonempty, hnone, hhash]
    apply total_bind
    apply total_await ⟨_, _, _, hperform⟩
    rintro stored sh ⟨i, hact⟩
    cases i <;> simp only [perform, reduceCtorEq] at hact
    rw [hnone] at hact
    cases hact
    apply total_pure
    simp [seeded, nonempty, hnone, hhash]

end Seed

end Clusteration.Auth
