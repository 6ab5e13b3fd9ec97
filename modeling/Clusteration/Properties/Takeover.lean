import Clusteration.Properties.Password

open Async Transition Task

namespace Clusteration.Auth

/-- The steps of the service so far, the last one first. -/
abbrev Past := List (Service × Service.Label)

def Service.Label.restarts : Service.Label → Bool
  | .restart _ => true
  | .within _ => false

/-- The steps since the process started that runs now. -/
def Past.ofProcess (past : Past) : Past := past.takeWhile fun taken => !taken.2.restarts

section Past
variable {past : Past} {w : Service}

theorem Past.ofProcess_subset : past.ofProcess ⊆ past := (List.takeWhile_prefix _).subset

theorem Past.ofProcess_within (l : Label) :
    Past.ofProcess ((w, .within l) :: past) = (w, .within l) :: past.ofProcess := rfl

end Past

/-- A `forgot` request drew six digits, and stored this hash of them. -/
def Issued (past : Past) (codeHash : String) : Prop :=
  ∃ w i olds new client n salt, (w, .within (.await i (.commitCode olds new) ())) ∈ past ∧
    w.asked[i]? = some (.forgot client) ∧ new.codeHash = codeHash ∧ n < 1000000 ∧
    w.sys.settings.pwd.hash salt (sixDigits n) = some codeHash

theorem Issued.later {past past' : Past} {codeHash : String} (h : Issued past codeHash)
    (hsub : past ⊆ past') : Issued past' codeHash := by
  obtain ⟨w, i, olds, new, client, n, salt, htaken, hrest⟩ := h
  exact ⟨w, i, olds, new, client, n, salt, hsub htaken, hrest⟩

/-- Each entry of the log is an await of the `i`-th request of the process. -/
def Happened (past : Past) (settings : Settings) (i : Nat) (log : Log Eff Ans) : Prop :=
  ∀ entry ∈ log, ∃ w, (w, .within (.await i entry.1 entry.2)) ∈ past.ofProcess ∧
    w.sys.settings = settings

theorem Happened.within {past : Past} {settings : Settings} {i : Nat} {log : Log Eff Ans}
    (h : Happened past settings i log) (w : Service) (l : Label) :
    Happened ((w, .within l) :: past) settings i log := by
  intro entry hentry
  obtain ⟨w₁, htaken, hsame⟩ := h entry hentry
  rw [Past.ofProcess_within]
  exact ⟨w₁, List.mem_cons_of_mem _ htaken, hsame⟩

/-- The requests, each with a log of what it was answered. -/
structure Logged (past : Past) (w : Service) (φs : List (Request × Log Eff Ans)) : Prop where
  crew : Crew (Warranted (Needs w.sys.settings)) (fun _ _ => True) w.sys.requests φs
  asked : φs.map Prod.fst = w.asked
  happened : ∀ i φ, φs[i]? = some φ → Happened past w.sys.settings i φ.2

section Logged
variable {past : Past} {w : Service} {φs : List (Request × Log Eff Ans)}

theorem logged_start (hrequests : w.sys.requests = []) (hasked : w.asked = []) :
    Logged past w [] := by
  constructor
  · rw [hrequests]
    exact .nil
  · rw [hasked]
    rfl
  · intro i φ h
    cases h

/-- One step of a process. -/
theorem Logged.within {l : Label} {sys : Sys} (h : Logged past w φs) (hs : Auth.Step w.sys l sys) :
    ∃ φs', Logged ((w, .within l) :: past) ⟨sys, w.asked ++ l.asks, l.deeds w.asked ++ w.deeds⟩
      φs' := by
  cases hs with
  | tick hle =>
    refine ⟨φs, h.crew, ?_, ?_⟩
    · simpa [Label.asks] using h.asked
    · intro i φ hφ
      exact (h.happened i φ hφ).within w _
  | receive r =>
    refine ⟨φs ++ [(r, [])], h.crew.join (serve_needs _ r), ?_, ?_⟩
    · simp [Label.asks, h.asked]
    · intro i φ hφ
      rw [List.getElem?_append] at hφ
      split at hφ
      · exact (h.happened i φ hφ).within w _
      · rw [List.getElem?_singleton] at hφ
        split at hφ
        · cases hφ
          intro entry hentry
          cases hentry
        · cases hφ
  | @await i e k a sh hp hact =>
    obtain ⟨φ, φ', hφ, ⟨-, rfl⟩, hcrew⟩ := h.crew.await hp a
    refine ⟨_, hcrew, ?_, ?_⟩
    · have hsame : φs.map Prod.fst = (φs.map Prod.fst).set i φ.1 := by
        obtain ⟨hlt, hget⟩ := List.getElem?_eq_some_iff.mp hφ
        apply List.ext_getElem
        · simp
        · intro j hj hj'
          rw [List.getElem_set]
          split
          · next heq =>
            subst heq
            simp [hget]
          · rfl
      rw [List.map_set, ← hsame, h.asked]
      simp [Label.asks]
    · intro j ψ hψ
      rcases Crew.phase_set hψ with ⟨rfl, rfl⟩ | ⟨-, hψ⟩
      · intro entry hentry
        rcases List.mem_cons.mp hentry with rfl | hentry
        · refine ⟨w, ?_, rfl⟩
          rw [Past.ofProcess_within]
          exact List.mem_cons_self
        · exact (h.happened _ φ hφ).within w _ entry hentry
      · exact (h.happened j ψ hψ).within w _

theorem logged_trail (h : Trail Service.Step Service.Initial past w) : ∃ φs, Logged past w φs := by
  induction h with
  | start hi =>
    obtain ⟨settings, monotonic, utcnow, hs⟩ := hi
    exact ⟨[], logged_start hs.requests hs.asked⟩
  | next _ hstep ih =>
    cases hstep with
    | restart _ hs => exact ⟨[], logged_start hs.requests hs.asked⟩
    | within hs =>
      obtain ⟨φs, hlogged⟩ := ih
      exact hlogged.within hs

/-- What a request has found out when it comes to an await. -/
theorem needs_trail {i : Nat} {e : Eff} {a : Ans e} {sys : Sys}
    (h : Trail Service.Step Service.Initial past w) (hs : Auth.Step w.sys (.await i e a) sys) :
    ∃ r log, w.asked[i]? = some r ∧ Needs w.sys.settings r log e ∧
      Happened past w.sys.settings i log := by
  obtain ⟨φs, hlogged⟩ := logged_trail h
  cases hs with
  | await hp hact =>
    obtain ⟨φ, φ', hφ, ⟨hneeds, -⟩, -⟩ := hlogged.crew.await hp a
    refine ⟨φ.1, φ.2, ?_, hneeds, hlogged.happened i φ hφ⟩
    rw [← hlogged.asked, List.getElem?_map, hφ]
    rfl

/-- An await of the past took the shared state on. -/
theorem act_of_past {w₁ : Service} {i : Nat} {e : Eff} {a : Ans e}
    (h : Trail Service.Step Service.Initial past w)
    (hm : (w₁, .within (.await i e a)) ∈ past.ofProcess) :
    ∃ sh, Act w₁.sys.settings.pwd w₁.sys.shared e a sh := by
  obtain ⟨past₀, s₁, -, -, hstep⟩ := h.before (Past.ofProcess_subset hm)
  cases hstep with
  | within hs =>
    cases hs with
    | await _ hact => exact ⟨_, hact⟩

end Logged

/-- A code marked as used keeps its hash. -/
theorem marked_codes {olds : List (ResetId × Time)} {t : Table PasswordReset} {c : ResetId}
    {row : PasswordReset} (h : (olds.foldl (fun (t : Table PasswordReset) old =>
      t.update old.1 fun row => { row with usedAt := some old.2 }) t).get c = some row) :
    ∃ old, t.get c = some old ∧ old.codeHash = row.codeHash := by
  induction olds generalizing t with
  | nil => exact ⟨row, h, rfl⟩
  | cons marked olds ih =>
    obtain ⟨old, hold, hsame⟩ := ih h
    rw [Table.get_update] at hold
    split at hold
    · obtain ⟨old', hold', rfl⟩ := Option.map_eq_some_iff.mp hold
      exact ⟨old', hold', hsame⟩
    · exact ⟨old, hold, hsame⟩

/-- An await keeps the hash of each code, and only `forgot` adds one. -/
theorem act_codes {pwd : CryptContext} {s s' : Shared} {e : Eff} {a : Ans e} (h : Act pwd s e a s')
    {c : ResetId} {row : PasswordReset} (hrow : s'.resets.get c = some row) :
    (∃ old, s.resets.get c = some old ∧ old.codeHash = row.codeHash) ∨
      ∃ olds, e = .commitCode olds row := by
  have hmerge : ∀ entry : Claimed,
      (s.resets.update entry.id fun row => row.merge entry).get c = some row →
      ∃ old, s.resets.get c = some old ∧ old.codeHash = row.codeHash := by
    intro entry hget
    rw [Table.get_update] at hget
    split at hget
    · obtain ⟨old, hold, rfl⟩ := Option.map_eq_some_iff.mp hget
      exact ⟨old, hold, rfl⟩
    · exact ⟨row, hget, rfl⟩
  obtain ⟨i, h⟩ := h
  cases e with
  | commitCode olds new =>
    cases i <;> simp only [perform, reduceCtorEq] at h
    cases h
    dsimp only at hrow
    rw [Table.get_insert] at hrow
    split at hrow
    · cases hrow
      exact .inr ⟨olds, rfl⟩
    · exact .inl (marked_codes hrow)
  | commitAttempt entry =>
    cases i <;> simp only [perform, reduceCtorEq] at h
    cases h
    exact .inl (hmerge entry hrow)
  | commitPassword entry insert passwordHash =>
    left
    cases i <;> simp only [perform, reduceCtorEq] at h
    split at h
    · cases h
      exact ⟨row, hrow, rfl⟩
    · cases h
      cases entry with
      | none => exact ⟨row, hrow, rfl⟩
      | some entry => exact hmerge entry hrow
  | _ =>
    refine .inl ⟨row, ?_, rfl⟩
    cases i <;> simp only [perform, reduceCtorEq] at h
    all_goals first
      | (cases h; exact hrow)
      | (split at h <;> first | (cases h; exact hrow) | (split at h <;> cases h; exact hrow) | cases h)

theorem seed_resets {settings : Settings} {db : Shared} {deeds : List Deed} {w : Service}
    (h : Starts settings db deeds w) : w.sys.shared.resets = db.resets := by
  by_cases hname : settings.normUsername settings.adminUsername = ""
  · have hseed := h.seed
    unfold seedAdminCredential at hseed
    rw [if_pos hname] at hseed
    cases hseed
    rfl
  · have hshared : w.sys.shared = seeded settings db :=
      (seedAdminCredential_total hname).each _ _ h.seed
    rw [hshared]
    rfl

theorem codes_issued {past : Past} {w : Service} (h : Trail Service.Step Service.Initial past w) :
    ∀ c row, w.sys.shared.resets.get c = some row → Issued past row.codeHash := by
  induction h with
  | start hi =>
    obtain ⟨settings, monotonic, utcnow, hs⟩ := hi
    intro c row hrow
    rw [seed_resets hs] at hrow
    cases hrow
  | @next past w w' l hrun hstep ih =>
    have hlater : ∀ {codeHash}, Issued past codeHash → Issued ((w, l) :: past) codeHash :=
      fun h => h.later (List.subset_cons_self _ _)
    intro c row hrow
    cases hstep with
    | restart _ hs =>
      rw [seed_resets hs] at hrow
      exact hlater (ih c row hrow)
    | within hs =>
      have hneeds := @needs_trail past w
      cases hs with
      | tick hle => exact hlater (ih c row hrow)
      | receive r => exact hlater (ih c row hrow)
      | @await i e k a sh hp hact =>
        obtain ⟨r, log, hr, hneeds, hhappened⟩ := hneeds hrun (.await hp hact)
        rcases act_codes hact hrow with ⟨old, hold, hsame⟩ | ⟨olds, rfl⟩
        · rw [← hsame]
          exact hlater (ih c old hold)
        · obtain ⟨client, n, salt, rfl, hdrawn, hhash⟩ := hneeds
          obtain ⟨w₁, htaken, -⟩ := hhappened _ hdrawn
          obtain ⟨sh₁, input, hperform⟩ := act_of_past hrun htaken
          have hlt : n < 1000000 := by
            cases input <;> simp only [perform, reduceCtorEq] at hperform
            split at hperform
            · next hlt =>
              cases hperform
              exact hlt
            · cases hperform
          exact ⟨w, i, olds, row, client, n, salt, List.mem_cons_self, hr, rfl, hlt, hhash⟩

/-- The sender of the `i`-th request of the process knew the password that was stored when the request
looked, or an unused and unexpired code that it found. -/
inductive Entitled (past : Past) (settings : Settings) (i : Nat) : Request → Prop
  | password {w : Service} {current password : String} :
      (w, .within (.await i .selectCredential w.sys.shared.credential)) ∈ past.ofProcess →
      Accepts settings w.sys.shared.credential current →
      Entitled past settings i (.changePassword true current password)
  | code {w w' : Service} {code password : String} {client : Client} {c : ResetId}
      {row : PasswordReset} :
      (w, .within (.await i .utcnow w.sys.shared.utcnow)) ∈ past.ofProcess →
      (w', .within (.await i (.selectLatest settings.adminUsername w.sys.shared.utcnow)
        (some (c, row)))) ∈ past.ofProcess →
      w'.sys.shared.resets.get c = some row →
      row.live settings.adminUsername w.sys.shared.utcnow = true → row.attempts < 6 →
      settings.pwd.verify (strip code) row.codeHash = some true → Issued past row.codeHash →
      Entitled past settings i (.reset code password client)

section Proof
variable {past : Past} {w : Service} {i : Nat} {log : Log Eff Ans}

theorem act_utcnow {pwd : CryptContext} {s s' : Shared} {now : Time} (h : Act pwd s .utcnow now s') :
    now = s.utcnow := by
  obtain ⟨input, h⟩ := h
  cases input <;> simp only [perform, reduceCtorEq] at h
  cases h
  rfl

theorem act_verify {pwd : CryptContext} {s s' : Shared} {c : ResetId} {guess codeHash : String}
    (h : Act pwd s (.verify c guess codeHash) true s') : pwd.verify guess codeHash = some true := by
  obtain ⟨input, h⟩ := h
  cases input <;> simp only [perform, reduceCtorEq] at h
  cases hv : pwd.verify guess codeHash with
  | none => simp [hv] at h
  | some valid =>
    simp only [hv, Option.getD_some, Option.some.injEq, Prod.mk.injEq] at h
    rw [h.1]

theorem act_selectLatest {pwd : CryptContext} {s s' : Shared} {username : String} {now : Time}
    {c : ResetId} {row : PasswordReset}
    (h : Act pwd s (.selectLatest username now) (some (c, row)) s') :
    s.resets.get c = some row ∧ row.live username now = true := by
  obtain ⟨input, h⟩ := h
  cases input <;> simp only [perform, reduceCtorEq] at h
  · split at h <;> cases h
  · split at h
    · cases h
    · next row' hrow =>
      split at h
      · next hlive =>
        cases h
        simp only [Bool.and_eq_true] at hlive
        exact ⟨hrow, hlive.1⟩
      · cases h

theorem Proven.entitled {entry : Option Claimed} {r : Request}
    (h : Trail Service.Step Service.Initial past w) (hproven : Proven w.sys.settings r log entry)
    (hhappened : Happened past w.sys.settings i log) : Entitled past w.sys.settings i r := by
  cases hproven with
  | password hread haccepts =>
    obtain ⟨w₁, htaken, -⟩ := hhappened _ hread
    obtain ⟨sh, hact⟩ := act_of_past h htaken
    obtain ⟨rfl, -⟩ := act_selectCredential.mp hact
    exact .password htaken haccepts
  | code hnow hfound hattempts hverified =>
    obtain ⟨w₀, htaken₀, -⟩ := hhappened _ hnow
    obtain ⟨w₁, htaken₁, -⟩ := hhappened _ hfound
    obtain ⟨w₂, htaken₂, hsame⟩ := hhappened _ hverified
    obtain ⟨sh₀, hact₀⟩ := act_of_past h htaken₀
    obtain ⟨sh₁, hact₁⟩ := act_of_past h htaken₁
    obtain ⟨sh₂, hact₂⟩ := act_of_past h htaken₂
    obtain rfl := act_utcnow hact₀
    obtain ⟨hrow, hlive⟩ := act_selectLatest hact₁
    have hverify := act_verify hact₂
    rw [hsame] at hverify
    obtain ⟨past₁, _, hrun₁, hsub, -⟩ := h.before (Past.ofProcess_subset htaken₁)
    exact .code htaken₀ htaken₁ hrow hlive hattempts hverify ((codes_issued hrun₁ _ _ hrow).later hsub)

end Proof

/-- In every run of the service, each change of the stored password is a new process's hash where there
was none, or the commit of a request that was entitled to it. -/
theorem password_changes_entitled {past : Past} {w w' : Service} {l : Service.Label}
    (h : Trail Service.Step Service.Initial past w) (hstep : Service.Step w l w')
    (hchange : w'.sys.shared.credential ≠ w.sys.shared.credential) :
    (∃ settings, l = .restart settings ∧ w.sys.shared.credential = none ∧
      w'.sys.shared.credential = some settings.adminPasswordHash) ∨
    ∃ i entry insert passwordHash, l = .within (.await i (.commitPassword entry insert passwordHash) true) ∧
      w'.sys.shared.credential = some passwordHash ∧
      ∃ r, w.asked[i]? = some r ∧ Strong w.sys.settings r passwordHash ∧
        Entitled past w.sys.settings i r := by
  cases hstep with
  | @restart _ settings monotonic utcnow hsame hs =>
    left
    refine ⟨settings, rfl, ?_⟩
    by_cases hname : settings.normUsername settings.adminUsername = ""
    · have hseed := hs.seed
      unfold seedAdminCredential at hseed
      rw [if_pos hname] at hseed
      generalize w'.sys.shared = sh at hseed hchange
      cases hseed
      exact absurd rfl hchange
    · have hshared : w'.sys.shared = seeded settings _ :=
        (seedAdminCredential_total hname).each _ _ hs.seed
      rw [hshared] at hchange ⊢
      have hcred : (seeded settings (w.sys.shared.stored monotonic utcnow)).credential =
          w.sys.shared.credential.or (nonempty settings.adminPasswordHash) := rfl
      rw [hcred] at hchange ⊢
      cases hnone : w.sys.shared.credential with
      | some passwordHash =>
        rw [hnone] at hchange
        exact absurd rfl hchange
      | none =>
        rw [hnone] at hchange
        unfold nonempty at hchange ⊢
        split at hchange
        · exact absurd rfl hchange
        · next hset =>
          rw [if_neg hset]
          exact ⟨rfl, rfl⟩
  | within hs =>
    right
    have hneeds := @needs_trail past w
    cases hs with
    | tick hle => exact absurd rfl hchange
    | receive r => exact absurd rfl hchange
    | @await i e k a sh hp hact =>
      rcases act_credential hact i with ⟨hcred, -⟩ | ⟨entry, insert, passwordHash, hl, hcred⟩
      · exact absurd hcred hchange
      · cases hl
        obtain ⟨r, log, hr, ⟨hstrong, hproven⟩, hhappened⟩ := hneeds h (.await hp hact)
        exact ⟨i, entry, insert, passwordHash, rfl, hcred, r, hr, hstrong,
          hproven.entitled h hhappened⟩

namespace Trials

/-- A change of the password, up to the commit. -/
def storing : List Choice :=
  .receive (.changePassword true "secret" "password") :: runs 0 [.none, .none, .nat 0]

theorem second_reachable : second.Reachable := by
  have hfirst : (Service.started (environment "secret") {} []).Reachable :=
    .start ⟨_, 0, 0, started_starts (environment_name _)⟩
  have hsame : (environment "secret").SameAdmin (environment "other") := ⟨rfl, rfl, rfl⟩
  exact .next hfirst (.restart hsame (started_starts (environment_name _))) trivial

end Trials

open Trials

/-- As when the administrator changes it after a restart. -/
theorem password_changes_entitled_once : ∃ past w w' l,
    Trail Service.Step Service.Initial past w ∧ Service.Step w l w' ∧
    w.sys.shared.credential = some "secret" ∧ w'.sys.shared.credential = some "password" ∧
    ∃ i entry insert passwordHash,
      l = .within (.await i (.commitPassword entry insert passwordHash) true) ∧
      ∃ r, w.asked[i]? = some r ∧ Entitled past w.sys.settings i r := by
  have hrun : (second.follow storing).any (fun w => w.sys.shared.credential = some "secret" &&
      (w.sys.step (.run 0 .none)).any fun r => r.2.shared.credential = some "password") = true := by
    decide +kernel
  obtain ⟨w, hw, hcheck⟩ := (Option.any_eq_true _ _).mp hrun
  rw [Bool.and_eq_true] at hcheck
  obtain ⟨hbefore, hafter⟩ := hcheck
  have hbefore : w.sys.shared.credential = some "secret" := by simpa using hbefore
  obtain ⟨⟨l, sys⟩, hs, hafter⟩ := (Option.any_eq_true _ _).mp hafter
  have hafter : sys.shared.credential = some "password" := by simpa using hafter
  obtain ⟨past, htrail⟩ := (follow_reachable second_reachable hw).trail
  have hstep : Service.Step w (.within l) ⟨sys, w.asked ++ l.asks, l.deeds w.asked ++ w.deeds⟩ :=
    .within (step_sound hs)
  have hchange : sys.shared.credential ≠ w.sys.shared.credential := by
    rw [hbefore, hafter]
    decide
  refine ⟨past, w, _, _, htrail, hstep, hbefore, hafter, ?_⟩
  rcases password_changes_entitled htrail hstep hchange with ⟨_, hl, _⟩ | hcommit
  · cases hl
  · obtain ⟨i, entry, insert, passwordHash, hl, -, r, hr, -, hentitled⟩ := hcommit
    exact ⟨i, entry, insert, passwordHash, hl, r, hr, hentitled⟩

end Clusteration.Auth
