import Clusteration.Auth.Warrants
import Clusteration.Framework.Crew

open Async Transition Task

namespace Clusteration.Auth

/-- How far a request has come. -/
inductive Phase where
  | fresh
  /-- a login in the credential check, with its copy of the failures -/
  | checking (ip : String) (now : Time) (fails : List Time)
  /-- a `forgot` that has read the unused codes -/
  | replacing (olds : List ResetId)
  /-- a `reset` that has read a code; its attempt is the `n`-th -/
  | holding (c : ResetId) (n : Nat)
  /-- it has compared its guess with the code -/
  | guessed (c : ResetId) (n : Nat)
  | over

/-- The awaits that change nothing the properties of this area are about. -/
inductive Eff.Quiet : Eff → Prop
  | throttle {bucket : Bucket} {ip : String} {window : Time} {maxHits : Nat} :
      Quiet (.throttle bucket ip window maxHits)
  | utcnow : Quiet .utcnow
  | randbelow {n : Nat} : Quiet (.randbelow n)
  | salt : Quiet .salt
  | selectCredential : Quiet .selectCredential
  | sendEmail {addr code : String} : Quiet (.sendEmail addr code)
  | audit {action : String} : Quiet (.audit action)
  | commitPassword {insert : Bool} {passwordHash : String} :
      Quiet (.commitPassword none insert passwordHash)

/-- What a request may do in each phase. -/
inductive PhaseT (settings : Settings) : Phase → (e : Eff) → Ans e → Phase → Prop
  | quiet {φ : Phase} {e : Eff} {a : Ans e} : e.Quiet → PhaseT settings φ e a φ
  | blocked {ip : String} {a : Time × List Time} : loginMaxFails ≤ a.2.length →
      PhaseT settings .fresh (.recentFails ip) a .over
  | passed {ip : String} {a : Time × List Time} : a.2.length < loginMaxFails →
      PhaseT settings .fresh (.recentFails ip) a (.checking ip a.1 a.2)
  | failed {ip : String} {now : Time} {fails : List Time} :
      PhaseT settings (.checking ip now fails) (.recordFail ip fails now) () .over
  | succeeded {ip : String} {now : Time} {fails : List Time} :
      PhaseT settings (.checking ip now fails) (.popFails ip) () .over
  | read {olds : List (ResetId × PasswordReset)} :
      PhaseT settings .fresh (.selectUnused settings.adminUsername) olds
        (.replacing (olds.map Prod.fst))
  | replaced {olds : List (ResetId × Time)} {new : PasswordReset} :
      PhaseT settings (.replacing (olds.map Prod.fst)) (.commitCode olds new) () .over
  | missing {now : Time} :
      PhaseT settings .fresh (.selectLatest settings.adminUsername now) none .over
  | took {now : Time} {c : ResetId} {row : PasswordReset} :
      PhaseT settings .fresh (.selectLatest settings.adminUsername now) (some (c, row))
        (.holding c (row.attempts + 1))
  | exhausted {c : ResetId} {n : Nat} {usedAt : Option Time} : 6 < n →
      PhaseT settings (.holding c n) (.commitAttempt ⟨c, n, usedAt⟩) () .over
  | compared {c : ResetId} {n : Nat} {guess codeHash : String} {valid : Bool} : n ≤ 6 →
      PhaseT settings (.holding c n) (.verify c guess codeHash) valid (.guessed c n)
  | missed {c : ResetId} {n : Nat} {usedAt : Option Time} :
      PhaseT settings (.guessed c n) (.commitAttempt ⟨c, n, usedAt⟩) () .over
  | changed {c : ResetId} {n : Nat} {now : Time} {insert stored : Bool} {passwordHash : String} :
      PhaseT settings (.guessed c n) (.commitPassword (some ⟨c, n, some now⟩) insert passwordHash)
        stored .over

/-- A request goes on by its phase, and awaits only what it has found reason for. -/
abbrev Walks (settings : Settings) : Phase × Request × Log Eff Ans → (e : Eff) → Ans e →
    Phase × Request × Log Eff Ans → Prop :=
  Both (PhaseT settings) (Warranted (Needs settings))

section Handlers
variable {settings : Settings} {s : Unit} {φ : Phase} {r : Request} {log : Log Eff Ans}

/-- Nothing is asked of the end of a request. -/
def Done {α : Type} (_ : α) (_ : Unit) (_ : Phase × Request × Log Eff Ans) : Prop := True

theorem await_walks {e : Eff} {Q : Ans e → Unit → Phase × Request × Log Eff Ans → Prop}
    (hneeds : Needs settings r log e)
    (h : ∀ a, ∃ φ', PhaseT settings φ e a φ' ∧ Q a s (φ', r, ⟨e, a⟩ :: log)) :
    Spec (Walks settings) (await e : Route (Ans e)) s (φ, r, log) Q Done := by
  apply spec_await
  intro a
  obtain ⟨φ', ht, hQ⟩ := h a
  exact ⟨(φ', r, ⟨e, a⟩ :: log), ⟨ht, hneeds, rfl⟩, hQ⟩

theorem quiet_walks {e : Eff} {Q : Ans e → Unit → Phase × Request × Log Eff Ans → Prop}
    (he : e.Quiet) (hneeds : Needs settings r log e) (hQ : ∀ a, Q a s (φ, r, ⟨e, a⟩ :: log)) :
    Spec (Walks settings) (await e : Route (Ans e)) s (φ, r, log) Q Done :=
  await_walks hneeds fun a => ⟨φ, .quiet he, hQ a⟩

theorem refuseIf_walks {condition : Bool} {exc : Exc}
    {Q : Unit → Unit → Phase × Request × Log Eff Ans → Prop}
    (hQ : condition = false → Q () s (φ, r, log)) :
    Spec (Walks settings) (refuseIf condition exc) s (φ, r, log) Q Done := by
  unfold refuseIf
  split
  · exact spec_raise trivial
  · next h =>
    apply spec_pure
    exact hQ (by simpa using h)

theorem hashed_walks {secret : String}
    {Q : String → Unit → Phase × Request × Log Eff Ans → Prop}
    (hQ : ∀ salt h, settings.pwd.hash salt secret = some h → Q h s (φ, r, ⟨.salt, salt⟩ :: log)) :
    Spec (Walks settings) (hashed settings secret) s (φ, r, log) Q Done := by
  apply spec_bind
  apply quiet_walks .salt trivial
  intro salt
  split
  · next h hhash => exact spec_pure (hQ salt h hhash)
  · exact spec_raise trivial

/-- When `verify_admin` accepts, it has read a hash that the password belongs to. -/
theorem verifyAdmin_walks {username password : String}
    {Q : Bool → Unit → Phase × Request × Log Eff Ans → Prop}
    (hQ : ∀ valid log', log ⊆ log' →
      (valid = true → ∃ credential, (⟨.selectCredential, credential⟩ : (e : Eff) × Ans e) ∈ log' ∧
        Accepts settings credential password) → Q valid s (φ, r, log')) :
    Spec (Walks settings) (verifyAdmin settings username password) s (φ, r, log) Q Done := by
  unfold verifyAdmin
  split
  · apply spec_pure
    apply hQ false log (List.Subset.refl _)
    intro h
    cases h
  · next hname =>
    apply spec_bind
    apply quiet_walks .selectCredential trivial
    intro credential
    have hsub : log ⊆ ⟨.selectCredential, credential⟩ :: log := List.subset_cons_self _ _
    cases credential with
    | some passwordHash =>
      apply spec_pure
      apply hQ _ _ hsub
      intro h
      refine ⟨_, List.mem_cons_self, ?_⟩
      show settings.pwd.verify password passwordHash = some true
      cases hv : settings.pwd.verify password passwordHash with
      | none => simp [hv] at h
      | some valid => simpa [hv] using h
    | none =>
      dsimp only
      unfold verifyLogin
      rw [if_neg hname]
      split
      · apply spec_pure
        apply hQ _ _ hsub
        intro h
        cases h
      · next hset =>
        split
        · next valid hv =>
          apply spec_pure
          apply hQ _ _ hsub
          intro h
          subst h
          exact ⟨_, List.mem_cons_self, hset, hv⟩
        · exact spec_raise trivial

theorem login_walks {username password : String} {client : Client} :
    Spec (Walks settings) (login settings username password client) s (.fresh, r, log) Done Done := by
  apply spec_bind
  apply await_walks
  · exact trivial
  intro a
  by_cases hlen : loginMaxFails ≤ a.2.length
  · refine ⟨_, .blocked hlen, ?_⟩
    simp only [hlen, if_true]
    apply spec_bind
    apply quiet_walks .audit trivial
    intro _
    exact spec_raise trivial
  · refine ⟨_, .passed (by omega), ?_⟩
    simp only [hlen, if_false]
    apply spec_bind
    apply verifyAdmin_walks
    intro valid log' _ _
    cases valid with
    | true =>
      refine spec_bind (await_walks trivial fun _ => ⟨_, .succeeded, ?_⟩)
      exact spec_bind (quiet_walks .audit trivial fun _ => spec_pure trivial)
    | false =>
      refine spec_bind (await_walks trivial fun _ => ⟨_, .failed, ?_⟩)
      exact spec_bind (quiet_walks .audit trivial fun _ => spec_raise trivial)

theorem forgot_walks {client : Client} (hr : r = .forgot client) :
    Spec (Walks settings) (forgot settings client) s (.fresh, r, log) Done Done := by
  apply spec_bind
  apply quiet_walks .throttle trivial
  intro allowed
  apply spec_bind
  apply refuseIf_walks
  intro _
  apply spec_bind
  apply refuseIf_walks
  intro _
  apply spec_bind
  apply quiet_walks .randbelow trivial
  intro n
  refine spec_bind (await_walks trivial fun olds => ⟨_, .read, ?_⟩)
  apply spec_bind
  apply quiet_walks .utcnow trivial
  intro now
  apply spec_bind
  apply hashed_walks
  intro salt codeHash hhash
  have holds : olds.map Prod.fst = (olds.map fun old => (old.1, now)).map Prod.fst := by simp
  rw [holds]
  apply spec_bind
  apply await_walks
  · exact ⟨client, n, salt, hr, by simp, hhash⟩
  intro _
  refine ⟨_, .replaced, ?_⟩
  apply spec_bind
  apply quiet_walks .sendEmail trivial
  intro sent
  apply spec_bind
  apply refuseIf_walks
  intro _
  exact spec_bind (quiet_walks .audit trivial fun _ => spec_pure trivial)

/-- The end of the two requests that store a password. -/
theorem setAdminPassword_walks {entry : Option Claimed} {password action : String}
    (hcommit : ∀ insert passwordHash stored, ∃ φ',
      PhaseT settings φ (.commitPassword entry insert passwordHash) stored φ')
    (hr : r.newPassword = some password) (hlength : 8 ≤ (strip password).length)
    (hproven : ∀ log', log ⊆ log' → Proven settings r log' entry) :
    Spec (Walks settings)
      (do
        setAdminPassword settings entry password
        Task.await (Eff.audit action)
        pure Reply.ok) s (φ, r, log) Done Done := by
  have hstore : Spec (Walks settings) (setAdminPassword settings entry password) s (φ, r, log)
      Done Done := by
    apply spec_bind
    apply quiet_walks .selectCredential trivial
    intro cred
    apply spec_bind
    apply hashed_walks
    intro salt passwordHash hhash
    apply spec_bind
    apply await_walks
    · refine ⟨⟨password, salt, hr, hlength, hhash⟩, hproven _ ?_⟩
      intro entry hentry
      exact List.mem_cons_of_mem _ (List.mem_cons_of_mem _ hentry)
    intro stored
    obtain ⟨φ', hφ'⟩ := hcommit cred.isNone passwordHash stored
    refine ⟨φ', hφ', ?_⟩
    apply refuseIf_walks
    intro _
    trivial
  apply spec_bind
  apply spec_mono hstore
  · intro _ s' φ' _
    obtain ⟨phase', r', log'⟩ := φ'
    exact spec_bind (quiet_walks .audit trivial fun _ => spec_pure trivial)
  · intro x s' φ' _
    trivial

theorem reset_walks {code password : String} {client : Client}
    (hr : r = .reset code password client) :
    Spec (Walks settings) (reset settings code password client) s (.fresh, r, log) Done Done := by
  apply spec_bind
  apply quiet_walks .throttle trivial
  intro allowed
  apply spec_bind
  apply refuseIf_walks
  intro _
  apply spec_bind
  apply refuseIf_walks
  intro hweak
  have hlength : 8 ≤ (strip password).length := by simpa using hweak
  apply spec_bind
  apply quiet_walks .utcnow trivial
  intro now
  apply spec_bind
  apply await_walks
  · exact trivial
  intro entry
  cases entry with
  | none => exact ⟨_, .missing, spec_raise trivial⟩
  | some entry =>
    obtain ⟨c, row⟩ := entry
    refine ⟨_, .took, ?_⟩
    dsimp only
    by_cases hmax : 6 < row.attempts + 1
    · simp only [hmax, if_true]
      exact spec_bind (await_walks trivial fun _ => ⟨_, .exhausted hmax, spec_raise trivial⟩)
    · simp only [hmax, if_false]
      refine spec_bind (await_walks trivial fun valid => ⟨_, .compared (by omega), ?_⟩)
      cases valid with
      | true =>
        apply setAdminPassword_walks (fun _ _ _ => ⟨_, .changed⟩) (by rw [hr]; rfl) hlength
        intro log' hsub
        rw [hr]
        apply Proven.code
        · apply hsub
          simp
        · apply hsub
          simp
        · omega
        · apply hsub
          simp
      | false =>
        refine spec_bind (await_walks trivial fun _ => ⟨_, .missed, ?_⟩)
        exact spec_bind (quiet_walks .audit trivial fun _ => spec_raise trivial)

theorem changePassword_walks {authenticated : Bool} {current password : String}
    (hr : r = .changePassword authenticated current password) :
    Spec (Walks settings) (changePassword settings authenticated current password) s (φ, r, log)
      Done Done := by
  apply spec_bind
  apply refuseIf_walks
  intro hauth
  have hauth : authenticated = true := by simpa using hauth
  apply spec_bind
  apply verifyAdmin_walks
  intro valid log' _ hvalid
  apply spec_bind
  apply refuseIf_walks
  intro hok
  have hok : valid = true := by simpa using hok
  obtain ⟨credential, hread, haccepts⟩ := hvalid hok
  apply spec_bind
  apply refuseIf_walks
  intro hweak
  have hlength : 8 ≤ (strip password).length := by simpa using hweak
  apply setAdminPassword_walks (fun _ _ _ => ⟨_, .quiet .commitPassword⟩) (by rw [hr]; rfl) hlength
  intro log'' hsub
  rw [hr, hauth]
  exact .password (hsub hread) haccepts

end Handlers

theorem serve_walks (settings : Settings) (r : Request) :
    (serve settings r).Follows (Walks settings) (.fresh, r, []) fun _ _ => True := by
  have hspec : Spec (Walks settings) (handle settings r) () (.fresh, r, []) Done Done := by
    cases r with
    | login username password client => exact login_walks
    | forgot client => exact forgot_walks rfl
    | reset code newPassword client => exact reset_walks rfl
    | changePassword authenticated currentPassword newPassword => exact changePassword_walks rfl
  apply Prog.follows_bind hspec.follows
  intro out φ _
  exact trivial

theorem serve_follows (settings : Settings) (r : Request) :
    (serve settings r).Follows (PhaseT settings) .fresh fun _ _ => True :=
  Prog.follows_map Prod.fst (serve_walks settings r) (fun _ _ _ _ h => h.1) fun _ _ h => h

theorem serve_needs (settings : Settings) (r : Request) :
    (serve settings r).Follows (Warranted (Needs settings)) (r, []) fun _ _ => True :=
  Prog.follows_map Prod.snd (serve_walks settings r) (fun _ _ _ _ h => h.2) fun _ _ h => h

structure Abs where
  shared : Shared
  settings : Settings
  phases : List Phase := []
  hist : List (Nat × Event) := []

inductive AStep : Abs → Label → Abs → Prop
  | tick {t : Abs} {monotonic utcnow : Time} : t.shared.monotonic ≤ monotonic →
      AStep t (.tick monotonic utcnow) { t with shared := { t.shared with monotonic, utcnow } }
  | receive {t : Abs} (r : Request) :
      AStep t (.receive r) { t with phases := t.phases ++ [.fresh] }
  | await {t : Abs} {i : Nat} {e : Eff} {a : Ans e} {sh : Shared} {φ φ' : Phase} :
      t.phases[i]? = some φ → PhaseT t.settings φ e a φ' → Act t.settings.pwd t.shared e a sh →
      AStep t (.await i e a)
        { t with
          shared := sh
          phases := t.phases.set i φ'
          hist := (events t.shared e a).map (i, ·) ++ t.hist }

structure AInitial (t : Abs) : Prop where
  phases : t.phases = []
  hist : t.hist = []
  resets : t.shared.resets = {}
  loginFails : ∀ ip, t.shared.loginFails ip = []

def Cond.aok (cond : Cond) (t : Abs) (l : Label) (_ : Abs) : Prop := cond t.hist l

def AReachable (cond : Cond) : Abs → Prop := Reach AStep cond.aok AInitial

structure Refines (s : Sys) (t : Abs) : Prop where
  shared : s.shared = t.shared
  settings : s.settings = t.settings
  requests : Crew (PhaseT t.settings) (fun _ _ => True) s.requests t.phases
  hist : s.hist = t.hist

theorem Refines.init {s : Sys} (h : Initial s) : ∃ t, AInitial t ∧ Refines s t := by
  refine ⟨⟨s.shared, s.settings, [], []⟩, ⟨rfl, rfl, h.resets, h.loginFails⟩, rfl, rfl, ?_, h.hist⟩
  rw [h.requests]
  exact .nil

theorem Refines.step {s s' : Sys} {l : Label} {t : Abs} (h : Refines s t) (hs : Step s l s') :
    ∃ t', AStep t l t' ∧ Refines s' t' := by
  obtain ⟨sh, settings, phases, hist⟩ := t
  obtain ⟨rfl, rfl, hr, rfl⟩ := h
  cases hs with
  | tick hle => exact ⟨_, .tick hle, rfl, rfl, hr, rfl⟩
  | receive r => exact ⟨_, .receive r, rfl, rfl, hr.join (serve_follows _ r), rfl⟩
  | await hp hact =>
    obtain ⟨φ, φ', hφ, ht, hr'⟩ := hr.await hp _
    exact ⟨_, .await hφ ht hact, rfl, rfl, hr', rfl⟩

/-- Every run of the process is a run of its phases over the same shared states and history. -/
theorem Reachable.abstract {cond : Cond} {s : Sys} (h : Reachable cond s) :
    ∃ t, AReachable cond t ∧ Refines s t := by
  have hi : ∀ s, Initial s → ∃ t, AInitial t ∧ Refines s t := fun s hs => Refines.init hs
  have hstep : ∀ s l s' t, Refines s t → Step s l s' → cond.ok s l s' →
      ∃ t', AStep t l t' ∧ cond.aok t l t' ∧ Refines s' t' := by
    intro s l s' t hr hs hok
    obtain ⟨t', ht, hr'⟩ := hr.step hs
    have hok' : cond s.hist l := hok
    rw [hr.hist] at hok'
    exact ⟨t', ht, hok', hr'⟩
  exact Reach.simulate hi hstep h

section Acts
variable {pwd : CryptContext} {s s' : Shared} {e : Eff} {a : Ans e}

theorem act_monotonic (h : Act pwd s e a s') : s'.monotonic = s.monotonic := by
  obtain ⟨i, h⟩ := h
  cases e <;> cases i <;> simp only [perform, reduceCtorEq] at h
  all_goals first
    | (cases h; rfl)
    | (split at h <;> first | (cases h; rfl) | (split at h <;> cases h; rfl) | cases h)

theorem act_quiet (he : e.Quiet) (h : Act pwd s e a s') :
    s'.loginFails = s.loginFails ∧ s'.resets = s.resets ∧ events s e a = [] := by
  obtain ⟨i, h⟩ := h
  cases he <;> cases i <;> simp only [perform, reduceCtorEq] at h
  all_goals first
    | (cases h; exact ⟨rfl, rfl, rfl⟩)
    | (split at h <;> cases h <;> exact ⟨rfl, rfl, rfl⟩)

/-- Only a request that has begun has events, and only one that does nothing stays `fresh`. -/
theorem events_fresh {settings : Settings} {φ φ' : Phase} (hp : PhaseT settings φ e a φ')
    (h : Act pwd s e a s') (hf : φ' = .fresh) : φ = .fresh ∧ events s e a = [] := by
  cases hp with
  | quiet he => exact ⟨hf, (act_quiet he h).2.2⟩
  | _ => cases hf

end Acts

/-- Each event belongs to a request that has begun. -/
structure Attributed (phases : List Phase) (hist : List (Nat × Event)) : Prop where
  fresh : ∀ i, phases[i]? = some .fresh → ∀ ev, (i, ev) ∉ hist
  absent : ∀ i ev, (i, ev) ∈ hist → i < phases.length

theorem AReachable.attributed {cond : Cond} {t : Abs} (h : AReachable cond t) :
    Attributed t.phases t.hist := by
  have hreach : ∀ t, AReachable cond t → Attributed t.phases t.hist := by
    intro t ht
    induction ht with
    | start hi => exact ⟨by simp [hi.hist], by simp [hi.hist]⟩
    | next _ hstep _ ih =>
      cases hstep with
      | tick hle => exact ih
      | receive r =>
        constructor
        · intro i hi ev hev
          rw [List.getElem?_append_left (ih.absent i ev hev)] at hi
          exact ih.fresh i hi ev hev
        · intro i ev hev
          have hlt := ih.absent i ev hev
          rw [List.length_append]
          omega
      | @await i _ _ _ _ _ hi hp hact =>
        have hlt := (List.getElem?_eq_some_iff.mp hi).1
        constructor
        · intro j hj ev hev
          rcases Crew.phase_set hj with ⟨rfl, hφ⟩ | ⟨hne, hj⟩
          · obtain ⟨rfl, hnil⟩ := events_fresh hp hact hφ.symm
            rw [hnil] at hev
            exact ih.fresh j hi ev hev
          · rw [List.mem_append, List.mem_map] at hev
            rcases hev with ⟨_, _, heq⟩ | hev
            · cases heq
              exact hne rfl
            · exact ih.fresh j hj ev hev
        · intro j ev hev
          rw [List.length_set]
          rw [List.mem_append, List.mem_map] at hev
          rcases hev with ⟨_, _, heq⟩ | hev
          · cases heq
            exact hlt
          · exact ih.absent j ev hev
  exact hreach t h

end Clusteration.Auth
