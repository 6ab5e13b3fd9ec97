import Mathlib.Data.List.Perm.Subperm
import Mathlib.Tactic.Linarith
import Clusteration.Auth.Phases

open Async Transition

namespace Clusteration.Auth

/-- Of the times still in the window, `l'` has all that `l` has. -/
def Covers (now : Time) (l l' : List Time) : Prop :=
  (within loginWindow now l).Subperm (within loginWindow now l')

theorem Covers.later {now now' : Time} {l l' : List Time} (h : Covers now l l')
    (hle : now ≤ now') : Covers now' l l' := by
  have hf := List.Subperm.filter (fun t => now' - t < loginWindow) h
  change (within loginWindow now' (within loginWindow now l)).Subperm
    (within loginWindow now' (within loginWindow now l')) at hf
  rwa [within_within hle, within_within hle] at hf

theorem Covers.trim {now : Time} {l l' : List Time} (h : Covers now l l') :
    Covers now l (within loginWindow now l') := by
  unfold Covers
  rw [within_within (le_refl now)]
  exact h

theorem Covers.append {now t : Time} {l l' : List Time} (h : Covers now l l') :
    Covers now (t :: l) (l' ++ [t]) := by
  have hcons : (t :: l).Perm (l ++ [t]) := (List.perm_append_singleton t l).symm
  have hperm : (within loginWindow now (t :: l)).Perm (within loginWindow now (l ++ [t])) :=
    hcons.filter _
  unfold Covers
  refine hperm.subperm.trans ?_
  unfold within
  rw [List.filter_append, List.filter_append]
  exact (List.subperm_append_right _).mpr h

def Event.isLogin : Event → Bool
  | .passed _ _ | .failed _ | .succeeded _ _ => true
  | _ => false

def Event.isSuccess (ip : String) : Event → Bool
  | .succeeded ip' _ => ip' = ip
  | _ => false

def Event.passedAt (ip : String) : Event → Option Time
  | .passed ip' now => if ip' = ip then some now else none
  | _ => none

def logins (hist : List (Nat × Event)) : List (Nat × Event) := hist.filter fun e => e.2.isLogin

/-- Request `i`'s credential check came out. -/
def CameOut (hist : List (Nat × Event)) (ip : String) (i : Nat) : Prop :=
  (i, .failed ip) ∈ hist ∨ ∃ b, (i, .succeeded ip b) ∈ hist

/-- A login goes on to the credential check only when each of its key that did so before has come
out. -/
def Cond.oneCheck : Cond := fun hist l => ∀ i ip a, l = .await i (.recentFails ip) a →
  a.2.length < loginMaxFails → ∀ j t, (j, .passed ip t) ∈ hist → CameOut hist ip j

/-- An entry for a login of this key that went on to the credential check in the window from
`start` and has not succeeded. -/
def wrongCheck (hist : List (Nat × Event)) (ip : String) (start : Time) (e : Nat × Event) : Bool :=
  (e.2.passedAt ip).any (fun now => start ≤ now && now < start + loginWindow) &&
    !hist.any fun e' => e'.1 = e.1 && e'.2.isSuccess ip

def wrongChecks (hist : List (Nat × Event)) (ip : String) (start : Time) : Nat :=
  hist.countP (wrongCheck hist ip start)

/-- No login of this key succeeded in the window. -/
def NoSuccess (hist : List (Nat × Event)) (ip : String) (start : Time) : Prop :=
  ∀ i b, (i, .succeeded ip b) ∈ hist → ¬ (start ≤ b ∧ b < start + loginWindow)

/-- When the logins of this key since its last success went on to the check, newest first. -/
def pending (ip : String) (hist : List (Nat × Event)) : List Time :=
  (hist.takeWhile fun e => !e.2.isSuccess ip).filterMap fun e => e.2.passedAt ip

theorem mem_logins {hist : List (Nat × Event)} {e : Nat × Event} (h : e.2.isLogin = true) :
    e ∈ logins hist ↔ e ∈ hist := by
  simp [logins, h]

theorem mem_of_logins {hist : List (Nat × Event)} {e : Nat × Event} (h : e ∈ logins hist) :
    e ∈ hist := (List.mem_filter.mp h).1

theorem logins_append {i : Nat} {evs : List Event} {hist : List (Nat × Event)} :
    logins (evs.map (i, ·) ++ hist) =
      (evs.filter Event.isLogin).map (i, ·) ++ logins hist := by
  simp [logins, List.filter_append, List.filter_map, Function.comp_def]

theorem logins_aside {i : Nat} {evs : List Event} {hist : List (Nat × Event)}
    (h : ∀ ev ∈ evs, ev.isLogin = false) : logins (evs.map (i, ·) ++ hist) = logins hist := by
  have hnil : evs.filter Event.isLogin = [] := by
    rw [List.filter_eq_nil_iff]
    intro ev hev
    simp [h ev hev]
  rw [logins_append, hnil]
  rfl

theorem passedAt_eq_some {ip : String} {ev : Event} {t : Time} :
    ev.passedAt ip = some t ↔ ev = .passed ip t := by
  cases ev with
  | passed ip' now =>
    simp only [Event.passedAt, Option.ite_none_right_eq_some, Option.some.injEq, Event.passed.injEq]
  | _ => simp [Event.passedAt]

theorem isSuccess_iff {ip : String} {ev : Event} :
    ev.isSuccess ip = true ↔ ∃ b, ev = .succeeded ip b := by
  cases ev with
  | succeeded ip' b => simp [Event.isSuccess, eq_comm]
  | _ => simp [Event.isSuccess]

theorem cameOut_logins {hist : List (Nat × Event)} {ip : String} {i : Nat} :
    CameOut (logins hist) ip i ↔ CameOut hist ip i := by
  unfold CameOut
  rw [mem_logins rfl]
  apply or_congr_right
  apply exists_congr
  intro b
  exact mem_logins rfl

theorem noSuccess_logins {hist : List (Nat × Event)} {ip : String} {start : Time} :
    NoSuccess (logins hist) ip start ↔ NoSuccess hist ip start := by
  unfold NoSuccess
  apply forall_congr'
  intro i
  apply forall_congr'
  intro b
  rw [mem_logins rfl]

theorem wrongChecks_logins {hist : List (Nat × Event)} {ip : String} {start : Time} :
    wrongChecks (logins hist) ip start = wrongChecks hist ip start := by
  have hany : ∀ i, (logins hist).any (fun e => e.1 = i && e.2.isSuccess ip) =
      hist.any fun e => e.1 = i && e.2.isSuccess ip := by
    intro i
    rw [Bool.eq_iff_iff, List.any_eq_true, List.any_eq_true]
    apply exists_congr
    intro e
    apply and_congr_left
    intro he
    rw [Bool.and_eq_true, isSuccess_iff] at he
    obtain ⟨_, b, hb⟩ := he
    exact mem_logins (by rw [hb]; rfl)
  have hsame : wrongCheck (logins hist) ip start = wrongCheck hist ip start := by
    funext e
    unfold wrongCheck
    rw [hany]
  unfold wrongChecks
  rw [hsame]
  unfold logins
  rw [List.countP_filter]
  apply List.countP_congr
  intro e _
  cases he : e.2 <;> simp [wrongCheck, he, Event.isLogin, Event.passedAt]

/-- A request in phase `φ` goes on to `φ'`, with the failures stored before and after, and the
events it adds. -/
inductive LoginMove (clock : Time) (stored : String → List Time) :
    Phase → Phase → (String → List Time) → List Event → Prop
  | aside {φ φ' : Phase} {evs : List Event} : (∀ ev ∈ evs, ev.isLogin = false) →
      (∀ ip now fails, φ' = .checking ip now fails → φ = φ') → LoginMove clock stored φ φ' stored evs
  | blocked {ip : String} :
      loginMaxFails ≤ (within loginWindow clock (stored ip)).length →
      LoginMove clock stored .fresh .over
        (Function.update stored ip (within loginWindow clock (stored ip))) []
  | passed {ip : String} : (within loginWindow clock (stored ip)).length < loginMaxFails →
      LoginMove clock stored .fresh (.checking ip clock (within loginWindow clock (stored ip)))
        (Function.update stored ip (within loginWindow clock (stored ip))) [.passed ip clock]
  | failed {ip : String} {now : Time} {fails : List Time} :
      LoginMove clock stored (.checking ip now fails) .over
        (Function.update stored ip (fails ++ [now])) [.failed ip]
  | succeeded {ip : String} {now : Time} {fails : List Time} :
      LoginMove clock stored (.checking ip now fails) .over (Function.update stored ip [])
        [.succeeded ip clock]

variable {pwd : CryptContext} {s s' : Shared} {e : Eff} {a : Ans e}

theorem loginMove {settings : Settings} {φ φ' : Phase} (hp : PhaseT settings φ e a φ')
    (h : Act pwd s e a s') :
    LoginMove s.monotonic s.loginFails φ φ' s'.loginFails (events s e a) := by
  have haside : s'.loginFails = s.loginFails → (∀ ev ∈ events s e a, ev.isLogin = false) →
      (∀ ip now fails, φ' = .checking ip now fails → φ = φ') →
      LoginMove s.monotonic s.loginFails φ φ' s'.loginFails (events s e a) := by
    intro hs hev hφ
    rw [hs]
    exact .aside hev hφ
  cases hp with
  | quiet he =>
    obtain ⟨hs, _, hev⟩ := act_quiet he h
    exact haside hs (by simp [hev]) fun _ _ _ _ => rfl
  | @blocked ip _ hlen =>
    obtain ⟨i, h⟩ := h
    cases i <;> simp only [perform, reduceCtorEq] at h
    cases h
    have hev : events s (.recentFails ip) (s.monotonic, within loginWindow s.monotonic
        (s.loginFails ip)) = [] := if_neg (Nat.not_lt.mpr hlen)
    rw [hev]
    exact .blocked hlen
  | @passed ip _ hlen =>
    obtain ⟨i, h⟩ := h
    cases i <;> simp only [perform, reduceCtorEq] at h
    cases h
    have hev : events s (.recentFails ip) (s.monotonic, within loginWindow s.monotonic
        (s.loginFails ip)) = [.passed ip s.monotonic] := if_pos hlen
    rw [hev]
    exact .passed hlen
  | failed =>
    obtain ⟨i, h⟩ := h
    cases i <;> simp only [perform, reduceCtorEq] at h
    cases h
    exact .failed
  | succeeded =>
    obtain ⟨i, h⟩ := h
    cases i <;> simp only [perform, reduceCtorEq] at h
    cases h
    exact .succeeded
  | read | replaced | exhausted _ | compared _ | missed =>
    obtain ⟨i, h⟩ := h
    cases i <;> simp only [perform, reduceCtorEq] at h
    cases h
    exact haside rfl (by simp [events, Event.isLogin]) (by simp)
  | missing =>
    obtain ⟨i, h⟩ := h
    cases i <;> simp only [perform, reduceCtorEq] at h
    · split at h <;> cases h
      exact haside rfl (by simp [events]) (by simp)
    · split at h <;> try cases h
      split at h <;> cases h
  | took =>
    obtain ⟨i, h⟩ := h
    cases i <;> simp only [perform, reduceCtorEq] at h
    · split at h <;> cases h
    · split at h <;> try cases h
      split at h <;> cases h
      exact haside rfl (by simp [events, Event.isLogin]) (by simp)
  | @changed _ _ _ _ stored =>
    obtain ⟨i, h⟩ := h
    cases i <;> simp only [perform, reduceCtorEq] at h
    split at h <;> cases h <;>
      exact haside rfl (by simp [events, Event.isLogin]) (by simp)

section Entry
variable {ip : String} {start : Time} {i j : Nat} {ev : Event} {L : List (Nat × Event)}

theorem pending_success (h : ev.isSuccess ip = true) : pending ip ((i, ev) :: L) = [] := by
  simp [pending, h]

theorem pending_cons (h : ev.isSuccess ip = false) :
    pending ip ((i, ev) :: L) = (ev.passedAt ip).toList ++ pending ip L := by
  unfold pending
  rw [List.takeWhile_cons_of_pos (by simp [h])]
  rw [List.filterMap_cons]
  cases ev.passedAt ip <;> rfl

theorem NoSuccess.of_cons (h : NoSuccess ((i, ev) :: L) ip start) : NoSuccess L ip start :=
  fun j b hb => h j b (List.mem_cons_of_mem _ hb)

theorem wrongCheck_cons_le {e : Nat × Event} (h : wrongCheck ((i, ev) :: L) ip start e = true) :
    wrongCheck L ip start e = true := by
  simp only [wrongCheck, List.any_cons, Bool.and_eq_true, Bool.not_eq_true', Bool.or_eq_false_iff]
    at h ⊢
  exact ⟨h.1, h.2.2⟩

theorem wrongChecks_cons (h : (ev.passedAt ip).any
    (fun now => start ≤ now && now < start + loginWindow) = false) :
    wrongChecks ((i, ev) :: L) ip start ≤ wrongChecks L ip start := by
  have hhead : wrongCheck ((i, ev) :: L) ip start (i, ev) = false := by simp [wrongCheck, h]
  unfold wrongChecks
  rw [List.countP_cons_of_neg (by simp [hhead])]
  exact List.countP_mono_left fun e _ he => wrongCheck_cons_le he

theorem wrongChecks_cons_le_succ :
    wrongChecks ((i, ev) :: L) ip start ≤ wrongChecks L ip start + 1 := by
  unfold wrongChecks
  rw [List.countP_cons]
  have htail : L.countP (wrongCheck ((i, ev) :: L) ip start) ≤ L.countP (wrongCheck L ip start) :=
    List.countP_mono_left fun e _ he => wrongCheck_cons_le he
  split <;> omega

end Entry

/-- A success comes after the logins before it, also by the clock. -/
def Ordered (L : List (Nat × Event)) : Prop :=
  L.Pairwise fun e e' => ∀ ip b t, e.2 = .succeeded ip b → e'.2 = .passed ip t → t ≤ b

/-- In a window that is still open and has no success, every check is pending. -/
theorem wrongChecks_le_pending {ip : String} {start clock : Time}
    (hc : clock < start + loginWindow) {L : List (Nat × Event)} (ho : Ordered L)
    (hpast : ∀ i b, (i, .succeeded ip b) ∈ L → b ≤ clock) (hno : NoSuccess L ip start) :
    wrongChecks L ip start ≤ (within loginWindow clock (pending ip L)).length := by
  induction L with
  | nil => simp [wrongChecks]
  | cons e L ih =>
    obtain ⟨i, ev⟩ := e
    obtain ⟨hhead, ho⟩ := List.pairwise_cons.mp ho
    have ih := ih ho (fun j b hb => hpast j b (List.mem_cons_of_mem _ hb)) hno.of_cons
    by_cases hsucc : ev.isSuccess ip = true
    · -- before the last success every check is older than the window
      obtain ⟨b, rfl⟩ := isSuccess_iff.mp hsucc
      have hb : b < start := by
        have hle := hpast i b List.mem_cons_self
        have hout := hno i b List.mem_cons_self
        by_contra hge
        exact hout ⟨le_of_not_gt hge, lt_of_le_of_lt hle hc⟩
      have hzero : wrongChecks ((i, .succeeded ip b) :: L) ip start = 0 := by
        unfold wrongChecks
        rw [List.countP_eq_zero]
        intro e he hw
        simp only [wrongCheck, Bool.and_eq_true, Option.any_eq_true] at hw
        obtain ⟨⟨t, ht, hin⟩, -⟩ := hw
        rw [passedAt_eq_some] at ht
        rcases List.mem_cons.mp he with rfl | he
        · cases ht
        · have htb := hhead e he ip b t rfl ht
          have hst : start ≤ t := by simpa using hin.1
          exact absurd (lt_of_le_of_lt (le_trans hst htb) hb) (lt_irrefl start)
      omega
    · rw [Bool.not_eq_true] at hsucc
      rw [pending_cons hsucc]
      cases hp : ev.passedAt ip with
      | none =>
        refine le_trans (wrongChecks_cons (by simp [hp])) ?_
        simpa using ih
      | some t =>
        by_cases hin : start ≤ t ∧ t < start + loginWindow
        · have hrecent : clock - t < loginWindow := by linarith [hin.1]
          have hlen : (within loginWindow clock ((some t).toList ++ pending ip L)).length =
              (within loginWindow clock (pending ip L)).length + 1 := by
            simp [within, hrecent]
          rw [hlen]
          exact le_trans wrongChecks_cons_le_succ (Nat.add_le_add_right ih 1)
        · have hout : (ev.passedAt ip).any
              (fun now => start ≤ now && now < start + loginWindow) = false := by
            simpa [hp] using hin
          refine le_trans (wrongChecks_cons hout) (le_trans ih ?_)
          apply List.Sublist.length_le
          apply List.Sublist.filter
          exact List.sublist_append_right _ _

/-- The logins so far, with the clock, the failures stored and the phases of the requests. -/
structure Limiter (clock : Time) (stored : String → List Time) (phases : List Phase)
    (L : List (Nat × Event)) : Prop where
  /-- its copy has all pending checks but its own -/
  checking : ∀ i ip now fails, phases[i]? = some (.checking ip now fails) →
    (i, .passed ip now) ∈ L ∧ ¬ CameOut L ip i ∧ fails.length < loginMaxFails ∧
      ∃ rest, pending ip L = now :: rest ∧ Covers clock rest fails
  alone : ∀ ip i i' t t', (i, .passed ip t) ∈ L → (i', .passed ip t') ∈ L →
    ¬ CameOut L ip i → ¬ CameOut L ip i' → i = i'
  /-- between two checks the stored list has all pending ones -/
  stored : ∀ ip, (∀ i t, (i, .passed ip t) ∈ L → CameOut L ip i) →
    Covers clock (pending ip L) (stored ip)
  passedBefore : ∀ i ip t, (i, .passed ip t) ∈ L → t ≤ clock
  succeededBefore : ∀ i ip b, (i, .succeeded ip b) ∈ L → b ≤ clock
  ordered : Ordered L
  limited : ∀ ip start, NoSuccess L ip start → wrongChecks L ip start ≤ loginMaxFails

namespace Limiter
variable {clock clock' : Time} {stored : String → List Time} {phases : List Phase}
  {L : List (Nat × Event)}

theorem tick (h : Limiter clock stored phases L) (hle : clock ≤ clock') :
    Limiter clock' stored phases L where
  checking := by
    intro i ip now fails hi
    obtain ⟨hp, hc, hlen, rest, hr, hcov⟩ := h.checking i ip now fails hi
    exact ⟨hp, hc, hlen, rest, hr, hcov.later hle⟩
  alone := h.alone
  stored := fun ip hall => (h.stored ip hall).later hle
  passedBefore := fun i ip t ht => le_trans (h.passedBefore i ip t ht) hle
  succeededBefore := fun i ip b hb => le_trans (h.succeededBefore i ip b hb) hle
  ordered := h.ordered
  limited := h.limited

theorem receive (h : Limiter clock stored phases L) :
    Limiter clock stored (phases ++ [.fresh]) L where
  checking := by
    intro i ip now fails hi
    rw [List.getElem?_append] at hi
    split at hi
    · exact h.checking i ip now fails hi
    · rw [List.getElem?_singleton] at hi
      split at hi <;> cases hi
  alone := h.alone
  stored := h.stored
  passedBefore := h.passedBefore
  succeededBefore := h.succeededBefore
  ordered := h.ordered
  limited := h.limited

/-- What a move of one request that adds nothing to the logins has to show. -/
theorem set_aside (h : Limiter clock stored phases L) {i : Nat} {φ φ' : Phase}
    (hi : phases[i]? = some φ) (hc : ∀ ip now fails, φ' = .checking ip now fails → φ = φ')
    {stored' : String → List Time}
    (hs : ∀ ip, Covers clock (pending ip L) (stored ip) → Covers clock (pending ip L) (stored' ip)) :
    Limiter clock stored' (phases.set i φ') L where
  checking := by
    intro j ip now fails hj
    rcases Crew.phase_set hj with ⟨rfl, rfl⟩ | ⟨-, hj⟩
    · have hφ := hc ip now fails rfl
      exact h.checking j ip now fails (hφ ▸ hi)
    · exact h.checking j ip now fails hj
  alone := h.alone
  stored := fun ip hall => hs ip (h.stored ip hall)
  passedBefore := h.passedBefore
  succeededBefore := h.succeededBefore
  ordered := h.ordered
  limited := h.limited

theorem blocked (h : Limiter clock stored phases L) {i : Nat} {ip : String}
    (hi : phases[i]? = some .fresh) :
    Limiter clock (Function.update stored ip (within loginWindow clock (stored ip)))
      (phases.set i .over) L := by
  refine h.set_aside hi (by simp) ?_
  intro ip' hcov
  rw [Function.update_apply]
  split
  · next heq =>
    subst heq
    exact hcov.trim
  · exact hcov

theorem cameOut_passed {ip ip' : String} {i j : Nat} {now : Time} :
    CameOut ((i, .passed ip now) :: L) ip' j ↔ CameOut L ip' j := by
  simp [CameOut]

theorem passed (h : Limiter clock stored phases L) {i : Nat} {ip : String}
    (hnew : ∀ ev, (i, ev) ∉ L)
    (hlen : (within loginWindow clock (stored ip)).length < loginMaxFails)
    (hall : ∀ j t, (j, .passed ip t) ∈ L → CameOut L ip j) :
    Limiter clock (Function.update stored ip (within loginWindow clock (stored ip)))
      (phases.set i (.checking ip clock (within loginWindow clock (stored ip))))
      ((i, .passed ip clock) :: L) := by
  have hcov : Covers clock (pending ip L) (within loginWindow clock (stored ip)) :=
    (h.stored ip hall).trim
  have hpend : pending ip ((i, .passed ip clock) :: L) = clock :: pending ip L := by
    rw [pending_cons rfl]
    simp [Event.passedAt]
  have hother : ∀ ip', ip ≠ ip' → pending ip' ((i, .passed ip clock) :: L) = pending ip' L := by
    intro ip' hne
    rw [pending_cons rfl]
    simp [Event.passedAt, hne]
  constructor
  case checking =>
    intro j ip' now fails hj
    rcases Crew.phase_set hj with ⟨rfl, heq⟩ | ⟨-, hj⟩
    · cases heq
      refine ⟨List.mem_cons_self, ?_, hlen, pending ip L, hpend, hcov⟩
      rw [cameOut_passed]
      rintro (hout | ⟨b, hout⟩)
      · exact hnew _ hout
      · exact hnew _ hout
    · obtain ⟨hp, hc, hl, rest, hr, hcov'⟩ := h.checking j ip' now fails hj
      have hne : ip ≠ ip' := by
        intro heq
        subst heq
        exact hc (hall j now hp)
      refine ⟨List.mem_cons_of_mem _ hp, ?_, hl, rest, ?_, hcov'⟩
      · rwa [cameOut_passed]
      · rwa [hother ip' hne]
  case alone =>
    intro ip' j j' t t' hj hj' hc hc'
    rw [cameOut_passed] at hc hc'
    rcases List.mem_cons.mp hj with heq | hj
    · cases heq
      rcases List.mem_cons.mp hj' with heq' | hj'
      · cases heq'
        rfl
      · exact absurd (hall j' t' hj') hc'
    · rcases List.mem_cons.mp hj' with heq' | hj'
      · cases heq'
        exact absurd (hall j t hj) hc
      · exact h.alone ip' j j' t t' hj hj' hc hc'
  case stored =>
    intro ip' hall'
    by_cases hip : ip = ip'
    · subst hip
      have hout := hall' i clock List.mem_cons_self
      rw [cameOut_passed] at hout
      rcases hout with hout | ⟨b, hout⟩
      · exact absurd hout (hnew _)
      · exact absurd hout (hnew _)
    · rw [hother ip' hip, Function.update_of_ne (Ne.symm hip)]
      apply h.stored
      intro j t hj
      exact cameOut_passed.mp (hall' j t (List.mem_cons_of_mem _ hj))
  case passedBefore =>
    intro j ip' t hj
    rcases List.mem_cons.mp hj with heq | hj
    · cases heq
      exact le_refl _
    · exact h.passedBefore j ip' t hj
  case succeededBefore =>
    intro j ip' b hj
    rcases List.mem_cons.mp hj with heq | hj
    · cases heq
    · exact h.succeededBefore j ip' b hj
  case ordered =>
    refine List.pairwise_cons.mpr ⟨?_, h.ordered⟩
    intro e _ ip' b t hb
    cases hb
  case limited =>
    intro ip' start hno
    by_cases hin : (Event.passedAt ip' (.passed ip clock)).any
        (fun now => start ≤ now && now < start + loginWindow) = true
    · -- the eighth at most: the copy has the earlier ones
      simp only [Option.any_eq_true, passedAt_eq_some, Event.passed.injEq] at hin
      obtain ⟨now, ⟨rfl, rfl⟩, hin⟩ := hin
      simp only [Bool.and_eq_true, decide_eq_true_eq] at hin
      have hbound := wrongChecks_le_pending hin.2 h.ordered
        (fun j b hb => h.succeededBefore j ip b hb) hno.of_cons
      have hle := hcov.length_le
      have hself : within loginWindow clock (within loginWindow clock (stored ip)) =
          within loginWindow clock (stored ip) := within_within (le_refl clock) _
      rw [hself] at hle
      have hsucc := @wrongChecks_cons_le_succ ip start i (.passed ip clock) L
      omega
    · exact le_trans (wrongChecks_cons (by simpa using hin)) (h.limited ip' start hno.of_cons)

/-- The check of request `i` comes out with `ev`. -/
theorem cameOut (h : Limiter clock stored phases L) {i : Nat} {ip : String} {now : Time}
    {fails new : List Time} {ev : Event} (hi : phases[i]? = some (.checking ip now fails))
    (hnot : ∀ ip', ev.passedAt ip' = none)
    (hout : ∀ ip' j, CameOut ((i, ev) :: L) ip' j ↔ CameOut L ip' j ∨ j = i ∧ ip' = ip)
    (hsucc : ∀ ip' b, ev = .succeeded ip' b → ip' = ip ∧ b = clock)
    (hcov : Covers clock (pending ip ((i, ev) :: L)) new) :
    Limiter clock (Function.update stored ip new) (phases.set i .over) ((i, ev) :: L) := by
  obtain ⟨hpi, hci, -⟩ := h.checking i ip now fails hi
  have hpassed : ∀ j ip' t, (j, .passed ip' t) ∈ (i, ev) :: L → (j, .passed ip' t) ∈ L := by
    intro j ip' t hj
    rcases List.mem_cons.mp hj with heq | hj
    · cases heq
      have hself := hnot ip'
      simp [Event.passedAt] at hself
    · exact hj
  have hother : ∀ ip', ip' ≠ ip → pending ip' ((i, ev) :: L) = pending ip' L := by
    intro ip' hne
    have hns : ev.isSuccess ip' = false := by
      rw [Bool.eq_false_iff, Ne, isSuccess_iff]
      rintro ⟨b, hb⟩
      exact hne (hsucc ip' b hb).1
    rw [pending_cons hns, hnot ip']
    rfl
  constructor
  case checking =>
    intro j ip' now' fails' hj
    rcases Crew.phase_set hj with ⟨rfl, heq⟩ | ⟨hne, hj⟩
    · cases heq
    · obtain ⟨hp, hc, hl, rest, hr, hcov'⟩ := h.checking j ip' now' fails' hj
      have hip : ip' ≠ ip := by
        intro heq
        subst heq
        exact hne (h.alone ip' j i now' now hp hpi hc hci)
      refine ⟨List.mem_cons_of_mem _ hp, ?_, hl, rest, ?_, hcov'⟩
      · rw [hout]
        rintro (hc' | ⟨-, heq⟩)
        · exact hc hc'
        · exact hip heq
      · rwa [hother ip' hip]
  case alone =>
    intro ip' j j' t t' hj hj' hc hc'
    rw [hout, not_or] at hc hc'
    exact h.alone ip' j j' t t' (hpassed _ _ _ hj) (hpassed _ _ _ hj') hc.1 hc'.1
  case stored =>
    intro ip' hall
    by_cases hip : ip' = ip
    · subst hip
      rwa [Function.update_self]
    · rw [hother ip' hip, Function.update_of_ne hip]
      apply h.stored
      intro j t hj
      rcases (hout ip' j).mp (hall j t (List.mem_cons_of_mem _ hj)) with hc | ⟨-, heq⟩
      · exact hc
      · exact absurd heq hip
  case passedBefore =>
    intro j ip' t hj
    exact h.passedBefore j ip' t (hpassed j ip' t hj)
  case succeededBefore =>
    intro j ip' b hj
    rcases List.mem_cons.mp hj with heq | hj
    · cases heq
      exact le_of_eq (hsucc ip' b rfl).2
    · exact h.succeededBefore j ip' b hj
  case ordered =>
    refine List.pairwise_cons.mpr ⟨?_, h.ordered⟩
    intro e he ip' b t hb ht
    obtain ⟨j, ev'⟩ := e
    dsimp only at hb ht
    subst ht
    rw [(hsucc ip' b hb).2]
    exact h.passedBefore j ip' t he
  case limited =>
    intro ip' start hno
    exact le_trans (wrongChecks_cons (by simp [hnot ip'])) (h.limited ip' start hno.of_cons)

theorem failed (h : Limiter clock stored phases L) {i : Nat} {ip : String} {now : Time}
    {fails : List Time} (hi : phases[i]? = some (.checking ip now fails)) :
    Limiter clock (Function.update stored ip (fails ++ [now])) (phases.set i .over)
      ((i, .failed ip) :: L) := by
  obtain ⟨-, -, -, rest, hr, hcov⟩ := h.checking i ip now fails hi
  refine h.cameOut hi (fun _ => rfl) ?_ (by simp) ?_
  · intro ip' j
    simp only [CameOut, List.mem_cons, Prod.mk.injEq, Event.failed.injEq, reduceCtorEq, and_false,
      false_or]
    tauto
  · rw [pending_cons rfl, hr]
    exact hcov.append

theorem succeeded (h : Limiter clock stored phases L) {i : Nat} {ip : String} {now : Time}
    {fails : List Time} (hi : phases[i]? = some (.checking ip now fails)) :
    Limiter clock (Function.update stored ip []) (phases.set i .over)
      ((i, .succeeded ip clock) :: L) := by
  refine h.cameOut hi (fun _ => rfl) ?_ ?_ ?_
  · intro ip' j
    simp only [CameOut, List.mem_cons, Prod.mk.injEq, Event.succeeded.injEq, reduceCtorEq,
      and_false, false_or]
    constructor
    · rintro (hf | ⟨b, ⟨rfl, rfl, rfl⟩ | hb⟩)
      · exact .inl (.inl hf)
      · exact .inr ⟨rfl, rfl⟩
      · exact .inl (.inr ⟨b, hb⟩)
    · rintro ((hf | ⟨b, hb⟩) | ⟨rfl, rfl⟩)
      · exact .inl hf
      · exact .inr ⟨b, .inr hb⟩
      · exact .inr ⟨clock, .inl ⟨rfl, rfl, rfl⟩⟩
  · intro ip' b heq
    cases heq
    exact ⟨rfl, rfl⟩
  · rw [pending_success (by simp [Event.isSuccess])]
    exact List.Subperm.refl _

theorem events_passed {ip : String} {now : Time} (i : Nat)
    (h : Event.passed ip now ∈ events s e a) :
    ∃ b : Time × List Time, Label.await i e a = .await i (.recentFails ip) b ∧
      b.2.length < loginMaxFails := by
  cases e with
  | recentFails ip' =>
    obtain ⟨now', fails⟩ := a
    simp only [events] at h
    split at h
    · next hlen =>
      rw [List.mem_singleton] at h
      cases h
      exact ⟨_, rfl, hlen⟩
    · cases h
  | selectLatest username now' =>
    cases a with
    | none => simp [events] at h
    | some entry => simp [events] at h
  | commitPassword entry insert passwordHash => cases entry <;> cases a <;> simp [events] at h
  | _ => simp [events] at h

/-- One await of one request. -/
theorem step {t : Abs} {i : Nat} {φ φ' : Phase}
    (h : Limiter t.shared.monotonic t.shared.loginFails t.phases (logins t.hist))
    (hown : Attributed t.phases t.hist) (hi : t.phases[i]? = some φ) (hp : PhaseT t.settings φ e a φ')
    (hact : Act t.settings.pwd t.shared e a s') (hok : Cond.oneCheck t.hist (.await i e a)) :
    Limiter s'.monotonic s'.loginFails (t.phases.set i φ')
      (logins ((events t.shared e a).map (i, ·) ++ t.hist)) := by
  rw [act_monotonic hact]
  have hm := loginMove hp hact
  generalize hs : s'.loginFails = stored' at hm ⊢
  generalize hev : events t.shared e a = evs at hm ⊢
  cases hm with
  | aside haside hc =>
    rw [logins_aside haside]
    exact h.set_aside hi hc fun _ hcov => hcov
  | blocked hlen => exact h.blocked hi
  | failed => exact h.failed hi
  | succeeded => exact h.succeeded hi
  | @passed ip hlen =>
    refine h.passed (fun ev hev => hown.fresh i hi ev (mem_of_logins hev)) hlen ?_
    intro j t' hj
    obtain ⟨b, hl, hb⟩ := events_passed i (by rw [hev]; exact List.mem_singleton_self _)
    rw [cameOut_logins]
    exact hok i ip b hl hb j t' ((mem_logins rfl).mp hj)

end Limiter

def Abs.Limited (t : Abs) : Prop :=
  Limiter t.shared.monotonic t.shared.loginFails t.phases (logins t.hist)

theorem AReachable.limited {t : Abs} (h : AReachable Cond.oneCheck t) : t.Limited := by
  refine Reach.strengthen (fun t ht => AReachable.attributed ht) ?_ ?_ h
  · intro t ht
    unfold Abs.Limited
    have hnil : logins t.hist = [] := by rw [ht.hist]; rfl
    rw [hnil, ht.phases]
    refine ⟨by simp, by simp, ?_, by simp, by simp, List.Pairwise.nil, ?_⟩
    · intro ip _
      rw [ht.loginFails]
      exact List.Subperm.refl _
    · intro ip start _
      simp [wrongChecks]
  · intro t l t' hown _ ih hstep hok
    cases hstep with
    | tick hle => exact ih.tick hle
    | receive r => exact ih.receive
    | await hi hp hact => exact ih.step hown hi hp hact hok

def rateLimited : Exc :=
  .appHTTPException "RATE_LIMITED" "muitas tentativas; aguarde alguns minutos" 429

/-- In every run whose logins of one key never overlap in the credential check, a window without a
success of the key has at most eight checks of the key that did not succeed. A login that does not
go on to the check is refused as `RATE_LIMITED`. -/
theorem wrong_logins_limited {s : Sys} (h : Reachable Cond.oneCheck s) :
    (∀ ip start, NoSuccess s.hist ip start → wrongChecks s.hist ip start ≤ loginMaxFails) ∧
    ∀ username password client, ∃ k, serve s.settings (.login username password client) =
        .await (.recentFails (clientIp client)) k ∧
      ∀ now fails, loginMaxFails ≤ fails.length →
        k (now, fails) = .await (.audit "auth.login_blocked") fun _ => .ret (.error rateLimited) := by
  constructor
  · intro ip start hno
    obtain ⟨t, ht, href⟩ := h.abstract
    have hlim := ht.limited.limited ip start
    rw [noSuccess_logins, wrongChecks_logins, ← href.hist] at hlim
    exact hlim hno
  · intro username password client
    refine ⟨_, rfl, ?_⟩
    intro now fails hlen
    simp only [Prog.bind, hlen, if_true]
    rfl

def checkOneCheck (hist : List (Nat × Event)) : Label → Bool
  | .await _ (.recentFails ip) (_, fails) => decide (loginMaxFails ≤ fails.length) ||
    hist.all fun e => (e.2.passedAt ip).isNone ||
      hist.any fun e' => e'.1 = e.1 && (e'.2 = .failed ip || e'.2.isSuccess ip)
  | _ => true

theorem checkOneCheck_sound (hist : List (Nat × Event)) (l : Label)
    (h : checkOneCheck hist l = true) : Cond.oneCheck hist l := by
  intro i ip a hl hlen j t hj
  subst hl
  obtain ⟨now, fails⟩ := a
  simp only [checkOneCheck, Bool.or_eq_true, decide_eq_true_eq, List.all_eq_true] at h
  rcases h with h | h
  · exact absurd hlen (Nat.not_lt.mpr h)
  · rcases h (j, .passed ip t) hj with hnone | hany
    · simp [Event.passedAt] at hnone
    · rw [List.any_eq_true] at hany
      obtain ⟨⟨j', ev⟩, hmem, hev⟩ := hany
      simp only [Bool.and_eq_true, decide_eq_true_eq, Bool.or_eq_true, isSuccess_iff] at hev
      obtain ⟨rfl, rfl | ⟨b, rfl⟩⟩ := hev
      · exact .inl hmem
      · exact .inr ⟨b, hmem⟩

theorem noSuccess_of_all {hist : List (Nat × Event)} {ip : String} {start : Time}
    (h : (hist.all fun e => !e.2.isSuccess ip) = true) : NoSuccess hist ip start := by
  intro i b hb
  have hself := List.all_eq_true.mp h _ hb
  simp [Event.isSuccess] at hself

namespace Trials

def wrongLogin : Choice := .receive (.login "admin" "guess" (client 1))

/-- One wrong login after the other. -/
def oneByOne : List Choice :=
  List.replicate 9 wrongLogin ++ (List.range 8).flatMap fun i => runs i (List.replicate 4 .none)

theorem oneByOne_ends : (panel.run checkOneCheck oneByOne).any (fun s =>
    wrongChecks s.hist "1" 0 = loginMaxFails ∧ (s.hist.all fun e => !e.2.isSuccess "1") = true) =
    true := by decide +kernel

theorem oneByOne_runs : (panel.run checkOneCheck oneByOne).isSome = true :=
  Option.isSome_of_any oneByOne_ends

/-- Nine wrong logins that are all in the credential check before the first comes out. -/
def overlapping : List Choice :=
  List.replicate 9 wrongLogin ++ (List.range 9).flatMap (fun i => runs i [.none]) ++
    (List.range 9).flatMap fun i => runs i (List.replicate 3 .none)

end Trials

open Trials

theorem eight_wrong_logins :
    let s := (panel.run checkOneCheck oneByOne).get oneByOne_runs
    wrongChecks s.hist "1" 0 = loginMaxFails ∧ wrongChecks s.hist "1" 0 ≤ loginMaxFails := by
  obtain ⟨hwrong, hnone⟩ := of_decide_eq_true (Option.get_of_any_eq_true _ _ oneByOne_ends)
  refine ⟨hwrong, ?_⟩
  apply (wrong_logins_limited (reached checkOneCheck_sound oneByOne_runs)).1 "1" 0
  exact noSuccess_of_all hnone

theorem wrong_logins_overlap : ∃ s, Reachable Cond.any s ∧ NoSuccess s.hist "1" 0 ∧
    loginMaxFails < wrongChecks s.hist "1" 0 := by
  have hends : (panel.run (fun _ _ => true) overlapping).any (fun s =>
      (s.hist.all fun e => !e.2.isSuccess "1") = true ∧
        loginMaxFails < wrongChecks s.hist "1" 0) = true := by decide +kernel
  obtain ⟨s, hreach, hends⟩ := evaluated_any hends
  obtain ⟨hnone, hwrong⟩ := of_decide_eq_true hends
  exact ⟨s, hreach, noSuccess_of_all hnone, hwrong⟩

end Clusteration.Auth
