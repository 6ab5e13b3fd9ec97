import Clusteration.Auth.Phases

open Async Transition

namespace Clusteration.Auth

/-- What the history says since request `i` read the unused codes. -/
def sinceRead (i : Nat) (hist : List (Nat × Event)) : List (Nat × Event) :=
  hist.takeWhile fun e => e ≠ (i, .read)

/-- How often something happened. -/
def times (ev : Event) (hist : List (Nat × Event)) : Nat := hist.countP fun e => e.2 = ev

/-- Every request that read this code has committed what it changed in it. -/
def Settled (hist : List (Nat × Event)) (c : ResetId) : Prop :=
  ∀ i, (i, .took c) ∈ hist → (i, .settled c) ∈ hist

/-- A `reset` reads a code only when every `reset` that read it before has committed; and between
its read and its commit no `forgot` sees another one commit. -/
structure Cond.unshared (hist : List (Nat × Event)) (l : Label) : Prop where
  reset : ∀ i username now c row, l = .await i (.selectLatest username now) (some (c, row)) →
    Settled hist c
  forgot : ∀ i olds new, l = .await i (.commitCode olds new) () →
    ∀ j, (j, .replaced) ∉ sinceRead i hist

/-- At most one code is live, and each code is compared with at most six guesses and changes the
password at most once. -/
structure OneCode (admin : String) (s : Shared) (hist : List (Nat × Event)) : Prop where
  live : ∀ c c' row row', s.resets.get c = some row → s.resets.get c' = some row' →
    row.live admin s.utcnow = true → row'.live admin s.utcnow = true → c = c'
  compared : ∀ c, times (.compared c) hist ≤ 6
  changed : ∀ c, times (.changed c) hist ≤ 1

def Event.isCode : Event → Bool
  | .read | .replaced | .took _ | .compared _ | .settled _ | .changed _ => true
  | _ => false

/-- The phases in which a request is about to commit something about the codes. -/
def Phase.isCode : Phase → Bool
  | .replacing _ | .holding _ _ | .guessed _ _ => true
  | _ => false

/-- What `commitCode` makes of the codes it read. -/
def markUsed (olds : List (ResetId × Time)) (t : Table PasswordReset) : Table PasswordReset :=
  olds.foldl (fun t old => t.update old.1 fun row => { row with usedAt := some old.2 }) t

inductive CodeMove (admin : String) (t : Table PasswordReset) :
    Phase → Phase → Table PasswordReset → List Event → Prop
  | aside {φ φ' : Phase} {evs : List Event} : (∀ ev ∈ evs, ev.isCode = false) →
      (φ'.isCode = true → φ = φ') → CodeMove admin t φ φ' t evs
  | read {olds : List ResetId} : (∀ c row, t.get c = some row → row.unused admin = true → c ∈ olds) →
      CodeMove admin t .fresh (.replacing olds) t [.read]
  | replaced {olds : List (ResetId × Time)} {new : PasswordReset} :
      CodeMove admin t (.replacing (olds.map Prod.fst)) .over ((markUsed olds t).insert new)
        [.replaced]
  | took {c : ResetId} {row : PasswordReset} : t.get c = some row → row.usedAt = none →
      CodeMove admin t .fresh (.holding c (row.attempts + 1)) t [.took c]
  | compared {c : ResetId} {n : Nat} : n ≤ 6 →
      CodeMove admin t (.holding c n) (.guessed c n) t [.compared c]
  | settled {φ : Phase} {c : ResetId} {n : Nat} {usedAt : Option Time} :
      φ = .holding c n ∨ φ = .guessed c n →
      CodeMove admin t φ .over (t.update c fun row => row.merge ⟨c, n, usedAt⟩) [.settled c]
  | changed {c : ResetId} {n : Nat} {now : Time} :
      CodeMove admin t (.guessed c n) .over (t.update c fun row => row.merge ⟨c, n, some now⟩)
        [.changed c, .settled c]

variable {pwd : CryptContext} {s s' : Shared} {e : Eff} {a : Ans e}

theorem codeMove {settings : Settings} {φ φ' : Phase} (hp : PhaseT settings φ e a φ')
    (h : Act pwd s e a s') :
    CodeMove settings.adminUsername s.resets φ φ' s'.resets (events s e a) := by
  have haside : s'.resets = s.resets → (∀ ev ∈ events s e a, ev.isCode = false) →
      (φ'.isCode = true → φ = φ') →
      CodeMove settings.adminUsername s.resets φ φ' s'.resets (events s e a) := by
    intro hs hev hφ
    rw [hs]
    exact .aside hev hφ
  cases hp with
  | quiet he =>
    obtain ⟨_, hs, hev⟩ := act_quiet he h
    exact haside hs (by simp [hev]) fun _ => rfl
  | blocked hlen =>
    obtain ⟨i, h⟩ := h
    cases i <;> simp only [perform, reduceCtorEq] at h
    cases h
    exact haside rfl (by simp [events, Nat.not_lt.mpr hlen]) (by simp [Phase.isCode])
  | passed hlen =>
    obtain ⟨i, h⟩ := h
    cases i <;> simp only [perform, reduceCtorEq] at h
    cases h
    refine haside rfl ?_ (by simp [Phase.isCode])
    intro ev hev
    simp only [events, hlen, if_true, List.mem_singleton] at hev
    rw [hev]
    rfl
  | failed | succeeded =>
    obtain ⟨i, h⟩ := h
    cases i <;> simp only [perform, reduceCtorEq] at h
    cases h
    exact haside rfl (by simp [events, Event.isCode]) (by simp [Phase.isCode])
  | read =>
    obtain ⟨i, h⟩ := h
    cases i <;> simp only [perform, reduceCtorEq] at h
    cases h
    refine .read fun c row hc hun => ?_
    have hmem : c ∈ s.resets.select fun row => row.unused settings.adminUsername :=
      Table.mem_select.mpr ⟨row, hc, hun⟩
    rw [List.mem_map]
    exact ⟨(c, row), List.mem_filterMap.mpr ⟨c, hmem, by simp [hc]⟩, rfl⟩
  | replaced =>
    obtain ⟨i, h⟩ := h
    cases i <;> simp only [perform, reduceCtorEq] at h
    cases h
    exact .replaced
  | missing =>
    obtain ⟨i, h⟩ := h
    cases i <;> simp only [perform, reduceCtorEq] at h
    · split at h <;> cases h
      exact haside rfl (by simp [events]) (by simp [Phase.isCode])
    · split at h <;> try cases h
      split at h <;> cases h
  | @took now c row =>
    obtain ⟨i, h⟩ := h
    cases i with
    | code c' =>
      simp only [perform] at h
      split at h
      · cases h
      · next row' hrow =>
        rw [Option.ite_none_right_eq_some] at h
        obtain ⟨hlive, h⟩ := h
        cases h
        simp only [Bool.and_eq_true, PasswordReset.live, PasswordReset.unused,
          Option.isNone_iff_eq_none] at hlive
        exact .took hrow hlive.1.1.2
    | none =>
      simp only [perform] at h
      split at h <;> cases h
    | _ => simp only [perform, reduceCtorEq] at h
  | compared hn =>
    obtain ⟨i, h⟩ := h
    cases i <;> simp only [perform, reduceCtorEq] at h
    cases h
    exact .compared hn
  | exhausted _ =>
    obtain ⟨i, h⟩ := h
    cases i <;> simp only [perform, reduceCtorEq] at h
    cases h
    exact .settled (.inl rfl)
  | missed =>
    obtain ⟨i, h⟩ := h
    cases i <;> simp only [perform, reduceCtorEq] at h
    cases h
    exact .settled (.inr rfl)
  | changed =>
    obtain ⟨i, h⟩ := h
    cases i <;> simp only [perform, reduceCtorEq] at h
    split at h
    · cases h
      exact haside rfl (by simp [events]) (by simp [Phase.isCode])
    · cases h
      exact .changed

section Later
variable {i j : Nat} {ev : Event} {evs : List Event} {H : List (Nat × Event)}

theorem mem_later : (j, ev) ∈ evs.map (i, ·) ++ H ↔ j = i ∧ ev ∈ evs ∨ (j, ev) ∈ H := by
  rw [List.mem_append, List.mem_map]
  constructor
  · rintro (⟨ev', hev, heq⟩ | h)
    · cases heq
      exact .inl ⟨rfl, hev⟩
    · exact .inr h
  · rintro (⟨rfl, hev⟩ | h)
    · exact .inl ⟨ev, hev, rfl⟩
    · exact .inr h

theorem times_later : times ev (evs.map (i, ·) ++ H) = evs.count ev + times ev H := by
  unfold times
  rw [List.countP_append, List.countP_map]
  congr 1

theorem sinceRead_later (h : j = i → .read ∉ evs) :
    sinceRead j (evs.map (i, ·) ++ H) = evs.map (i, ·) ++ sinceRead j H := by
  unfold sinceRead
  rw [List.takeWhile_append_of_pos]
  intro e he
  obtain ⟨ev', hev, rfl⟩ := List.mem_map.mp he
  rw [decide_eq_true_eq]
  intro heq
  cases heq
  exact h rfl hev

theorem not_replaced_of_later (h : j = i → .read ∉ evs)
    (hno : ∀ k, (k, .replaced) ∉ sinceRead j (evs.map (i, ·) ++ H)) :
    ∀ k, (k, .replaced) ∉ sinceRead j H := by
  intro k hk
  rw [sinceRead_later h] at hno
  exact hno k (List.mem_append_right _ hk)

end Later

/-- The code an event is about. -/
def Event.about : Event → Option ResetId
  | .took c | .compared c | .settled c | .changed c => some c
  | _ => none

section Other
variable {i j : Nat} {c : ResetId} {ev : Event} {evs : List Event} {H : List (Nat × Event)}

theorem mem_other (hev : ∀ ev ∈ evs, ev.about ≠ some c) (ha : ev.about = some c) :
    (j, ev) ∈ evs.map (i, ·) ++ H ↔ (j, ev) ∈ H := by
  rw [mem_later]
  constructor
  · rintro (⟨-, hin⟩ | hin)
    · exact absurd ha (hev ev hin)
    · exact hin
  · exact .inr

theorem times_other (hev : ∀ ev ∈ evs, ev.about ≠ some c) (ha : ev.about = some c) :
    times ev (evs.map (i, ·) ++ H) = times ev H := by
  have hzero : evs.count ev = 0 := by
    rw [List.count_eq_zero]
    intro hin
    exact hev ev hin ha
  rw [times_later, hzero, Nat.zero_add]

theorem settled_other (hev : ∀ ev ∈ evs, ev.about ≠ some c) :
    Settled (evs.map (i, ·) ++ H) c ↔ Settled H c := by
  unfold Settled
  apply forall_congr'
  intro k
  rw [mem_other hev rfl, mem_other hev rfl]

end Other

/-- Request `i` has read the code and not yet committed; its attempt is the `n`-th. -/
structure Holds (r : Option PasswordReset) (H : List (Nat × Event)) (i : Nat) (c : ResetId)
    (n : Nat) : Prop where
  took : (i, .took c) ∈ H
  unsettled : (i, .settled c) ∉ H
  unchanged : times (.changed c) H = 0
  row : ∃ row, r = some row ∧ row.attempts + 1 = n

/-- What holds of one code, given its row. -/
structure CodeLife (r : Option PasswordReset) (phases : List Phase) (H : List (Nat × Event))
    (c : ResetId) : Prop where
  holding : ∀ i n, phases[i]? = some (.holding c n) →
    Holds r H i c n ∧ times (.compared c) H < n
  guessed : ∀ i n, phases[i]? = some (.guessed c n) →
    Holds r H i c n ∧ times (.compared c) H ≤ n
  alone : ∀ i i', (i, .took c) ∈ H → (i', .took c) ∈ H → (i, .settled c) ∉ H →
    (i', .settled c) ∉ H → i = i'
  settled : ∀ row, r = some row → Settled H c →
    times (.compared c) H ≤ row.attempts ∧ (row.usedAt = none → times (.changed c) H = 0)
  compared : times (.compared c) H ≤ 6
  changed : times (.changed c) H ≤ 1
  known : ∀ i, (i, .took c) ∈ H → r ≠ none
  untouched : (∀ i, (i, .took c) ∉ H) → times (.compared c) H = 0 ∧ times (.changed c) H = 0

/-- What a step that is not about the code may do to its row. -/
inductive Kept : Option PasswordReset → Option PasswordReset → Prop
  | absent : Kept none none
  | inserted {new : PasswordReset} : Kept none (some new)
  | row {row row' : PasswordReset} : row'.attempts = row.attempts →
      (row'.usedAt = none → row.usedAt = none) → Kept (some row) (some row')

theorem Kept.refl (r : Option PasswordReset) : Kept r r := by
  cases r with
  | none => exact .absent
  | some row => exact .row rfl id

namespace CodeLife
variable {r r' : Option PasswordReset} {phases phases' : List Phase} {H : List (Nat × Event)}
  {i : Nat} {c : ResetId} {n : Nat} {φ : Phase} {evs : List Event}

theorem frame (h : CodeLife r phases H c) (hk : Kept r r')
    (hev : ∀ ev ∈ evs, ev.about ≠ some c)
    (hback : ∀ j n : Nat, (phases'[j]? = some (.holding c n) → phases[j]? = some (.holding c n)) ∧
      (phases'[j]? = some (.guessed c n) → phases[j]? = some (.guessed c n))) :
    CodeLife r' phases' (evs.map (i, ·) ++ H) c := by
  have hholds : ∀ {j n : Nat}, Holds r H j c n → Holds r' (evs.map (i, ·) ++ H) j c n := by
    intro j n hh
    refine ⟨(mem_other hev rfl).mpr hh.took, fun hs => hh.unsettled ((mem_other hev rfl).mp hs),
      (times_other hev rfl).trans hh.unchanged, ?_⟩
    obtain ⟨row, hr, hn⟩ := hh.row
    cases hk with
    | absent => cases hr
    | inserted => cases hr
    | row ha _ =>
      cases hr
      exact ⟨_, rfl, by omega⟩
  constructor
  case holding =>
    intro j n hj
    obtain ⟨hh, hn⟩ := h.holding j n ((hback j n).1 hj)
    exact ⟨hholds hh, by rwa [times_other hev rfl]⟩
  case guessed =>
    intro j n hj
    obtain ⟨hh, hn⟩ := h.guessed j n ((hback j n).2 hj)
    exact ⟨hholds hh, by rwa [times_other hev rfl]⟩
  case alone =>
    intro j j' hj hj' hs hs'
    rw [mem_other hev rfl] at hj hj' hs hs'
    exact h.alone j j' hj hj' hs hs'
  case settled =>
    intro row' hr hs
    rw [settled_other hev] at hs
    rw [times_other hev rfl, times_other hev rfl]
    cases hk with
    | absent => cases hr
    | inserted =>
      have hno : ∀ j, (j, .took c) ∉ H := fun j hj => h.known j hj rfl
      obtain ⟨hcomp, hch⟩ := h.untouched hno
      exact ⟨by omega, fun _ => hch⟩
    | row ha hu =>
      cases hr
      obtain ⟨hcomp, hch⟩ := h.settled _ rfl hs
      exact ⟨by omega, fun hnone => hch (hu hnone)⟩
  case compared =>
    rw [times_other hev rfl]
    exact h.compared
  case changed =>
    rw [times_other hev rfl]
    exact h.changed
  case known =>
    intro j hj hnone
    rw [mem_other hev rfl] at hj
    subst hnone
    cases hk with
    | absent => exact h.known j hj rfl
  case untouched =>
    intro hno
    rw [times_other hev rfl, times_other hev rfl]
    exact h.untouched fun j hj => hno j ((mem_other hev rfl).mpr hj)

/-- Nobody else is about to commit something about the code. -/
theorem only (h : CodeLife r phases H c) (hh : Holds r H i c n) {j m : Nat}
    (hj : phases[j]? = some (.holding c m) ∨ phases[j]? = some (.guessed c m)) : j = i := by
  have hother : Holds r H j c m := by
    rcases hj with hj | hj
    · exact (h.holding j m hj).1
    · exact (h.guessed j m hj).1
  exact h.alone j i hother.took hh.took hother.unsettled hh.unsettled

theorem took {row : PasswordReset} (h : CodeLife r phases H c) (hr : r = some row)
    (hu : row.usedAt = none) (hs : Settled H c) (hnew : ∀ ev, (i, ev) ∉ H) :
    CodeLife r (phases.set i (.holding c (row.attempts + 1))) ((i, .took c) :: H) c := by
  have hcomp : times (.compared c) ((i, .took c) :: H) = times (.compared c) H := by simp [times]
  have hch : times (.changed c) ((i, .took c) :: H) = times (.changed c) H := by simp [times]
  have hset : ∀ {j : Nat}, (j, .settled c) ∈ (i, .took c) :: H ↔ (j, .settled c) ∈ H := by simp
  obtain ⟨hle, hzero⟩ := h.settled row hr hs
  -- whoever read the code before has committed
  have hnone : ∀ {j m : Nat}, phases[j]? = some (.holding c m) ∨ phases[j]? = some (.guessed c m) →
      False := by
    intro j m hj
    have hh : Holds r H j c m := by
      rcases hj with hj | hj
      · exact (h.holding j m hj).1
      · exact (h.guessed j m hj).1
    exact hh.unsettled (hs j hh.took)
  constructor
  case holding =>
    intro j m hj
    rcases Crew.phase_set hj with ⟨rfl, heq⟩ | ⟨-, hj⟩
    · cases heq
      refine ⟨⟨List.mem_cons_self, ?_, hch.trans (hzero hu), row, hr, rfl⟩, by omega⟩
      rw [hset]
      exact hnew _
    · exact (hnone (.inl hj)).elim
  case guessed =>
    intro j m hj
    rcases Crew.phase_set hj with ⟨rfl, heq⟩ | ⟨-, hj⟩
    · cases heq
    · exact (hnone (.inr hj)).elim
  case alone =>
    intro j j' hj hj' hsj hsj'
    rw [hset] at hsj hsj'
    rcases List.mem_cons.mp hj with heq | hj
    · cases heq
      rcases List.mem_cons.mp hj' with heq' | hj'
      · cases heq'
        rfl
      · exact absurd (hs j' hj') hsj'
    · exact absurd (hs j hj) hsj
  case settled =>
    intro row' hr' hs'
    have hself := hs' i List.mem_cons_self
    rw [hset] at hself
    exact absurd hself (hnew _)
  case compared => rw [hcomp]; exact h.compared
  case changed => rw [hch]; exact h.changed
  case known =>
    intro j hj
    simp [hr]
  case untouched =>
    intro hno
    exact absurd List.mem_cons_self (hno i)

theorem compare (h : CodeLife r phases H c) (hi : phases[i]? = some (.holding c n)) (hn : n ≤ 6) :
    CodeLife r (phases.set i (.guessed c n)) ((i, .compared c) :: H) c := by
  obtain ⟨hh, hlt⟩ := h.holding i n hi
  have hcomp : times (.compared c) ((i, .compared c) :: H) = times (.compared c) H + 1 := by
    simp [times]
  have hch : times (.changed c) ((i, .compared c) :: H) = times (.changed c) H := by simp [times]
  have hset : ∀ {j : Nat}, (j, .settled c) ∈ (i, .compared c) :: H ↔ (j, .settled c) ∈ H := by simp
  have htook : ∀ {j : Nat}, (j, .took c) ∈ (i, .compared c) :: H ↔ (j, .took c) ∈ H := by simp
  constructor
  case holding =>
    intro j m hj
    rcases Crew.phase_set hj with ⟨rfl, heq⟩ | ⟨hne, hj⟩
    · cases heq
    · exact absurd (h.only hh (.inl hj)) hne
  case guessed =>
    intro j m hj
    rcases Crew.phase_set hj with ⟨rfl, heq⟩ | ⟨hne, hj⟩
    · cases heq
      refine ⟨⟨htook.mpr hh.took, ?_, hch.trans hh.unchanged, hh.row⟩, by omega⟩
      rw [hset]
      exact hh.unsettled
    · exact absurd (h.only hh (.inr hj)) hne
  case alone =>
    intro j j' hj hj' hsj hsj'
    rw [hset] at hsj hsj'
    rw [htook] at hj hj'
    exact h.alone j j' hj hj' hsj hsj'
  case settled =>
    intro row' hr' hs'
    have hself := hs' i (htook.mpr hh.took)
    rw [hset] at hself
    exact absurd hself hh.unsettled
  case compared => omega
  case changed => rw [hch]; exact h.changed
  case known => exact fun j hj => h.known j (htook.mp hj)
  case untouched =>
    intro hno
    exact absurd (htook.mpr hh.took) (hno i)

/-- Request `i` commits what it changed in the code; `won` when it also changes the password. -/
theorem settle (h : CodeLife r phases H c)
    (hi : phases[i]? = some (.holding c n) ∨ phases[i]? = some (.guessed c n))
    {usedAt : Option Time} {won : Bool} (hwon : won = true → usedAt ≠ none)
    (hevs : evs = if won then [.changed c, .settled c] else [.settled c]) :
    CodeLife (r.map fun row => row.merge ⟨c, n, usedAt⟩) (phases.set i .over)
      (evs.map (i, ·) ++ H) c := by
  have hh : Holds r H i c n ∧ times (.compared c) H ≤ n := by
    rcases hi with hi | hi
    · obtain ⟨hh, hlt⟩ := h.holding i n hi
      exact ⟨hh, by omega⟩
    · exact h.guessed i n hi
  obtain ⟨hh, hle⟩ := hh
  have hnone : ∀ {j m : Nat}, (phases.set i .over)[j]? = some (.holding c m) ∨
      (phases.set i .over)[j]? = some (.guessed c m) → False := by
    rintro j m (hj | hj)
    · rcases Crew.phase_set hj with ⟨-, heq⟩ | ⟨hne, hj⟩
      · cases heq
      · exact hne (h.only hh (.inl hj))
    · rcases Crew.phase_set hj with ⟨-, heq⟩ | ⟨hne, hj⟩
      · cases heq
      · exact hne (h.only hh (.inr hj))
  have hcomp : times (.compared c) (evs.map (i, ·) ++ H) = times (.compared c) H := by
    rw [times_later, hevs]
    cases won <;> simp
  have hch : times (.changed c) (evs.map (i, ·) ++ H) = if won then 1 else 0 := by
    rw [times_later, hevs, hh.unchanged]
    cases won <;> simp
  have htook : ∀ {j : Nat}, (j, .took c) ∈ evs.map (i, ·) ++ H ↔ (j, .took c) ∈ H := by
    intro j
    rw [mem_later, hevs]
    cases won <;> simp
  have hset : ∀ {j : Nat}, (j, .settled c) ∈ evs.map (i, ·) ++ H ↔ j = i ∨ (j, .settled c) ∈ H := by
    intro j
    rw [mem_later, hevs]
    cases won <;> simp
  constructor
  case holding => exact fun j m hj => (hnone (.inl hj)).elim
  case guessed => exact fun j m hj => (hnone (.inr hj)).elim
  case alone =>
    intro j j' hj hj' hsj hsj'
    rw [hset, not_or] at hsj hsj'
    rw [htook] at hj hj'
    exact h.alone j j' hj hj' hsj.2 hsj'.2
  case settled =>
    intro row' hr' _
    obtain ⟨row, hr, rfl⟩ := Option.map_eq_some_iff.mp hr'
    refine ⟨by rw [hcomp]; exact hle, ?_⟩
    intro hnot
    rw [hch]
    cases won with
    | false => rfl
    | true =>
      cases husedAt : usedAt with
      | none => exact absurd husedAt (hwon rfl)
      | some now => simp [PasswordReset.merge, husedAt] at hnot
  case compared => rw [hcomp]; exact h.compared
  case changed =>
    rw [hch]
    split <;> omega
  case known =>
    intro j hj
    rw [Ne, Option.map_eq_none_iff]
    exact h.known j (htook.mp hj)
  case untouched =>
    intro hno
    exact absurd (htook.mpr hh.took) (hno i)

end CodeLife

section Rows
variable {admin : String} {c : ResetId} {t : Table PasswordReset} {row' : PasswordReset}

theorem markUsed_kept (olds : List (ResetId × Time)) (t : Table PasswordReset) (c : ResetId) :
    (t.get c = none ∧ (markUsed olds t).get c = none) ∨
      ∃ row row', t.get c = some row ∧ (markUsed olds t).get c = some row' ∧
        row'.attempts = row.attempts ∧ (row'.usedAt = none → row.usedAt = none) := by
  induction olds generalizing t with
  | nil =>
    cases hr : t.get c with
    | none => exact .inl ⟨rfl, hr⟩
    | some row => exact .inr ⟨row, row, rfl, hr, rfl, id⟩
  | cons old olds ih =>
    have ih := ih (t.update old.1 fun row => { row with usedAt := some old.2 })
    rw [Table.get_update] at ih
    split at ih
    · rcases ih with ⟨hnone, hmark⟩ | ⟨row, row', hr, hmark, ha, hu⟩
      · exact .inl ⟨Option.map_eq_none_iff.mp hnone, hmark⟩
      · obtain ⟨row₀, hr₀, rfl⟩ := Option.map_eq_some_iff.mp hr
        refine .inr ⟨row₀, row', hr₀, hmark, ha, fun hnone => ?_⟩
        cases hu hnone
    · exact ih

theorem markUsed_unused {olds : List (ResetId × Time)}
    (h : (markUsed olds t).get c = some row') (hu : row'.unused admin = true) :
    t.get c = some row' ∧ c ∉ olds.map Prod.fst := by
  induction olds generalizing t with
  | nil => exact ⟨h, List.not_mem_nil⟩
  | cons old olds ih =>
    obtain ⟨hr, hnot⟩ := ih h
    rw [Table.get_update] at hr
    split at hr
    · obtain ⟨row, _, rfl⟩ := Option.map_eq_some_iff.mp hr
      simp [PasswordReset.unused] at hu
    · next hne =>
      refine ⟨hr, ?_⟩
      rw [List.map_cons, List.mem_cons, not_or]
      exact ⟨Ne.symm hne, hnot⟩

theorem merge_unused {entry : Claimed} {row : PasswordReset}
    (h : (row.merge entry).unused admin = true) : row.unused admin = true := by
  simp only [PasswordReset.unused, PasswordReset.merge, Bool.and_eq_true,
    Option.isNone_iff_eq_none, Option.or_eq_none_iff] at h ⊢
  exact ⟨h.1, h.2.2⟩

end Rows

structure Codes (admin : String) (t : Table PasswordReset) (phases : List Phase)
    (H : List (Nat × Event)) : Prop where
  single : ∀ c c' row row', t.get c = some row → t.get c' = some row' →
    row.unused admin = true → row'.unused admin = true → c = c'
  replacing : ∀ i olds, phases[i]? = some (.replacing olds) →
    (∀ j, (j, .replaced) ∉ sinceRead i H) →
    ∀ c row, t.get c = some row → row.unused admin = true → c ∈ olds
  life : ∀ c, CodeLife (t.get c) phases H c

namespace Codes
variable {admin : String} {t t' : Table PasswordReset} {phases : List Phase}
  {H : List (Nat × Event)} {i : Nat} {φ φ' : Phase} {evs : List Event}

/-- A step after which no further code is unused. -/
theorem shrink (h : Codes admin t phases H) (hi : phases[i]? = some φ)
    (ht : ∀ c row', t'.get c = some row' → row'.unused admin = true →
      ∃ row, t.get c = some row ∧ row.unused admin = true)
    (hφ : ∀ olds, φ' = .replacing olds → φ = φ') (hev : .read ∉ evs)
    (hlife : ∀ c, CodeLife (t'.get c) (phases.set i φ') (evs.map (i, ·) ++ H) c) :
    Codes admin t' (phases.set i φ') (evs.map (i, ·) ++ H) where
  single := by
    intro c c' row row' hc hc' hu hu'
    obtain ⟨row₀, hr, hu₀⟩ := ht c row hc hu
    obtain ⟨row₀', hr', hu₀'⟩ := ht c' row' hc' hu'
    exact h.single c c' row₀ row₀' hr hr' hu₀ hu₀'
  replacing := by
    intro j olds hj hno c row hc hu
    obtain ⟨row₀, hr, hu₀⟩ := ht c row hc hu
    have hno' := not_replaced_of_later (fun _ => hev) hno
    rcases Crew.phase_set hj with ⟨rfl, heq⟩ | ⟨-, hj⟩
    · have hφ' := hφ olds heq.symm
      rw [hφ', ← heq] at hi
      exact h.replacing j olds hi hno' c row₀ hr hu₀
    · exact h.replacing j olds hj hno' c row₀ hr hu₀
  life := hlife

/-- The codes a step is not about. -/
theorem other (h : Codes admin t phases H) (hi : phases[i]? = some φ) {c : ResetId}
    (hk : Kept (t.get c) (t'.get c)) (hev : ∀ ev ∈ evs, ev.about ≠ some c)
    (hφ : ∀ n, (φ' = .holding c n → φ = φ') ∧ (φ' = .guessed c n → φ = φ')) :
    CodeLife (t'.get c) (phases.set i φ') (evs.map (i, ·) ++ H) c := by
  refine (h.life c).frame hk hev fun j n => ⟨fun hj => ?_, fun hj => ?_⟩
  · rcases Crew.phase_set hj with ⟨rfl, heq⟩ | ⟨-, hj⟩
    · rw [hi, (hφ n).1 heq.symm, heq]
    · exact hj
  · rcases Crew.phase_set hj with ⟨rfl, heq⟩ | ⟨-, hj⟩
    · rw [hi, (hφ n).2 heq.symm, heq]
    · exact hj

theorem receive (h : Codes admin t phases H) : Codes admin t (phases ++ [.fresh]) H := by
  have hback : ∀ {j : Nat} {ψ : Phase}, (phases ++ [.fresh])[j]? = some ψ → ψ.isCode = true →
      phases[j]? = some ψ := by
    intro j ψ hj hψ
    rw [List.getElem?_append] at hj
    split at hj
    · exact hj
    · rw [List.getElem?_singleton] at hj
      split at hj <;> cases hj
      cases hψ
  refine ⟨h.single, fun j l hj => h.replacing j l (hback hj rfl), fun c => ?_⟩
  have hframe : CodeLife (t.get c) (phases ++ [.fresh]) (([] : List Event).map (0, ·) ++ H) c :=
    (h.life c).frame (Kept.refl _) (by simp)
      fun j n => ⟨fun hj => hback hj rfl, fun hj => hback hj rfl⟩
  exact hframe

theorem aside (h : Codes admin t phases H) (hi : phases[i]? = some φ)
    (hev : ∀ ev ∈ evs, ev.isCode = false) (hφ : φ'.isCode = true → φ = φ') :
    Codes admin t (phases.set i φ') (evs.map (i, ·) ++ H) := by
  refine h.shrink hi (fun c row hc hu => ⟨row, hc, hu⟩) ?_ ?_ fun c => ?_
  · intro olds heq
    exact hφ (by rw [heq]; rfl)
  · intro hread
    have hself := hev .read hread
    cases hself
  · refine h.other hi (Kept.refl _) ?_ fun n => ⟨fun heq => ?_, fun heq => ?_⟩
    · intro ev hin habout
      have hself := hev ev hin
      cases ev <;> simp [Event.about, Event.isCode] at habout hself
    · exact hφ (by rw [heq]; rfl)
    · exact hφ (by rw [heq]; rfl)

theorem read (h : Codes admin t phases H) (hi : phases[i]? = some .fresh) {olds : List ResetId}
    (hall : ∀ c row, t.get c = some row → row.unused admin = true → c ∈ olds) :
    Codes admin t (phases.set i (.replacing olds)) ([.read].map (i, ·) ++ H) where
  single := h.single
  replacing := by
    intro j olds' hj hno
    rcases Crew.phase_set hj with ⟨rfl, heq⟩ | ⟨hne, hj⟩
    · cases heq
      exact hall
    · exact h.replacing j olds' hj (not_replaced_of_later (fun heq => absurd heq hne) hno)
  life := fun c => h.other hi (Kept.refl _) (by simp [Event.about]) (by simp)

theorem replaced (h : Codes admin t phases H) {olds : List (ResetId × Time)} {new : PasswordReset}
    (hi : phases[i]? = some (.replacing (olds.map Prod.fst)))
    (hno : ∀ j, (j, .replaced) ∉ sinceRead i H) :
    Codes admin ((markUsed olds t).insert new) (phases.set i .over)
      ([.replaced].map (i, ·) ++ H) := by
  have hall := h.replacing i _ hi hno
  -- the new code is the only one left unused
  have hnew : ∀ c row, ((markUsed olds t).insert new).get c = some row →
      row.unused admin = true → c = (markUsed olds t).next := by
    intro c row hc hun
    rw [Table.get_insert] at hc
    split at hc
    · next heq => exact heq
    · obtain ⟨hr, hnot⟩ := markUsed_unused hc hun
      exact absurd (hall c row hr hun) hnot
  constructor
  case single =>
    intro c c' row row' hc hc' hun hun'
    rw [hnew c row hc hun, hnew c' row' hc' hun']
  case replacing =>
    intro j olds' hj hno' c row hc hun
    rcases Crew.phase_set hj with ⟨-, heq⟩ | ⟨hne, hj⟩
    · cases heq
    · rw [sinceRead_later (fun heq => absurd heq hne)] at hno'
      exact absurd (by simp) (hno' i)
  case life =>
    intro c
    refine h.other hi ?_ (by simp [Event.about]) (by simp)
    rw [Table.get_insert]
    rcases markUsed_kept olds t c with ⟨hnone, hmark⟩ | ⟨row, row', hr, hmark, ha, hu'⟩
    · rw [hnone, hmark]
      split
      · exact .inserted
      · exact .absent
    · rw [hr, if_neg (Nat.ne_of_lt (Table.get_lt hmark)), hmark]
      exact .row ha hu'

theorem took (h : Codes admin t phases H) (hi : phases[i]? = some .fresh) {c : ResetId}
    {row : PasswordReset} (hr : t.get c = some row) (hu : row.usedAt = none) (hs : Settled H c)
    (hnew : ∀ ev, (i, ev) ∉ H) :
    Codes admin t (phases.set i (.holding c (row.attempts + 1))) ([.took c].map (i, ·) ++ H) := by
  refine h.shrink hi (fun c row hc hu => ⟨row, hc, hu⟩) (by simp) (by simp) fun c' => ?_
  by_cases hc : c = c'
  · subst hc
    exact (h.life c).took hr hu hs hnew
  · exact h.other hi (Kept.refl _) (by simp [Event.about, hc]) (by simp [hc])

theorem compare (h : Codes admin t phases H) {c : ResetId} {n : Nat}
    (hi : phases[i]? = some (.holding c n)) (hn : n ≤ 6) :
    Codes admin t (phases.set i (.guessed c n)) ([.compared c].map (i, ·) ++ H) := by
  refine h.shrink hi (fun c row hc hu => ⟨row, hc, hu⟩) (by simp) (by simp) fun c' => ?_
  by_cases hc : c = c'
  · subst hc
    exact (h.life c).compare hi hn
  · exact h.other hi (Kept.refl _) (by simp [Event.about, hc]) (by simp [hc])

theorem settle (h : Codes admin t phases H) {c : ResetId} {n : Nat}
    (hi : phases[i]? = some (.holding c n) ∨ phases[i]? = some (.guessed c n))
    {usedAt : Option Time} (won : Bool) (hwon : won = true → usedAt ≠ none)
    (hevs : evs = if won then [.changed c, .settled c] else [.settled c]) :
    Codes admin (t.update c fun row => row.merge ⟨c, n, usedAt⟩) (phases.set i .over)
      (evs.map (i, ·) ++ H) := by
  obtain ⟨φ, hφ⟩ : ∃ φ, phases[i]? = some φ := by
    rcases hi with hi | hi
    · exact ⟨_, hi⟩
    · exact ⟨_, hi⟩
  refine h.shrink hφ ?_ (by simp) ?_ fun c' => ?_
  · intro c' row' hc' hu
    rw [Table.get_update] at hc'
    split at hc'
    · obtain ⟨row, hr, rfl⟩ := Option.map_eq_some_iff.mp hc'
      exact ⟨row, hr, merge_unused hu⟩
    · exact ⟨row', hc', hu⟩
  · rw [hevs]
    cases won <;> simp
  · by_cases hc : c = c'
    · subst hc
      rw [Table.get_update_self]
      exact (h.life c).settle hi hwon hevs
    · refine h.other hφ ?_ ?_ (by simp)
      · rw [Table.get_update_ne _ _ hc]
        exact Kept.refl _
      · rw [hevs]
        cases won <;> simp [Event.about, hc]

theorem events_took {c : ResetId} (i : Nat) (h : Event.took c ∈ events s e a) :
    ∃ username now row,
      Label.await i e a = .await i (.selectLatest username now) (some (c, row)) := by
  cases e with
  | selectLatest username now =>
    cases a with
    | none => simp [events] at h
    | some entry =>
      obtain ⟨c', row⟩ := entry
      simp only [events, List.mem_singleton, Event.took.injEq] at h
      subst h
      exact ⟨_, _, _, rfl⟩
  | recentFails ip =>
    simp only [events] at h
    split at h <;> simp at h
  | commitPassword entry insert passwordHash => cases entry <;> cases a <;> simp [events] at h
  | _ => simp [events] at h

theorem events_replaced (i : Nat) (h : Event.replaced ∈ events s e a) :
    ∃ olds new, Label.await i e a = .await i (.commitCode olds new) () := by
  cases e with
  | commitCode olds new => exact ⟨_, _, rfl⟩
  | selectLatest username now => cases a <;> simp [events] at h
  | recentFails ip =>
    simp only [events] at h
    split at h <;> simp at h
  | commitPassword entry insert passwordHash => cases entry <;> cases a <;> simp [events] at h
  | _ => simp [events] at h

/-- One await of one request. -/
theorem step {t : Abs} (h : Codes t.settings.adminUsername t.shared.resets t.phases t.hist)
    (hown : Attributed t.phases t.hist) (hi : t.phases[i]? = some φ)
    (hp : PhaseT t.settings φ e a φ') (hact : Act t.settings.pwd t.shared e a s')
    (hok : Cond.unshared t.hist (.await i e a)) :
    Codes t.settings.adminUsername s'.resets (t.phases.set i φ')
      ((events t.shared e a).map (i, ·) ++ t.hist) := by
  have hm := codeMove hp hact
  generalize hs : s'.resets = resets at hm ⊢
  generalize hev : events t.shared e a = evs at hm ⊢
  cases hm with
  | aside haside hφ => exact h.aside hi haside hφ
  | read hall => exact h.read hi hall
  | replaced =>
    obtain ⟨olds, new, hl⟩ := events_replaced i (by rw [hev]; exact List.mem_singleton_self _)
    exact h.replaced hi (hok.forgot i olds new hl)
  | took hr hu =>
    obtain ⟨username, now, row, hl⟩ := events_took i (by rw [hev]; exact List.mem_singleton_self _)
    exact h.took hi hr hu (hok.reset i username now _ row hl) (hown.fresh i hi)
  | compared hn => exact h.compare hi hn
  | settled hφ =>
    refine h.settle ?_ false (by simp) rfl
    rcases hφ with rfl | rfl
    · exact .inl hi
    · exact .inr hi
  | changed => exact h.settle (.inr hi) true (by simp) rfl

end Codes

def Abs.Coded (t : Abs) : Prop :=
  Codes t.settings.adminUsername t.shared.resets t.phases t.hist

theorem AReachable.coded {t : Abs} (h : AReachable Cond.unshared t) : t.Coded := by
  refine Reach.strengthen (fun t ht => AReachable.attributed ht) ?_ ?_ h
  · intro t ht
    unfold Abs.Coded
    rw [ht.resets, ht.phases, ht.hist]
    refine ⟨by simp, by simp, fun c => ?_⟩
    refine ⟨by simp, by simp, by simp, by simp, ?_, ?_, by simp, ?_⟩
    · simp [times]
    · simp [times]
    · simp [times]
  · intro t l t' hown _ ih hstep hok
    cases hstep with
    | tick hle => exact ih
    | receive r => exact ih.receive
    | await hi hp hact => exact ih.step hown hi hp hact hok

/-- In every run in which no two `forgot` and no two `reset` of one code overlap between read and
commit, one code is live at most, and each is compared at most six times and used at most once. -/
theorem one_code {s : Sys} (h : Reachable Cond.unshared s) :
    OneCode s.settings.adminUsername s.shared s.hist := by
  obtain ⟨t, ht, href⟩ := h.abstract
  have hc := ht.coded
  unfold Abs.Coded at hc
  rw [← href.settings, ← href.shared, ← href.hist] at hc
  constructor
  · intro c c' row row' hr hr' hl hl'
    simp only [PasswordReset.live, Bool.and_eq_true] at hl hl'
    exact hc.single c c' row row' hr hr' hl.1 hl'.1
  · exact fun c => (hc.life c).compared
  · exact fun c => (hc.life c).changed

def checkUnshared (hist : List (Nat × Event)) : Label → Bool
  | .await _ (.selectLatest _ _) (some (c, _)) =>
    hist.all fun e => e.2 ≠ .took c || hist.contains (e.1, .settled c)
  | .await i (.commitCode _ _) _ => (sinceRead i hist).all fun e => e.2 ≠ .replaced
  | _ => true

theorem checkUnshared_sound (hist : List (Nat × Event)) (l : Label)
    (h : checkUnshared hist l = true) : Cond.unshared hist l := by
  constructor
  · intro i username now c row hl j hj
    subst hl
    simp only [checkUnshared, List.all_eq_true] at h
    simpa using h (j, .took c) hj
  · intro i olds new hl j hj
    subst hl
    simp only [checkUnshared, List.all_eq_true] at h
    have hself := h (j, .replaced) hj
    simp at hself

namespace Trials

/-- Request `i` asks for a code; `n` is the number drawn. Up to its read of the unused codes. -/
def forgetting (i n : Nat) : List Choice := runs i [.none, .nat n, .none]

/-- It commits the code and mails it. -/
def mailing (i : Nat) : List Choice := runs i [.none, .nat 0, .none, .bool true, .none]

/-- Request `i` reads code `c`. -/
def taking (i : Nat) (c : ResetId) : List Choice := runs i [.none, .none, .code c]

/-- Its guess is right, and it changes the password. -/
def winning (i : Nat) : List Choice := runs i [.none, .none, .nat 0, .none]

/-- Its guess is wrong. -/
def losing (i : Nat) : List Choice := runs i [.none, .none]

def forgotten (i : Nat) : Choice := .receive (.forgot (client i))

def guess (i : Nat) (code : String) : Choice := .receive (.reset code "password" (client i))

/-- A code, a wrong guess and the right one. -/
def inTurn : List Choice :=
  [forgotten 0, guess 1 "000000", guess 2 "000007"] ++ forgetting 0 7 ++ mailing 0 ++
    taking 1 0 ++ losing 1 ++ taking 2 0 ++ winning 2

theorem inTurn_ends : (panel.run checkUnshared inTurn).any (fun s =>
    times (.compared 0) s.hist = 2 ∧ times (.changed 0) s.hist = 1) = true := by decide +kernel

theorem inTurn_runs : (panel.run checkUnshared inTurn).isSome = true :=
  Option.isSome_of_any inTurn_ends

/-- Two right guesses of the first code overlap; then two requests for a code; then seven wrong
guesses of one of them. -/
def atOnce : List Choice :=
  [forgotten 0, guess 1 "000007", guess 2 "000007", forgotten 3, forgotten 4] ++
    (List.range 7).map (fun i => guess (i + 5) "000000") ++
    forgetting 0 7 ++ mailing 0 ++ taking 1 0 ++ taking 2 0 ++ winning 1 ++ winning 2 ++
    forgetting 3 8 ++ forgetting 4 9 ++ mailing 3 ++ mailing 4 ++
    (List.range 7).flatMap (fun i => taking (i + 5) 1) ++
    (List.range 7).flatMap fun i => losing (i + 5)

end Trials

open Trials

theorem one_code_in_turn :
    let s := (panel.run checkUnshared inTurn).get inTurn_runs
    times (.compared 0) s.hist = 2 ∧ times (.changed 0) s.hist = 1 ∧
      OneCode s.settings.adminUsername s.shared s.hist := by
  obtain ⟨hcompared, hchanged⟩ := of_decide_eq_true (Option.get_of_any_eq_true _ _ inTurn_ends)
  exact ⟨hcompared, hchanged, one_code (reached checkUnshared_sound inTurn_runs)⟩

theorem codes_overlap : ∃ s, Reachable Cond.any s ∧
    (∃ row row', s.shared.resets.get 1 = some row ∧ s.shared.resets.get 2 = some row' ∧
      row.live s.settings.adminUsername s.shared.utcnow = true ∧
      row'.live s.settings.adminUsername s.shared.utcnow = true) ∧
    6 < times (.compared 1) s.hist ∧ 1 < times (.changed 0) s.hist := by
  have hends : (panel.run (fun _ _ => true) atOnce).any (fun s =>
      (s.shared.resets.get 1).any (fun row =>
        row.live s.settings.adminUsername s.shared.utcnow) = true ∧
      (s.shared.resets.get 2).any (fun row =>
        row.live s.settings.adminUsername s.shared.utcnow) = true ∧
      6 < times (.compared 1) s.hist ∧ 1 < times (.changed 0) s.hist) = true := by decide +kernel
  obtain ⟨s, hreach, hends⟩ := evaluated_any hends
  obtain ⟨hfirst, hsecond, hcompared, hchanged⟩ := of_decide_eq_true hends
  obtain ⟨row, hrow, hlive⟩ := (Option.any_eq_true _ _).mp hfirst
  obtain ⟨row', hrow', hlive'⟩ := (Option.any_eq_true _ _).mp hsecond
  exact ⟨s, hreach, ⟨row, row', hrow, hrow', hlive, hlive'⟩, hcompared, hchanged⟩

end Clusteration.Auth
