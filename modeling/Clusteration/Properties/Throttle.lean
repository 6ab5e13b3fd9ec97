import Clusteration.Auth.System

namespace Clusteration.Auth

/-- A call of `_throttle` and its answer. -/
structure Throttled where
  ip : String
  now : Time
  allowed : Bool
  deriving DecidableEq

/-- The calls of a run on one dictionary. -/
def throttleCalls (window : Time) (maxHits : Nat) :
    (String → List Time) → List (String × Time) → List Throttled
  | _, [] => []
  | bucket, (ip, now) :: calls =>
    ⟨ip, now, (throttle bucket ip window maxHits now).1⟩ ::
      throttleCalls window maxHits (throttle bucket ip window maxHits now).2 calls

/-- An accepted call for the key in `(now - window, now]`. -/
def Throttled.counts (ip : String) (window now : Time) (c : Throttled) : Bool :=
  c.allowed && c.ip = ip && decide (now - window < c.now ∧ c.now ≤ now)

/-- The times of the accepted calls for the key. -/
def acceptedTimes (ip : String) (past : List Throttled) : List Time :=
  (past.filter fun c => c.allowed && c.ip = ip).map Throttled.now

theorem acceptedTimes_append {ip : String} {past later : List Throttled} :
    acceptedTimes ip (past ++ later) = acceptedTimes ip past ++ acceptedTimes ip later := by
  simp [acceptedTimes]

theorem within_append {window now : Time} {hits hits' : List Time} :
    within window now (hits ++ hits') = within window now hits ++ within window now hits' :=
  List.filter_append ..

section Throttle
variable {window now : Time} {maxHits : Nat} {bucket : String → List Time} {ip : String}

theorem throttle_full (h : maxHits ≤ (within window now (bucket ip)).length) :
    throttle bucket ip window maxHits now =
      (false, Function.update bucket ip (within window now (bucket ip))) := if_pos h

theorem throttle_room (h : (within window now (bucket ip)).length < maxHits) :
    throttle bucket ip window maxHits now =
      (true, Function.update bucket ip (within window now (bucket ip) ++ [now])) :=
  if_neg (Nat.not_le.mpr h)

theorem throttle_iff : (throttle bucket ip window maxHits now).1 = true ↔
    (within window now (bucket ip)).length < maxHits := by
  rcases Nat.lt_or_ge (within window now (bucket ip)).length maxHits with h | h
  · simp [throttle_room h, h]
  · simp [throttle_full h, h]

/-- A call leaves the lists of the other keys alone. -/
theorem throttle_other {other : String} (h : other ≠ ip) :
    (throttle bucket ip window maxHits now).2 other = bucket other := by
  rcases Nat.lt_or_ge (within window now (bucket ip)).length maxHits with hroom | hfull
  · simp [throttle_room hroom, h]
  · simp [throttle_full hfull, h]

/-- Of its own it keeps what is in the window, and adds its time if it is accepted. -/
theorem throttle_self : (throttle bucket ip window maxHits now).2 ip =
    within window now (bucket ip) ++
      if (throttle bucket ip window maxHits now).1 = true then [now] else [] := by
  rcases Nat.lt_or_ge (within window now (bucket ip)).length maxHits with hroom | hfull
  · simp [throttle_room hroom]
  · simp [throttle_full hfull]

end Throttle

/-- At `clock` the lists still hold every accepted call that a later one may count, and no window
holds more than `maxHits` of them. -/
structure Recalls (window : Time) (maxHits : Nat) (clock : Time) (bucket : String → List Time)
    (past : List Throttled) : Prop where
  hits : ∀ ip, within window clock (bucket ip) = within window clock (acceptedTimes ip past)
  earlier : ∀ c ∈ past, c.now ≤ clock
  limit : ∀ ip now, past.countP (·.counts ip window now) ≤ maxHits

namespace Recalls
variable {window clock now : Time} {maxHits : Nat} {bucket : String → List Time} {ip : String}
  {past : List Throttled}

theorem later (h : Recalls window maxHits clock bucket past) (hle : clock ≤ now) :
    Recalls window maxHits now bucket past where
  hits ip := by
    have hhits := congrArg (within window now) (h.hits ip)
    rwa [within_within hle, within_within hle] at hhits
  earlier c hc := (h.earlier c hc).trans hle
  limit := h.limit

/-- What the stored list counts is what the history counts. -/
theorem countP (h : Recalls window maxHits now bucket past) :
    past.countP (·.counts ip window now) = (within window now (bucket ip)).length := by
  rw [h.hits, within, acceptedTimes, List.filter_map, List.length_map, List.filter_filter,
    List.countP_eq_length_filter]
  congr 1
  apply List.filter_congr
  intro c hc
  have hpast := h.earlier c hc
  have hwindow : now - window < c.now ↔ now - c.now < window := by
    constructor
    · intro hlt
      linarith
    · intro hlt
      linarith
  simp [Throttled.counts, hpast, hwindow, Bool.and_comm]

theorem exact (h : Recalls window maxHits now bucket past) :
    (throttle bucket ip window maxHits now).1 = true ↔
      past.countP (·.counts ip window now) < maxHits := by
  rw [throttle_iff, h.countP]

/-- A window that ends with the last call, or later, holds no more than the call has counted. -/
theorem countP_le (h : Recalls window maxHits now bucket past) {t : Time} (hle : now ≤ t) :
    past.countP (·.counts ip window t) ≤ past.countP (·.counts ip window now) := by
  apply List.countP_mono_left
  intro c hc hcount
  have hpast := h.earlier c hc
  simp only [Throttled.counts, Bool.and_eq_true, decide_eq_true_eq] at hcount ⊢
  obtain ⟨hkey, hlt, _⟩ := hcount
  exact ⟨hkey, by linarith, hpast⟩

theorem call (h : Recalls window maxHits now bucket past) :
    Recalls window maxHits now (throttle bucket ip window maxHits now).2
      (past ++ [⟨ip, now, (throttle bucket ip window maxHits now).1⟩]) where
  hits other := by
    rw [acceptedTimes_append, within_append, ← h.hits]
    by_cases hother : other = ip
    · subst hother
      rw [throttle_self, within_append, within_within (le_refl now)]
      cases (throttle bucket other window maxHits now).1 <;> simp [acceptedTimes]
    · rw [throttle_other hother]
      simp [acceptedTimes, within, Ne.symm hother]
  earlier c hc := by
    rcases List.mem_append.mp hc with hc | hc
    · exact h.earlier c hc
    · rw [List.mem_singleton.mp hc]
  limit other t := by
    rw [List.countP_append, List.countP_singleton]
    have hlimit := h.limit other t
    split
    · next hcount =>
      -- the new call is in the window, so the window ends with it or later
      simp only [Throttled.counts, Bool.and_eq_true, decide_eq_true_eq] at hcount
      obtain ⟨⟨hallowed, rfl⟩, _, hle⟩ := hcount
      have hlt := h.exact.mp hallowed
      have hmono : past.countP (·.counts ip window t) ≤ past.countP (·.counts ip window now) :=
        h.countP_le hle
      omega
    · exact hlimit

end Recalls

/-- An accepted call is one for whose key the window that ends with it holds fewer than `maxHits`
accepted calls. -/
theorem throttleCalls_exact {window : Time} {maxHits : Nat} {calls : List (String × Time)}
    (hcalls : calls.Pairwise fun c d => c.2 ≤ d.2) {bucket : String → List Time}
    {past : List Throttled} {clock : Time} (h : Recalls window maxHits clock bucket past)
    (hclock : ∀ c ∈ calls, clock ≤ c.2) :
    (∀ i c, (throttleCalls window maxHits bucket calls)[i]? = some c → (c.allowed = true ↔
      (past ++ (throttleCalls window maxHits bucket calls).take i).countP
        (·.counts c.ip window c.now) < maxHits)) ∧
    ∀ ip t, (past ++ throttleCalls window maxHits bucket calls).countP (·.counts ip window t) ≤
      maxHits := by
  induction calls generalizing bucket past clock with
  | nil => exact ⟨fun i c hc => by simp [throttleCalls] at hc, by simpa [throttleCalls] using h.limit⟩
  | cons call calls ih =>
    obtain ⟨ip, now⟩ := call
    rw [List.pairwise_cons] at hcalls
    have hnow := h.later (hclock (ip, now) List.mem_cons_self)
    obtain ⟨hexact, hlimit⟩ := ih hcalls.2 hnow.call hcalls.1
    refine ⟨fun i c hc => ?_, fun other t => ?_⟩
    · cases i with
      | zero =>
        simp only [throttleCalls, List.getElem?_cons_zero, Option.some.injEq] at hc
        subst hc
        simpa using hnow.exact
      | succ i =>
        have hi := hexact i c (by simpa [throttleCalls] using hc)
        simpa [throttleCalls] using hi
    · simpa [throttleCalls] using hlimit other t

/-- The answers for a key are those of a run of its calls alone. -/
theorem throttleCalls_filter {window : Time} {maxHits : Nat} {ip : String}
    {calls : List (String × Time)} {bucket bucket' : String → List Time}
    (h : bucket ip = bucket' ip) :
    (throttleCalls window maxHits bucket calls).filter (·.ip = ip) =
      throttleCalls window maxHits bucket' (calls.filter (·.1 = ip)) := by
  induction calls generalizing bucket bucket' with
  | nil => rfl
  | cons call calls ih =>
    obtain ⟨other, now⟩ := call
    by_cases hother : other = ip
    · subst hother
      have hsame : (throttle bucket other window maxHits now).1 =
          (throttle bucket' other window maxHits now).1 := by
        rw [Bool.eq_iff_iff, throttle_iff, throttle_iff, h]
      have hnext : (throttle bucket other window maxHits now).2 other =
          (throttle bucket' other window maxHits now).2 other := by
        rw [throttle_self, throttle_self, hsame, h]
      simp [throttleCalls, ih hnext, hsame]
    · have hnext : (throttle bucket other window maxHits now).2 ip = bucket' ip :=
        (throttle_other (Ne.symm hother)).trans h
      simp [throttleCalls, hother, ih hnext]

/-- The throttle counts the accepted calls of the last `window` seconds, and those of the key only. -/
theorem throttle_exact (window : Time) (maxHits : Nat) {calls : List (String × Time)}
    (hcalls : calls.Pairwise fun c d => c.2 ≤ d.2) :
    let run := throttleCalls window maxHits (fun _ => []) calls
    (∀ i c, run[i]? = some c →
      (c.allowed = true ↔ (run.take i).countP (·.counts c.ip window c.now) < maxHits)) ∧
    (∀ ip t, run.countP (·.counts ip window t) ≤ maxHits) ∧
    ∀ ip, run.filter (·.ip = ip) =
      throttleCalls window maxHits (fun _ => []) (calls.filter (·.1 = ip)) := by
  intro run
  -- the clock before the first call: any time not after it
  let clock := (calls.head?.map Prod.snd).getD 0
  have hclock : ∀ c ∈ calls, clock ≤ c.2 := by
    intro c hc
    cases calls with
    | nil => cases hc
    | cons call calls =>
      rcases List.mem_cons.mp hc with rfl | hc
      · exact le_refl _
      · exact (List.pairwise_cons.mp hcalls).1 c hc
  have hempty : Recalls window maxHits clock (fun _ => []) [] :=
    ⟨fun _ => rfl, by simp, by simp⟩
  obtain ⟨hexact, hlimit⟩ := throttleCalls_exact hcalls hempty hclock
  exact ⟨hexact, hlimit, fun ip => throttleCalls_filter rfl⟩

/-- Three requests within ten minutes, a fourth that is refused, and one ten minutes after the
first. -/
theorem throttle_exact_forgot :
    let run := throttleCalls 600 3 (fun _ => [])
      [("a", 0), ("a", 1), ("b", 1), ("a", 1), ("a", 2), ("a", 600)]
    run.map Throttled.allowed = [true, true, true, true, false, true] ∧
      run.countP (·.counts "a" 600 600) ≤ 3 ∧
      run.filter (·.ip = "b") = throttleCalls 600 3 (fun _ => []) [("b", 1)] := by
  intro run
  obtain ⟨_, hlimit, hkey⟩ := throttle_exact 600 3
    (show [("a", (0 : Time)), ("a", 1), ("b", 1), ("a", 1), ("a", 2), ("a", 600)].Pairwise
      fun c d => c.2 ≤ d.2 by decide +kernel)
  exact ⟨by decide +kernel, hlimit "a" 600, hkey "b"⟩

end Clusteration.Auth
