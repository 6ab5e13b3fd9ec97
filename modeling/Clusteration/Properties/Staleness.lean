import Mathlib.Tactic.Linarith
import Clusteration.Front.Resolve

open Async

namespace Clusteration.Front

/-- A lookup for the host that was issued at `time` came to this dial. -/
structure Looked (hist : List LookupEvent) (host : String) (time : Time) (dial : Json) : Prop where
  answered : ∃ n response, .issued host n time ∈ hist ∧ .answered host n response ∈ hist ∧
    dialOf response = some dial

theorem Looked.mono {hist hist' : List LookupEvent} {host : String} {time : Time} {dial : Json}
    (h : Looked hist host time dial) (hsub : hist ⊆ hist') : Looked hist' host time dial := by
  obtain ⟨n, response, hi, ha, hd⟩ := h.answered
  exact ⟨n, response, hsub hi, hsub ha, hd⟩

/-- How far a call has come: `now` is the time it read, `time` that of its lookup. -/
inductive CallPhase where
  | begun
  | missed (now : Time)
  | waiting (now time : Time)
  | found (now time : Time) (dial : Json)
  | ended (r : Option Json)

def CallPhase.prog (host : String) : CallPhase → Resolving
  | begun => resolve host
  | missed now => lookup host now
  | waiting now _ => .await .response (receive host now)
  | found now _ dial => keep host now dial
  | ended r => .ret r

def CallPhase.Ok (s : ProxyState) (host : String) (n : Nat) : CallPhase → Prop
  | begun | ended _ => True
  | missed now => now ≤ s.clock
  | waiting now time => now ≤ time ∧ .issued host n time ∈ s.hist
  | found now time dial => now ≤ time ∧ Looked s.hist host time dial

/-- What an await of a call does. -/
inductive Moves (s : ProxyState) (host : String) (n : Nat) :
    CallPhase → ProxyState → CallPhase → Prop
  | hit {expires : Time} {dial : Json} : s.cache host = some (expires, dial) → s.clock < expires →
      Moves s host n .begun s (.ended (some dial))
  | miss : Moves s host n .begun s (.missed s.clock)
  | issue {now : Time} : Moves s host n (.missed now)
      { s with hist := .issued host n s.clock :: s.hist } (.waiting now s.clock)
  | fail {now time : Time} {hist : List LookupEvent} : s.hist ⊆ hist →
      Moves s host n (.waiting now time) { s with hist } (.ended none)
  | answer {now time : Time} {response : LookupResponse} {dial : Json} :
      dialOf response = some dial → Moves s host n (.waiting now time)
        { s with hist := .answered host n response :: s.hist } (.found now time dial)
  | store {now time : Time} {dial : Json} : Moves s host n (.found now time dial)
      { s with cache := Function.update s.cache host (some (now + 5, dial)) } (.ended (some dial))

section Call
variable {s s' t : ProxyState} {host : String} {n : Nat} {φ φ' : CallPhase}

theorem moves_of_run {response : Option LookupResponse} (hp : s.calls host n = some (φ.prog host))
    (hstep : s.step (.run host n response) = some s') :
    ∃ t φ', Moves s host n φ t φ' ∧ s' = t.setCall host n (φ'.prog host) := by
  simp only [ProxyState.step, hp] at hstep
  cases φ with
  | begun =>
    simp only [CallPhase.prog, resolve, ProxyState.perform, Option.some.injEq] at hstep
    subst hstep
    cases hc : s.cache host with
    | none => exact ⟨s, _, .miss, rfl⟩
    | some entry =>
      obtain ⟨expires, dial⟩ := entry
      by_cases hlive : s.clock < expires
      · exact ⟨s, _, .hit hc hlive, by simp [hlive, CallPhase.prog]⟩
      · exact ⟨s, _, .miss, by simp [hlive, CallPhase.prog]⟩
  | missed now =>
    simp only [CallPhase.prog, lookup, ProxyState.perform, Option.some.injEq] at hstep
    exact ⟨_, _, .issue, hstep.symm⟩
  | waiting now time =>
    simp only [CallPhase.prog, ProxyState.perform, Option.some.injEq] at hstep
    subst hstep
    cases hr : response.bind dialOf with
    | none =>
      have hraised : receive host now response = .ret none := by simp only [receive, hr]
      rw [hraised]
      exact ⟨_, .ended none, .fail (List.subset_append_right (response.toList.map _) _), rfl⟩
    | some dial =>
      obtain ⟨r, rfl, hd⟩ := Option.bind_eq_some_iff.mp hr
      have hkept : receive host now (some r) = keep host now dial := by simp only [receive, hr]
      rw [hkept]
      exact ⟨_, .found now time dial, .answer hd, rfl⟩
  | found now time dial =>
    simp only [CallPhase.prog, keep, ProxyState.perform, Option.some.injEq] at hstep
    exact ⟨_, _, .store, hstep.symm⟩
  | ended r => cases hstep

/-- An await leaves the clock, the calls and the other hosts' entries alone, and forgets nothing. -/
theorem Moves.frame (h : Moves s host n φ t φ') : t.clock = s.clock ∧ t.calls = s.calls ∧
    s.hist ⊆ t.hist ∧ ∀ other, other ≠ host → t.cache other = s.cache other := by
  cases h with
  | hit _ _ | miss => exact ⟨rfl, rfl, List.Subset.refl _, fun _ _ => rfl⟩
  | fail hsub => exact ⟨rfl, rfl, hsub, fun _ _ => rfl⟩
  | issue | answer _ => exact ⟨rfl, rfl, List.subset_cons_self _ _, fun _ _ => rfl⟩
  | store => exact ⟨rfl, rfl, List.Subset.refl _, fun other hne => Function.update_of_ne hne _ _⟩

theorem CallPhase.Ok.mono (h : φ.Ok s host n) (hclock : s.clock ≤ t.clock)
    (hhist : s.hist ⊆ t.hist) : φ.Ok t host n := by
  cases φ with
  | begun | ended _ => trivial
  | missed now => exact le_trans h hclock
  | waiting now time => exact ⟨h.1, hhist h.2⟩
  | found now time dial => exact ⟨h.1, h.2.mono hhist⟩

theorem CallPhase.Ok.moves (h : φ.Ok s host n) (hm : Moves s host n φ t φ') :
    φ'.Ok t host n := by
  cases hm with
  | hit _ _ | fail _ | store => trivial
  | miss => exact le_refl _
  | issue => exact ⟨h, List.mem_cons_self⟩
  | @answer _ _ response dial hd =>
    have hissued := List.mem_cons_of_mem (LookupEvent.answered host n response) h.2
    exact ⟨h.1, ⟨n, response, hissued, List.mem_cons_self, hd⟩⟩

end Call

/-- Every entry of the cache is what a lookup for its host came to, and no older than it says. -/
structure Aged (s : ProxyState) : Prop where
  calls : ∀ {host n p}, s.calls host n = some p → ∃ φ : CallPhase, p = φ.prog host ∧ φ.Ok s host n
  cache : ∀ {host expires dial}, s.cache host = some (expires, dial) →
    ∃ time, expires ≤ time + 5 ∧ Looked s.hist host time dial

section Run
variable {s s' : ProxyState} {host : String} {n : Nat} {l : ProxyLabel}

theorem setCall_calls {p : Resolving} {other : String} {m : Nat} :
    (s.setCall host n p).calls other m =
      if other = host ∧ m = n then some p else s.calls other m := by
  simp only [ProxyState.setCall, Function.update_apply]
  by_cases ho : other = host
  · subst ho
    by_cases hm : m = n <;> simp [hm]
  · simp [ho]

theorem Aged.run_moves {response : Option LookupResponse} (h : Aged s)
    (hstep : s.step (.run host n response) = some s') :
    ∃ φ t φ', s.calls host n = some (φ.prog host) ∧ φ.Ok s host n ∧ Moves s host n φ t φ' ∧
      s' = t.setCall host n (φ'.prog host) := by
  cases hp : s.calls host n with
  | none => simp [ProxyState.step, hp] at hstep
  | some p =>
    obtain ⟨φ, rfl, hok⟩ := h.calls hp
    obtain ⟨t, φ', hm, hs'⟩ := moves_of_run hp hstep
    exact ⟨φ, t, φ', rfl, hok, hm, hs'⟩

theorem Aged.step (h : Aged s) (hstep : s.step l = some s') : Aged s' := by
  cases l with
  | tick clock =>
    simp only [ProxyState.step, Option.ite_none_right_eq_some, Option.some.injEq] at hstep
    obtain ⟨hle, rfl⟩ := hstep
    refine ⟨fun hp => ?_, h.cache⟩
    obtain ⟨φ, hφ, hok⟩ := h.calls hp
    exact ⟨φ, hφ, hok.mono hle (List.Subset.refl _)⟩
  | call host n =>
    simp only [ProxyState.step, Option.ite_none_right_eq_some, Option.some.injEq] at hstep
    obtain ⟨_, rfl⟩ := hstep
    refine ⟨fun {other m p} hp => ?_, h.cache⟩
    rw [setCall_calls] at hp
    split at hp
    · next heq =>
      obtain ⟨rfl, rfl⟩ := heq
      cases hp
      exact ⟨.begun, rfl, trivial⟩
    · exact h.calls hp
  | run host n response =>
    obtain ⟨φ, t, φ', _, hok, hm, rfl⟩ := h.run_moves hstep
    obtain ⟨hclock, hcalls, hhist, hother⟩ := hm.frame
    refine ⟨fun {other m p} hp => ?_, fun {other expires dial} hc => ?_⟩
    · rw [setCall_calls, hcalls] at hp
      split at hp
      · next heq =>
        obtain ⟨rfl, rfl⟩ := heq
        cases hp
        exact ⟨φ', rfl, (hok.moves hm).mono (le_refl _) (List.Subset.refl _)⟩
      · obtain ⟨ψ, hψ, hok'⟩ := h.calls hp
        exact ⟨ψ, hψ, hok'.mono (ge_of_eq hclock) hhist⟩
    · cases hm with
      | hit _ _ | miss => exact h.cache hc
      | fail hsub =>
        obtain ⟨time, hle, hl⟩ := h.cache hc
        exact ⟨time, hle, hl.mono hsub⟩
      | issue | answer _ =>
        obtain ⟨time, hle, hl⟩ := h.cache hc
        exact ⟨time, hle, hl.mono hhist⟩
      | @store now time dial' =>
        -- the entry expires five seconds after the time its call read, before the lookup
        by_cases ho : other = host
        · subst ho
          have hentry : some (now + 5, dial') = some (expires, dial) := by
            simpa [ProxyState.setCall] using hc
          cases hentry
          exact ⟨time, by linarith [hok.1], hok.2⟩
        · have hkept : s.cache other = some (expires, dial) := by
            simpa [ProxyState.setCall, ho] using hc
          exact h.cache hkept

theorem Aged.run {ls : List ProxyLabel} (h : Aged s) (hrun : s.run ls = some s') : Aged s' := by
  induction ls generalizing s with
  | nil =>
    cases hrun
    exact h
  | cons l ls ih =>
    obtain ⟨t, hstep, hrest⟩ := Option.bind_eq_some_iff.mp hrun
    exact ih (h.step hstep) hrest

theorem Aged.start (clock : Time) : Aged { clock } :=
  { calls := fun hp => by cases hp
    cache := fun hc => by cases hc }

/-- What the cache answers was looked up less than five seconds ago. -/
theorem Aged.hit (h : Aged s) {response : Option LookupResponse} {dial : Json}
    (hp : s.calls host n = some (resolve host)) (hstep : s.step (.run host n response) = some s')
    (hret : s'.calls host n = some (.ret (some dial))) :
    ∃ time, s.clock - 5 < time ∧ Looked s.hist host time dial := by
  have hbegun : s.calls host n = some (CallPhase.begun.prog host) := hp
  obtain ⟨t, φ', hm, rfl⟩ := moves_of_run hbegun hstep
  rw [setCall_calls, if_pos ⟨rfl, rfl⟩] at hret
  cases hm with
  | hit hc hlive =>
    cases hret
    obtain ⟨time, hle, hl⟩ := h.cache hc
    exact ⟨time, by linarith, hl⟩
  | miss => cases hret

/-- The cache changes at one host's entry, in the last await of a call that returns what it stores. -/
theorem Aged.cache_step (h : Aged s) (hstep : s.step l = some s') : s'.cache = s.cache ∨
    ∃ host n response dial, l = .run host n response ∧
      s'.calls host n = some (.ret (some dial)) ∧
      ∀ other, other ≠ host → s'.cache other = s.cache other := by
  cases l with
  | tick clock =>
    simp only [ProxyState.step, Option.ite_none_right_eq_some, Option.some.injEq] at hstep
    obtain ⟨_, rfl⟩ := hstep
    exact .inl rfl
  | call host n =>
    simp only [ProxyState.step, Option.ite_none_right_eq_some, Option.some.injEq] at hstep
    obtain ⟨_, rfl⟩ := hstep
    exact .inl rfl
  | run host n response =>
    obtain ⟨φ, t, φ', _, _, hm, rfl⟩ := h.run_moves hstep
    have hother := hm.frame.2.2.2
    cases hm with
    | hit _ _ | miss | issue | fail _ | answer _ => exact .inl rfl
    | @store _ _ dial =>
      refine .inr ⟨host, n, response, dial, rfl, ?_, hother⟩
      rw [setCall_calls, if_pos ⟨rfl, rfl⟩]
      rfl

end Run

/-- The steps that are about the host: its calls, and time. -/
def ProxyLabel.concerns (host : String) : ProxyLabel → Bool
  | tick _ => true
  | call key _ | run key _ _ => key = host

/-- The two states are one for this host. -/
structure SameFor (host : String) (s t : ProxyState) : Prop where
  clock : t.clock = s.clock
  cache : t.cache host = s.cache host
  calls : t.calls host = s.calls host

def LookupEff.keyed (host : String) : LookupEff → Prop
  | cached key | get key | store key _ _ => key = host
  | response => True

theorem CallPhase.keyed {φ : CallPhase} {host : String} {e : LookupEff}
    {k : LookupAns e → Resolving} (h : φ.prog host = .await e k) : e.keyed host := by
  cases φ <;> cases h <;> trivial

section Other
variable {s s' t : ProxyState} {host : String} {n : Nat} {l : ProxyLabel}

theorem SameFor.setCall (h : SameFor host s t) (p : Resolving) :
    SameFor host (s.setCall host n p) (t.setCall host n p) where
  clock := h.clock
  cache := h.cache
  calls := by simp [ProxyState.setCall, h.calls]

theorem SameFor.perform (h : SameFor host s t) {response : Option LookupResponse} {e : LookupEff}
    (he : e.keyed host) :
    (t.perform host n response e).1 = (s.perform host n response e).1 ∧
      SameFor host (s.perform host n response e).2 (t.perform host n response e).2 := by
  cases e with
  | cached key =>
    cases he
    exact ⟨Prod.ext h.clock h.cache, h⟩
  | get key | response => exact ⟨rfl, h.clock, h.cache, h.calls⟩
  | store key expires dial =>
    cases he
    exact ⟨rfl, h.clock, by simp [ProxyState.perform], h.calls⟩

theorem SameFor.own_step (h : SameFor host s t) (ha : Aged s) (hl : l.concerns host = true)
    (hstep : s.step l = some s') : ∃ t', t.step l = some t' ∧ SameFor host s' t' := by
  cases l with
  | tick clock =>
    simp only [ProxyState.step, Option.ite_none_right_eq_some, Option.some.injEq] at hstep
    obtain ⟨hle, rfl⟩ := hstep
    exact ⟨{ t with clock }, if_pos (h.clock ▸ hle), rfl, h.cache, h.calls⟩
  | call key n =>
    obtain rfl : key = host := of_decide_eq_true hl
    simp only [ProxyState.step, Option.ite_none_right_eq_some, Option.some.injEq] at hstep
    obtain ⟨hnone, rfl⟩ := hstep
    exact ⟨_, if_pos (by rw [h.calls, hnone]), h.setCall _⟩
  | run key n response =>
    obtain rfl : key = host := of_decide_eq_true hl
    cases hp : s.calls key n with
    | none => simp [ProxyState.step, hp] at hstep
    | some p =>
      obtain ⟨φ, hφ, _⟩ := ha.calls hp
      cases p with
      | ret r => simp [ProxyState.step, hp] at hstep
      | await e k =>
        obtain ⟨hans, hsame⟩ := h.perform (CallPhase.keyed hφ.symm)
        simp only [ProxyState.step, hp, Option.some.injEq] at hstep
        subst hstep
        refine ⟨_, ?_, hsame.setCall _⟩
        simp only [ProxyState.step, h.calls, hp, hans]

theorem Aged.other_step (ha : Aged s) (hl : l.concerns host = false) (hstep : s.step l = some s') :
    SameFor host s' s := by
  cases l with
  | tick clock => cases hl
  | call key n =>
    have hne : host ≠ key := Ne.symm (of_decide_eq_false hl)
    simp only [ProxyState.step, Option.ite_none_right_eq_some, Option.some.injEq] at hstep
    obtain ⟨_, rfl⟩ := hstep
    exact ⟨rfl, rfl, by simp [ProxyState.setCall, hne]⟩
  | run key n response =>
    have hne : host ≠ key := Ne.symm (of_decide_eq_false hl)
    obtain ⟨φ, t, φ', _, _, hm, rfl⟩ := ha.run_moves hstep
    obtain ⟨hclock, hcalls, _, hother⟩ := hm.frame
    exact ⟨hclock.symm, (hother host hne).symm, by simp [ProxyState.setCall, hne, hcalls]⟩

/-- Without the calls for other hosts, the run is the same for this one. -/
theorem SameFor.run {ls : List ProxyLabel} (h : SameFor host s t) (ha : Aged s)
    (hrun : s.run ls = some s') :
    ∃ t', t.run (ls.filter (·.concerns host)) = some t' ∧ SameFor host s' t' := by
  induction ls generalizing s t with
  | nil =>
    cases hrun
    exact ⟨t, rfl, h⟩
  | cons l ls ih =>
    obtain ⟨s₁, hstep, hrest⟩ := Option.bind_eq_some_iff.mp hrun
    cases hl : l.concerns host with
    | true =>
      obtain ⟨t₁, ht, hsame⟩ := h.own_step ha hl hstep
      obtain ⟨t', hrun', hsame'⟩ := ih hsame (ha.step hstep) hrest
      refine ⟨t', ?_, hsame'⟩
      rw [List.filter_cons_of_pos hl, ProxyState.run, ht]
      exact hrun'
    | false =>
      have hback := ha.other_step hl hstep
      have hsame : SameFor host s₁ t := ⟨h.clock.trans hback.clock, h.cache.trans hback.cache,
        h.calls.trans hback.calls⟩
      rw [List.filter_cons_of_neg (by simp [hl])]
      exact ih hsame (ha.step hstep) hrest

end Other

/-- In every run, what `resolve` takes from the cache was looked up for the same host less than five
seconds ago; without the calls for other hosts the run is the same for this one; and the cache
changes only where a call returns the dial it stores. -/
theorem resolve_staleness {clock : Time} {ls : List ProxyLabel} {s : ProxyState}
    (h : ProxyState.run { clock } ls = some s) :
    (∀ host n response dial s', s.calls host n = some (resolve host) →
      s.step (.run host n response) = some s' → s'.calls host n = some (.ret (some dial)) →
      ∃ time, s.clock - 5 < time ∧ Looked s.hist host time dial) ∧
    (∀ host, ∃ t, ProxyState.run { clock } (ls.filter (·.concerns host)) = some t ∧
      SameFor host s t) ∧
    ∀ l s', s.step l = some s' → s'.cache = s.cache ∨
      ∃ host n response dial, l = .run host n response ∧
        s'.calls host n = some (.ret (some dial)) ∧
        ∀ other, other ≠ host → s'.cache other = s.cache other := by
  have ha : Aged s := (Aged.start clock).run h
  refine ⟨fun host n response dial s' hp hstep hret => ?_, fun host => ?_, fun l s' hstep => ?_⟩
  · exact ha.hit hp hstep hret
  · exact SameFor.run ⟨rfl, rfl, rfl⟩ (Aged.start clock) h
  · exact ha.cache_step hstep

def dialed (dial : String) : Option LookupResponse :=
  some { statusCode := 200, body := some (.arr [.obj [("dial", .str dial)]]) }

/-- Two lookups for one host overlap, and the older one's answer comes last. -/
def overtaken : List ProxyLabel :=
  [.call "a" 0, .run "a" 0 none, .run "a" 0 none, .tick 3,
    .call "a" 1, .run "a" 1 none, .run "a" 1 none, .run "a" 1 (dialed "new"), .run "a" 1 none,
    .run "a" 0 (dialed "old"), .run "a" 0 none, .tick 4, .call "a" 2]

theorem overtaken_runs : (ProxyState.run { clock := 0 } overtaken).isSome = true := by decide +kernel

/-- A third call takes the older answer, four seconds after its lookup. -/
theorem resolve_staleness_overtaken :
    let s := (ProxyState.run { clock := 0 } overtaken).get overtaken_runs
    ∃ s' time, s.step (.run "a" 2 none) = some s' ∧
      s'.calls "a" 2 = some (.ret (some (.str "old"))) ∧ s.clock - 5 < time ∧
      Looked s.hist "a" time (.str "old") := by
  intro s
  obtain ⟨hhit, _, _⟩ := resolve_staleness (Option.some_get overtaken_runs).symm
  have hp : s.calls "a" 2 = some (resolve "a") := rfl
  have hs : (s.step (.run "a" 2 none)).isSome = true := by decide +kernel
  let s' := (s.step (.run "a" 2 none)).get hs
  have hstep : s.step (.run "a" 2 none) = some s' := (Option.some_get hs).symm
  have hret : s'.calls "a" 2 = some (.ret (some (.str "old"))) := by with_unfolding_all rfl
  obtain ⟨time, hlt, hl⟩ := hhit "a" 2 none (.str "old") s' hp hstep hret
  exact ⟨s', time, hstep, hret, hlt, hl⟩

end Clusteration.Front
