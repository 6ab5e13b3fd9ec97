import Clusteration.Invariants.Acts

namespace Clusteration

namespace Cluster
variable {c c' : Cluster} {n : Int} {g : Guest}

theorem find_vmid (h : c.find n = some g) : g.vmid = n := by
  have := List.find?_some h
  simpa using this

theorem find_update {f : Guest → Guest} (hf : ∀ g, (f g).vmid = g.vmid) (h : c.find n = some g) :
    (c.update n f).find = Function.update c.find n (some (f g)) := by
  funext m
  have hp : ((fun g : Guest => decide (g.vmid = m)) ∘ fun g => if g.vmid = n then f g else g) =
      fun g => decide (g.vmid = m) := by
    funext g
    by_cases hg : g.vmid = n <;> simp [hg, hf]
  have hmap : (c.update n f).find m = (c.find m).map fun g => if g.vmid = n then f g else g := by
    simp only [find, update, List.find?_map, hp]
  rw [hmap]
  by_cases hm : m = n
  · subst hm
    simp [h, find_vmid h]
  · rw [Function.update_of_ne hm]
    cases hg : c.find m with
    | none => rfl
    | some g' => simp [find_vmid hg, hm]

theorem find_remove : (c.remove n).find = Function.update c.find n none := by
  funext m
  by_cases hm : m = n
  · subst hm
    simp [find, remove, List.find?_filter]
  · rw [Function.update_of_ne hm]
    simp only [find, remove, List.find?_filter]
    congr 1
    funext g
    by_cases hg : g.vmid = m
    · simp [hg, hm]
    · simp [hg]

theorem find_append (hg : g.vmid = n) (h : c.find n = none) :
    ({ c with guests := c.guests ++ [g] } : Cluster).find = Function.update c.find n (some g) := by
  subst hg
  funext m
  by_cases hm : m = g.vmid
  · subst hm
    simp only [find] at h ⊢
    simp [List.find?_append, h]
  · rw [Function.update_of_ne hm]
    simp [find, List.find?_append, Ne.symm hm]

end Cluster

/-- Requests that leave the guests as far as they matter here. -/
def Req.configures : Req → Bool
  | setConfig .. | resize .. => true
  | _ => false

open Function in
/-- What an attempt of a request leaves of the guests. -/
inductive Served (c : Cluster) (caller : Option Caller) (req : Req) (i : HttpIn) (c' : Cluster) : Prop
  | kept : i.effect req = none ∨ req.configures = true → c'.drawn = c.drawn → c'.find = c.find →
      Served c caller req i c'
  | cloned {node name : String} {t n : Int} : req = .clone node t n name → i.applied = true →
      c.find n = none → c'.drawn = c.drawn →
      c'.find = update c.find n (some { vmid := n, node, origin := caller, machineId := .template t,
                                        bootId := .template t }) → Served c caller req i c'
  | booted {n : Int} {g : Guest} : i.boots req = true → req.target = some n → c.find n = some g →
      c'.drawn = c.drawn →
      c'.find = update c.find n (some { g with running := true, bootId := g.machineId, addr := i.addr }) →
      Served c caller req i c'
  | halted {node : String} {n : Int} {action : PowerAction} {g : Guest} :
      req = .power node n action → i.boots req = false → c.find n = some g → c'.drawn = c.drawn →
      c'.find = update c.find n (some { g with running := false }) → Served c caller req i c'
  | renewed {node script : String} {n : Int} {g : Guest} : req = .exec node n script →
      i.applied = true → c.find n = some g → c'.drawn = c.drawn + 1 →
      c'.find = update c.find n (some { g with machineId := .fresh c.drawn }) →
      Served c caller req i c'
  | removed {node : String} {n : Int} : req = .destroy node n → i.applied = true →
      (c.find n).isSome = true → c'.drawn = c.drawn → c'.find = update c.find n none →
      Served c caller req i c'

section Serve
variable {c c' : Cluster} {caller : Option Caller} {req : Req} {i : HttpIn}

theorem HttpIn.effect_same {effect : Req} (he : i.effect req = some effect)
    (hp : ∀ node n action, effect ≠ .power node n action) : i.applied = true ∧ req = effect := by
  rcases HttpIn.effect_cases he with ⟨hi, heq⟩ | ⟨node, n, _, action, _, heq⟩
  · exact ⟨hi, heq.symm⟩
  · exact absurd heq (hp node n action)

theorem HttpIn.effect_power {node : String} {n : Int} {action : PowerAction}
    (he : i.effect req = some (.power node n action)) : ∃ action', req = .power node n action' := by
  rcases HttpIn.effect_cases he with ⟨_, heq⟩ | ⟨_, _, action', _, hreq, heq⟩
  · exact ⟨action, heq.symm⟩
  · cases heq
    exact ⟨action', hreq⟩

theorem apply_served {effect : Req} (he : i.effect req = some effect)
    (h : c.apply caller i.addr effect = some c') : Served c caller req i c' := by
  have hboots : i.boots req = effect.boots := by rw [HttpIn.boots, he, Option.any_some]
  unfold Cluster.apply at h
  split at h
  · next node t n name =>
    obtain ⟨hi, rfl⟩ := HttpIn.effect_same he (by simp)
    rw [Option.ite_none_left_eq_some, Bool.not_eq_true, Bool.or_eq_false_iff,
      Option.isSome_eq_false_iff, Option.isNone_iff_eq_none] at h
    obtain ⟨⟨hn, _⟩, h⟩ := h
    cases h
    exact .cloned rfl hi hn rfl (Cluster.find_append rfl hn)
  · obtain ⟨_, rfl⟩ := HttpIn.effect_same he (by simp)
    rw [Option.ite_none_right_eq_some] at h
    cases h.2
    exact .kept (.inr rfl) rfl rfl
  · obtain ⟨_, rfl⟩ := HttpIn.effect_same he (by simp)
    rw [Option.ite_none_right_eq_some] at h
    cases h.2
    exact .kept (.inr rfl) rfl rfl
  · obtain ⟨action, rfl⟩ := HttpIn.effect_power he
    rw [Option.ite_none_right_eq_some] at h
    obtain ⟨g, hg, _⟩ := (Option.any_eq_true _ _).mp h.1
    cases h.2
    exact .booted hboots rfl hg rfl (Cluster.find_update (fun _ => rfl) hg)
  · obtain ⟨action, rfl⟩ := HttpIn.effect_power he
    rw [Option.ite_none_right_eq_some] at h
    obtain ⟨g, hg, hrun⟩ := (Option.any_eq_true _ _).mp h.1
    rw [Bool.and_eq_true] at hrun
    cases h.2
    have hfind := Cluster.find_update (f := fun g => { g with bootId := g.machineId, addr := i.addr })
      (fun _ => rfl) hg
    exact .booted hboots rfl hg rfl (hfind.trans (by simp [hrun.2]))
  · obtain ⟨action, rfl⟩ := HttpIn.effect_power he
    rw [Option.ite_none_right_eq_some] at h
    obtain ⟨g, hg, _⟩ := (Option.any_eq_true _ _).mp h.1
    cases h.2
    exact .halted rfl hboots hg rfl (Cluster.find_update (fun _ => rfl) hg)
  · obtain ⟨action, rfl⟩ := HttpIn.effect_power he
    rw [Option.ite_none_right_eq_some] at h
    obtain ⟨g, hg, _⟩ := (Option.any_eq_true _ _).mp h.1
    cases h.2
    exact .halted rfl hboots hg rfl (Cluster.find_update (fun _ => rfl) hg)
  · obtain ⟨hi, rfl⟩ := HttpIn.effect_same he (by simp)
    rw [Option.ite_none_right_eq_some] at h
    obtain ⟨g, hg, _⟩ := (Option.any_eq_true _ _).mp h.1
    cases h.2
    exact .renewed rfl hi hg rfl (Cluster.find_update (fun _ => rfl) hg)
  · obtain ⟨hi, rfl⟩ := HttpIn.effect_same he (by simp)
    rw [Option.ite_none_right_eq_some] at h
    obtain ⟨g, hg, _⟩ := (Option.any_eq_true _ _).mp h.1
    cases h.2
    exact .removed rfl hi (by simp [hg]) rfl Cluster.find_remove
  · cases h

/-- The answer's UPID does not change the guests. -/
theorem Served.of_guests {c₁ c₂ : Cluster} (h : Served c caller req i c₁) (hf : c₂.find = c₁.find)
    (hd : c₂.drawn = c₁.drawn) : Served c caller req i c₂ := by
  cases h with
  | kept h₁ h₂ h₃ => exact .kept h₁ (hd.trans h₂) (hf.trans h₃)
  | cloned h₁ h₂ h₃ h₄ h₅ => exact .cloned h₁ h₂ h₃ (hd.trans h₄) (hf.trans h₅)
  | booted h₁ h₂ h₃ h₄ h₅ => exact .booted h₁ h₂ h₃ (hd.trans h₄) (hf.trans h₅)
  | halted h₁ h₂ h₃ h₄ h₅ => exact .halted h₁ h₂ h₃ (hd.trans h₄) (hf.trans h₅)
  | renewed h₁ h₂ h₃ h₄ h₅ => exact .renewed h₁ h₂ h₃ (hd.trans h₄) (hf.trans h₅)
  | removed h₁ h₂ h₃ h₄ h₅ => exact .removed h₁ h₂ h₃ (hd.trans h₄) (hf.trans h₅)

theorem serve_served (h : c.serve caller req i = some c') : Served c caller req i c' := by
  unfold Cluster.serve at h
  rw [Option.ite_none_left_eq_some] at h
  replace h := h.2
  split at h
  · rw [Option.ite_none_left_eq_some] at h
    cases h.2
    refine .kept (.inl ?_) rfl rfl
    cases he : i.effect req with
    | none => rfl
    | some effect =>
      rcases HttpIn.effect_cases he with ⟨hi, _⟩ | ⟨_, _, _, _, rfl, _⟩
      · exact absurd hi h.1
      · next hget => cases hget
  · obtain ⟨c₁, hc₁, rfl⟩ := Option.map_eq_some_iff.mp h
    have hserved : Served c caller req i c₁ := by
      split at hc₁
      · next effect he => exact apply_served he hc₁
      · next he =>
        cases hc₁
        exact .kept (.inl he) rfl rfl
    apply hserved.of_guests
    · cases upidOf i.out <;> rfl
    · cases upidOf i.out <;> rfl

theorem apply_tasks {addr : String} (h : c.apply caller addr req = some c') : c'.tasks = c.tasks := by
  unfold Cluster.apply at h
  split at h
  case h_1 =>
    rw [Option.ite_none_left_eq_some] at h
    cases h.2
    rfl
  case h_10 => cases h
  all_goals
    rw [Option.ite_none_right_eq_some] at h
    cases h.2
    rfl

/-- A guest after an attempt of a request: the one there was, a clone, or what the request has made
of it. -/
inductive GuestNow (c : Cluster) (req : Req) (i : HttpIn) (c' : Cluster) (n : Int) (g' : Guest) : Prop
  | same : c.find n = some g' → GuestNow c req i c' n g'
  | cloned {node name : String} {t : Int} {caller : Option Caller} : req = .clone node t n name →
      c.find n = none →
      g' = { vmid := n, node, origin := caller, machineId := .template t, bootId := .template t } →
      GuestNow c req i c' n g'
  | booted {g : Guest} : req.target = some n → c.find n = some g →
      g' = { g with running := true, bootId := g.machineId, addr := i.addr } → GuestNow c req i c' n g'
  | halted {g : Guest} : req.target = some n → c.find n = some g →
      g' = { g with running := false } → GuestNow c req i c' n g'
  | renewed {g : Guest} : req.target = some n → c.find n = some g → c'.drawn = c.drawn + 1 →
      g' = { g with machineId := .fresh c.drawn } → GuestNow c req i c' n g'

/-- What one entry of the looked-up guests is after one entry has changed. -/
theorem find_updated {f f' : Int → Option Guest} {k n : Int} {r : Option Guest} {g' : Guest}
    (hf : f' = Function.update f k r) (h : f' n = some g') :
    (n = k ∧ r = some g') ∨ f n = some g' := by
  rw [hf, Function.update_apply] at h
  split at h
  · next hn => exact .inl ⟨hn, h⟩
  · exact .inr h

theorem Served.find_back (h : Served c caller req i c') {n : Int} {g' : Guest}
    (hg : c'.find n = some g') : GuestNow c req i c' n g' := by
  cases h with
  | kept _ _ hf => exact .same (hf ▸ hg)
  | cloned hreq _ hnone _ hf =>
    rcases find_updated hf hg with ⟨rfl, hr⟩ | h
    · exact .cloned hreq hnone (Option.some.inj hr).symm
    · exact .same h
  | booted _ ht hm _ hf =>
    rcases find_updated hf hg with ⟨rfl, hr⟩ | h
    · exact .booted ht hm (Option.some.inj hr).symm
    · exact .same h
  | halted hreq _ hm _ hf =>
    rcases find_updated hf hg with ⟨rfl, hr⟩ | h
    · exact .halted (by rw [hreq]; rfl) hm (Option.some.inj hr).symm
    · exact .same h
  | renewed hreq _ hm hd hf =>
    rcases find_updated hf hg with ⟨rfl, hr⟩ | h
    · exact .renewed (by rw [hreq]; rfl) hm hd (Option.some.inj hr).symm
    · exact .same h
  | removed _ _ _ _ hf =>
    rcases find_updated hf hg with ⟨rfl, hr⟩ | h
    · cases hr
    · exact .same h

/-- A request leaves every guest but its target as it is. -/
theorem Served.find_other (h : Served c caller req i c') {n : Int} {g : Guest}
    (hg : c.find n = some g) (ht : req.target ≠ some n) : c'.find n = some g := by
  have hne : ∀ {m : Int} {r : Option Guest}, c'.find = Function.update c.find m r → n ≠ m →
      c'.find n = some g := by
    intro m r hf hn
    rw [hf, Function.update_of_ne hn, hg]
  cases h with
  | kept _ _ hf => exact hf ▸ hg
  | cloned _ _ hnone _ hf =>
    apply hne hf
    rintro rfl
    rw [hg] at hnone
    cases hnone
  | booted _ htm _ _ hf =>
    apply hne hf
    rintro rfl
    exact ht htm
  | halted hreq _ _ _ hf | renewed hreq _ _ _ hf | removed hreq _ _ _ hf =>
    apply hne hf
    rintro rfl
    rw [hreq] at ht
    exact ht rfl

theorem Served.drawn_le (h : Served c caller req i c') : c.drawn ≤ c'.drawn := by
  cases h with
  | kept _ hd _ | cloned _ _ _ hd _ | booted _ _ _ hd _ | halted _ _ _ hd _ | removed _ _ _ hd _
  | renewed _ _ _ hd _ => omega

/-- The UPID of an answer is noted with whether the request was carried out. -/
theorem serve_upid (h : c.serve caller req i = some c') (hg : req.isGet = false) {u : String}
    (hu : upidOf i.out = some u) : c'.tasks = (u, i.applied) :: c.tasks := by
  unfold Cluster.serve at h
  rw [Option.ite_none_left_eq_some, hg, if_neg Bool.false_ne_true] at h
  obtain ⟨c₁, hc₁, rfl⟩ := Option.map_eq_some_iff.mp h.2
  simp only [hu]
  split at hc₁
  · rw [apply_tasks hc₁]
  · cases hc₁
    rfl

/-- An attempt that boots its guest finds it. -/
theorem serve_boots (h : c.serve caller req i = some c') (hb : i.boots req = true) :
    ∃ n g, req.target = some n ∧ c.find n = some g := by
  have hne : ∀ {effect : Req}, i.effect req = some effect → effect.boots = true := by
    intro effect he
    rwa [HttpIn.boots, he, Option.any_some] at hb
  cases serve_served h with
  | kept hk _ _ =>
    rcases hk with hk | hk
    · rw [HttpIn.boots, hk] at hb
      cases hb
    · obtain ⟨effect, he, hboots⟩ := (Option.any_eq_true _ _).mp hb
      rcases HttpIn.effect_cases he with ⟨_, rfl⟩ | ⟨_, _, _, _, rfl, _⟩
      · cases effect <;> first | cases hboots | cases hk
      · cases hk
  | booted _ ht hg _ _ => exact ⟨_, _, ht, hg⟩
  | halted _ hn _ _ _ =>
    rw [hb] at hn
    cases hn
  | cloned hr hi _ _ _ | renewed hr hi _ _ _ | removed hr hi _ _ _ =>
    subst hr
    have hboots := hne (if_pos hi)
    cases hboots

end Serve

section Step
variable {m m' : View} {l : Label}

/-- An attempt of a request of the job at work. -/
structure Sent (m : View) (l : Label) (m' : View) (w : Exec) (req : Req) (i : HttpIn) : Prop where
  work : m.worker = .exec w
  label : l = .await .worker (.http (some w.caller) req) i.out
  moves : (Calls w req ∧ m'.worker = .exec w) ∨
    ∃ stage, Learns w (.http (some w.caller) req) i.out stage ∧ m'.worker = .exec { w with stage }
  serve : m.pve.serve (some w.caller) req i = some m'.pve
  hist : m'.hist = httpEvents m.pve (some w.caller) req i ++ m.hist
  jobs : m'.jobs = m.jobs
  vms : m'.vms = m.vms

theorem Sent.of_move {w : Exec} {req : Req} {i : HttpIn} {stage : Stage} {pve : Cluster}
    (hw : m.worker = .exec w)
    (hcall : (Calls w req ∧ stage = w.stage) ∨ Learns w (.http (some w.caller) req) i.out stage)
    (hserve : m.pve.serve (some w.caller) req i = some pve) :
    Sent m (.await .worker (.http (some w.caller) req) i.out)
      { m with
        worker := .exec { w with stage }, pve
        hist := httpEvents m.pve (some w.caller) req i ++ m.hist } w req i := by
  refine ⟨hw, rfl, ?_, hserve, rfl, rfl, rfl⟩
  rcases hcall with ⟨hc, rfl⟩ | hl
  · exact .inl ⟨hc, rfl⟩
  · exact .inr ⟨stage, hl, rfl⟩

theorem Sent.calls {w : Exec} {req : Req} {i : HttpIn} (h : Sent m l m' w req i)
    (hg : req.isGet = false) : Calls w req := by
  rcases h.moves with ⟨hc, _⟩ | ⟨_, hl, _⟩
  · exact hc
  · exact hl.calls hg

/-- Only such attempts change the cluster. -/
theorem Move.sent (hm : Move m l m') : m'.pve = m.pve ∨ ∃ w req i, Sent m l m' w req i := by
  cases hm with
  | http _ hw hcall hserve => exact .inr ⟨_, _, _, .of_move hw hcall hserve⟩
  | _ => exact .inl rfl

/-- A guest after a step: the one there was, or a clone the job at work has just made. -/
inductive GuestOrigin (m : View) (l : Label) (m' : View) (n : Int) (g' : Guest) : Prop
  | old {g : Guest} : m.pve.find n = some g → g'.origin = g.origin → GuestOrigin m l m' n g'
  | cloned {w : Exec} {stage : Stage} : m.worker = .exec w → m'.worker = .exec { w with stage } →
      w.stage = .allocated n →
      stage = .allocated n ∨ (stage = .lost n ∧ ∃ node template name out, upidOf out = none ∧
        l = .await .worker (.http (some w.caller) (.clone node template n name)) out) →
      g'.origin = some w.caller → m'.jobs = m.jobs → m'.vms = m.vms → GuestOrigin m l m' n g'

theorem update_find {f : Int → Option Guest} {k n : Int} {g g₁ g' : Guest} (hk : f k = some g₁)
    (h : Function.update f k (some g) n = some g') (ho : g.origin = g₁.origin) :
    ∃ g₀, f n = some g₀ ∧ g'.origin = g₀.origin := by
  rw [Function.update_apply] at h
  split at h
  · next hn =>
    subst hn
    cases h
    exact ⟨g₁, hk, ho⟩
  · exact ⟨g', h, rfl⟩

theorem Move.find_back (hm : Move m l m') {n : Int} {g' : Guest} (h : m'.pve.find n = some g') :
    GuestOrigin m l m' n g' := by
  rcases hm.sent with hp | ⟨w, req, i, ha⟩
  · exact .old (hp ▸ h) rfl
  · cases serve_served ha.serve with
    | kept _ _ hf => exact .old (hf ▸ h) rfl
    | @cloned node name k n' hreq _ _ _ hf =>
      rw [hf, Function.update_apply] at h
      split at h
      · next hn =>
        subst hn
        cases h
        rcases ha.moves with ⟨hc, hw'⟩ | ⟨stage, hl, _⟩
        · subst hreq
          cases hc with
          | clone _ _ _ hs => exact .cloned ha.work hw' hs (.inl hs) rfl ha.jobs ha.vms
        · subst hreq
          cases hl with
          | unaccepted _ _ _ hs hu =>
            exact .cloned ha.work ‹_› hs (.inr ⟨rfl, _, _, _, _, hu, ha.label⟩) rfl ha.jobs ha.vms
      · exact .old h rfl
    | booted _ _ hg _ hf | halted _ _ hg _ hf | renewed _ _ hg _ hf =>
      rw [hf] at h
      obtain ⟨g₀, hg₀, ho⟩ := update_find hg h rfl
      exact .old hg₀ ho
    | removed _ _ _ _ hf =>
      rw [hf, Function.update_apply] at h
      split at h
      · cases h
      · exact .old h rfl

/-- A request in the history was there before, or has just been sent. -/
theorem Move.call_back (hm : Move m l m') {c : Option Caller} {req : Req} {g : Option Guest}
    (h : Ev.call c req g ∈ m'.hist) : Ev.call c req g ∈ m.hist ∨
      ∃ w i, Sent m l m' w req i ∧ c = some w.caller ∧ g = req.target.bind m.pve.find ∧
        req.isGet = false := by
  have hcons : ∀ {ev : Ev}, Ev.call c req g ∈ ev :: m.hist → (∀ c req g, ev ≠ .call c req g) →
      Ev.call c req g ∈ m.hist := by
    intro ev h hne
    rcases List.mem_cons.mp h with h | h
    · exact absurd h.symm (hne c req g)
    · exact h
  cases hm with
  | get _ _ _ | enter _ _ _ | ssh _ _ _ _ _ | clock _ _ _ => exact .inl (hcons h (by simp))
  | observe evs hq =>
    rcases List.mem_append.mp h with h | h
    · exact (hq _ h).elim
    · exact .inl h
  | @http w req' i stage pve _ hw hcall hserve =>
    rcases List.mem_append.mp h with h | h
    · cases mem_httpEvents h with
      | call hget => exact .inr ⟨w, i, .of_move hw hcall hserve, rfl, rfl, hget⟩
    · exact .inl h
  | _ => exact .inl h

end Step

end Clusteration
