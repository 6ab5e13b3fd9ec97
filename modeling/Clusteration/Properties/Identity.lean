import Mathlib.Data.List.TakeWhile
import Clusteration.Properties.Freshness

open Transition

namespace Clusteration

/-- Guest `g` has, or booted with, the machine-id drawn as number `k`. -/
def Guest.Drew (g : Guest) (k : Nat) : Prop := g.machineId = .fresh k ∨ g.bootId = .fresh k

/-- The guest booted with a machine-id of its own. -/
def Guest.Identified (g : Guest) : Prop := ∃ k, g.bootId = .fresh k

/-- A machine-id that was drawn is drawn once, for one guest, and stays with it. -/
structure Cluster.Distinct (c : Cluster) : Prop where
  drawn : ∀ {n g k}, c.find n = some g → g.Drew k → k < c.drawn
  unique : ∀ {n n' g g' k}, c.find n = some g → c.find n' = some g' → g.Drew k → g'.Drew k → n = n'
  later : ∀ {n g}, c.find n = some g → g.Identified → ∃ k, g.machineId = .fresh k

section Serve
variable {c c' : Cluster} {caller : Option Caller} {req : Req} {i : HttpIn}

/-- A drawn machine-id was there before the request, or the request has drawn it. -/
theorem GuestNow.drew {n : Int} {k : Nat} {g' : Guest} (h : GuestNow c req i c' n g')
    (hk : g'.Drew k) : (∃ g, c.find n = some g ∧ g.Drew k) ∨
      (k = c.drawn ∧ c'.drawn = c.drawn + 1 ∧ req.target = some n) := by
  cases h with
  | same hg => exact .inl ⟨g', hg, hk⟩
  | cloned _ _ heq =>
    subst heq
    rcases hk with hk | hk
    · cases hk
    · cases hk
  | @booted g _ hg heq =>
    subst heq
    have hid : g.machineId = .fresh k := hk.elim id id
    exact .inl ⟨g, hg, .inl hid⟩
  | @halted g _ hg heq =>
    subst heq
    exact .inl ⟨g, hg, hk⟩
  | @renewed g ht hg hd heq =>
    subst heq
    rcases hk with hk | hk
    · cases hk
      exact .inr ⟨rfl, hd, ht⟩
    · exact .inl ⟨g, hg, .inr hk⟩

theorem GuestNow.later {n : Int} {g' : Guest} (h : GuestNow c req i c' n g') (hc : c.Distinct)
    (hid : g'.Identified) : ∃ k, g'.machineId = .fresh k := by
  cases h with
  | same hg => exact hc.later hg hid
  | cloned _ _ heq =>
    subst heq
    obtain ⟨k, hk⟩ := hid
    cases hk
  | booted _ _ heq =>
    subst heq
    exact hid
  | @halted g _ hg heq =>
    subst heq
    have hlater : ∃ k, g.machineId = .fresh k := hc.later hg hid
    exact hlater
  | renewed _ _ _ heq =>
    subst heq
    exact ⟨c.drawn, rfl⟩

/-- A guest that booted with a machine-id of its own goes on doing so. -/
theorem GuestNow.identified {n : Int} {g g' : Guest} (h : GuestNow c req i c' n g')
    (hc : c.Distinct) (hg : c.find n = some g) (hid : g.Identified) : g'.Identified := by
  cases h with
  | same hg' =>
    obtain rfl := Option.some.inj (hg.symm.trans hg')
    exact hid
  | cloned _ hnone _ =>
    rw [hg] at hnone
    cases hnone
  | booted _ hg' heq =>
    subst heq
    obtain rfl := Option.some.inj (hg.symm.trans hg')
    exact hc.later hg hid
  | halted _ hg' heq | renewed _ hg' _ heq =>
    subst heq
    obtain rfl := Option.some.inj (hg.symm.trans hg')
    exact hid

theorem Cluster.Distinct.served (hc : c.Distinct) (h : Served c caller req i c') : c'.Distinct := by
  have hle := h.drawn_le
  have hold : ∀ {n g k}, c.find n = some g → g.Drew k → k ≠ c.drawn := by
    intro n g k hg hk heq
    have hlt := hc.drawn hg hk
    omega
  refine ⟨fun {n g' k} hg' hk => ?_, fun {n n' g g' k} hg hg' hk hk' => ?_, fun {n g'} hg' hid => ?_⟩
  · rcases (h.find_back hg').drew hk with ⟨g, hg, hk⟩ | ⟨rfl, hd, _⟩
    · have hlt := hc.drawn hg hk
      omega
    · omega
  · rcases (h.find_back hg).drew hk with ⟨g₀, hg₀, hk₀⟩ | ⟨heq, _, ht⟩
    · rcases (h.find_back hg').drew hk' with ⟨g₁, hg₁, hk₁⟩ | ⟨heq, _, _⟩
      · exact hc.unique hg₀ hg₁ hk₀ hk₁
      · exact absurd heq (hold hg₀ hk₀)
    · rcases (h.find_back hg').drew hk' with ⟨g₁, hg₁, hk₁⟩ | ⟨_, _, ht'⟩
      · exact absurd heq (hold hg₁ hk₁)
      · exact Option.some.inj (ht.symm.trans ht')
  · exact (h.find_back hg').later hc hid

end Serve

/-- What is assumed of the network: running guests have one address exactly when they booted with one
machine-id, and the agent of a guest runs in it and names its address. -/
structure Network (s : Shared) (l : Label) (s' : Shared) : Prop where
  lease : ∀ n n' g g', s'.pve.find n = some g → s'.pve.find n' = some g' → g.running = true →
    g'.running = true → (g.addr = g'.addr ↔ g.bootId = g'.bootId)
  agent : ∀ t c node n out ip, l = .await t (.http c (.networkInterfaces node n)) out →
    ipOf out = some ip → ∃ g, s.pve.find n = some g ∧ g.running = true ∧ g.addr = ip

def Cond.network : Cond := Network

def Ev.clones (n : Int) : Ev → Bool
  | .call _ (.clone _ _ k _) _ => k = n
  | _ => false

/-- The history since guest `n` was cloned. -/
def sinceCloned (hist : List Ev) (n : Int) : List Ev := hist.takeWhile fun ev => !ev.clones n

/-- Since it was cloned, the machine-id of guest `n` has been reset, and the guest has booted after
that. -/
def Renewed (hist : List Ev) (n : Int) : Prop :=
  Ev.renew n ∈ (sinceCloned hist n).dropWhile fun ev => !ev.isBoot n

/-- What an attempt of a request leaves of a guest as it booted. -/
inductive BootNow (c : Cluster) (req : Req) (i : HttpIn) (n : Int) (g' : Guest) : Prop
  | kept {g : Guest} : c.find n = some g → ¬ (i.boots req = true ∧ req.target = some n) →
      g.bootId = g'.bootId → (g'.running = true → g.running = true ∧ g.addr = g'.addr) →
      (¬ (i.renews req = true ∧ req.target = some n) ∧ g.machineId = g'.machineId) ∨
        (∃ k, g'.machineId = .fresh k) → BootNow c req i n g'
  | booted {g : Guest} : i.boots req = true → req.target = some n → c.find n = some g →
      g' = { g with running := true, bootId := g.machineId, addr := i.addr } → BootNow c req i n g'
  | cloned {node name : String} {t : Int} : req = .clone node t n name → g'.running = false →
      BootNow c req i n g'

section Served
variable {c c' : Cluster} {caller : Option Caller} {req : Req} {i : HttpIn} {hist : List Ev}

theorem HttpIn.boots_of_applied (h : i.applied = true) : i.boots req = req.boots := by
  simp [HttpIn.boots, HttpIn.effect, h]

/-- A request that leaves the guests alone boots none, and resets no machine-id. -/
theorem HttpIn.still (h : i.effect req = none ∨ req.configures = true) :
    i.boots req = false ∧ i.renews req = false := by
  unfold HttpIn.boots HttpIn.renews
  rcases h with h | h
  · rw [h]
    exact ⟨rfl, rfl⟩
  · cases he : i.effect req with
    | none => exact ⟨rfl, rfl⟩
    | some effect =>
      rcases HttpIn.effect_cases he with ⟨_, rfl⟩ | ⟨_, _, _, _, rfl, _⟩
      · cases effect <;> first | exact ⟨rfl, rfl⟩ | cases h
      · cases h

theorem Served.boot_back (h : Served c caller req i c') {n : Int} {g' : Guest}
    (hg : c'.find n = some g') : BootNow c req i n g' := by
  by_cases ht : req.target = some n
  · have hat : ∀ {k r}, req.target = some k → c'.find = Function.update c.find k r →
        k = n ∧ r = some g' := by
      intro k r hk hf
      obtain rfl : k = n := Option.some.inj (hk.symm.trans ht)
      rw [hf, Function.update_self] at hg
      exact ⟨rfl, hg⟩
    cases h with
    | kept hk _ hf =>
      obtain ⟨hb, hr⟩ := HttpIn.still hk
      exact .kept (hf ▸ hg) (by simp [hb]) rfl (fun h => ⟨h, rfl⟩) (.inl ⟨by simp [hr], rfl⟩)
    | cloned hreq _ _ _ _ =>
      rw [hreq] at ht
      cases ht
    | booted hb hk hm _ hf =>
      obtain ⟨rfl, hr⟩ := hat hk hf
      exact .booted hb hk hm (Option.some.inj hr).symm
    | halted hreq hb hm _ hf =>
      obtain ⟨rfl, hr⟩ := hat (by rw [hreq]; rfl) hf
      cases hr
      refine .kept hm (by simp [hb]) rfl (fun h => by cases h) (.inl ⟨?_, rfl⟩)
      rintro ⟨hrenews, _⟩
      obtain ⟨_, _, _, _, hexec⟩ := HttpIn.renews_iff.mp hrenews
      rw [hreq] at hexec
      cases hexec
    | renewed hreq hi hm _ hf =>
      obtain ⟨rfl, hr⟩ := hat (by rw [hreq]; rfl) hf
      cases hr
      refine .kept hm ?_ rfl (fun h => ⟨h, rfl⟩) (.inr ⟨_, rfl⟩)
      rintro ⟨hb, _⟩
      rw [HttpIn.boots_of_applied hi, hreq] at hb
      cases hb
    | removed hreq _ _ _ hf =>
      obtain ⟨rfl, hr⟩ := hat (by rw [hreq]; rfl) hf
      cases hr
  · cases h.find_back hg with
    | same hm =>
      exact .kept hm (fun h => ht h.2) rfl (fun h => ⟨h, rfl⟩) (.inl ⟨fun h => ht h.2, rfl⟩)
    | cloned hreq _ heq =>
      subst heq
      exact .cloned hreq rfl
    | booted htarget _ _ | halted htarget _ _ | renewed htarget _ _ _ => exact absurd htarget ht

theorem httpEvents_clone {pve : Cluster} {node name : String} {t n : Int} :
    httpEvents pve caller (.clone node t n name) i = [.call caller (.clone node t n name) none] := by
  have hboots : i.boots (.clone node t n name) = false := by
    rw [HttpIn.boots, Option.any_eq_false]
    intro effect he
    rcases HttpIn.effect_cases he with ⟨_, rfl⟩ | ⟨_, _, _, _, hreq, _⟩
    · simp [Req.boots]
    · cases hreq
  have hrenews : i.renews (.clone node t n name) = false := by
    rw [Bool.eq_false_iff]
    intro h
    obtain ⟨_, _, _, _, hreq⟩ := HttpIn.renews_iff.mp h
    cases hreq
  simp [httpEvents, Req.isGet, hboots, hrenews, Req.target]

/-- A boot begins the history anew. -/
theorem sinceBoot_booted {pve : Cluster} {n : Int} (hb : i.boots req = true)
    (ht : req.target = some n) : sinceBoot (httpEvents pve caller req i ++ hist) n = [] := by
  have hget := HttpIn.isGet_of_boots hb
  unfold httpEvents
  split
  · cases hget
  · simp [hget, hb, ht, sinceBoot, Ev.isBoot]

/-- What the history tells of the guests: a machine-id reset since the guest was cloned is its own, a
boot after that was one with it, and a running guest has the address it named since it booted. -/
structure Tracked (c : Cluster) (hist : List Ev) : Prop where
  reset : ∀ {n g}, c.find n = some g → Ev.renew n ∈ sinceCloned hist n → ∃ k, g.machineId = .fresh k
  renewed : ∀ {n g}, c.find n = some g → Renewed hist n → g.Identified
  address : ∀ {n g a}, c.find n = some g → g.running = true → Ev.report n a ∈ sinceBoot hist n →
    g.addr = a

section History
variable {evs hist : List Ev} {n : Int}

theorem Renewed.mem (h : Renewed hist n) : Ev.renew n ∈ sinceCloned hist n :=
  (List.dropWhile_suffix _).subset h

/-- What boots no guest `n` adds nothing. -/
theorem Renewed.of_append (h : Renewed (evs ++ hist) n) (hno : ∀ ev ∈ evs, ev.isBoot n = false) :
    Renewed hist n := by
  have hdrop : ∀ ev ∈ evs, (!ev.isBoot n) = true := fun ev hev => by simp [hno ev hev]
  unfold Renewed sinceCloned at h
  rw [List.takeWhile_append] at h
  split at h
  · rwa [List.dropWhile_append_of_pos hdrop] at h
  · -- the guest was cloned since, and has not booted after that
    have hnil : (evs.takeWhile fun ev => !ev.clones n).dropWhile (fun ev => !ev.isBoot n) = [] := by
      rw [List.dropWhile_eq_nil_iff]
      exact fun ev hev => hdrop ev ((List.takeWhile_prefix _).subset hev)
    rw [hnil] at h
    cases h

end History

theorem Tracked.served (h : Tracked c hist) (hs : c.serve caller req i = some c')
    (hagent : ∀ node n ip, req = .networkInterfaces node n → ipOf i.out = some ip →
      ∃ g, c.find n = some g ∧ g.running = true ∧ g.addr = ip) :
    Tracked c' (httpEvents c caller req i ++ hist) := by
  have hserved := serve_served hs
  have hreset : ∀ {n g}, c'.find n = some g →
      Ev.renew n ∈ sinceCloned (httpEvents c caller req i ++ hist) n → ∃ k, g.machineId = .fresh k := by
    intro n g' hg hrenew
    cases hserved.boot_back hg with
    | kept hm _ _ _ hid =>
      rcases hid with ⟨hno, hid⟩ | hfresh
      · rcases mem_takeWhile_append hrenew with hnew | hold
        · cases mem_httpEvents hnew with
          | renew hr ht => exact absurd ⟨hr, ht⟩ hno
        · exact hid ▸ h.reset hm hold
      · exact hfresh
    | booted hb _ hm heq =>
      rcases mem_takeWhile_append hrenew with hnew | hold
      · cases mem_httpEvents hnew with
        | renew hr _ =>
          obtain ⟨hi, _, _, _, rfl⟩ := HttpIn.renews_iff.mp hr
          rw [HttpIn.boots_of_applied hi] at hb
          cases hb
      · subst heq
        have hid : ∃ k, _ = MachineId.fresh k := h.reset hm hold
        exact hid
    | cloned hreq _ =>
      subst hreq
      simp [httpEvents_clone, sinceCloned, Ev.clones] at hrenew
  refine ⟨hreset, fun {n g'} hg hren => ?_, fun {n g' a} hg hrun hrep => ?_⟩
  · cases hserved.boot_back hg with
    | kept hm hno hboot _ _ =>
      have hold : Renewed hist n := by
        refine hren.of_append fun ev hev => Bool.eq_false_iff.mpr fun hb => ?_
        cases mem_httpEvents hev with
        | report _ _ | renew _ _ | call _ => cases hb
        | boot hboots ht => exact hno ⟨hboots, ht.trans (congrArg some (of_decide_eq_true hb))⟩
      obtain ⟨k, hk⟩ := h.renewed hm hold
      exact ⟨k, hboot ▸ hk⟩
    | booted _ _ _ heq =>
      -- it boots with the machine-id it has by now
      obtain ⟨k, hk⟩ := hreset hg hren.mem
      subst heq
      exact ⟨k, hk⟩
    | cloned hreq _ =>
      subst hreq
      simp [Renewed, httpEvents_clone, sinceCloned, Ev.clones] at hren
  · cases hserved.boot_back hg with
    | kept hm _ _ hpower _ =>
      obtain ⟨hrun₀, haddr⟩ := hpower hrun
      rw [← haddr]
      rcases mem_takeWhile_append hrep with hnew | hold
      · cases mem_httpEvents hnew with
        | report hreq hip =>
          obtain ⟨g₀, hg₀, _, haddr₀⟩ := hagent _ n a hreq hip
          obtain rfl := Option.some.inj (hm.symm.trans hg₀)
          exact haddr₀
      · exact h.address hm hrun₀ hold
    | booted hb ht _ _ =>
      rw [sinceBoot_booted hb ht] at hrep
      cases hrep
    | cloned _ hoff =>
      rw [hoff] at hrun
      cases hrun

/-- What tells nothing of a guest changes nothing. -/
theorem Tracked.aside {evs : List Ev} (h : Tracked c hist) (hno : ∀ ev ∈ evs, ev.aside = true) :
    Tracked c (evs ++ hist) := by
  have hnot : ∀ {ev : Ev}, ev ∈ evs → ev.aside = false → False := by
    intro ev hev h
    rw [hno ev hev] at h
    cases h
  refine ⟨fun hg hr => ?_, fun hg hr => ?_, fun hg hrun hr => ?_⟩
  · rcases mem_takeWhile_append hr with hnew | hold
    · exact (hnot hnew rfl).elim
    · exact h.reset hg hold
  · exact h.renewed hg (hr.of_append fun ev hev => Ev.isBoot_of_aside (hno ev hev))
  · rcases mem_takeWhile_append hr with hnew | hold
    · exact (hnot hnew rfl).elim
    · exact h.address hg hrun hold

end Served

theorem Tracked.step {m m' : View} {l : Label} (h : Tracked m.pve m.hist) (hm : Move m l m')
    (hagent : ∀ w node n ip i, Sent m l m' w (.networkInterfaces node n) i → ipOf i.out = some ip →
      ∃ g, m.pve.find n = some g ∧ g.running = true ∧ g.addr = ip) : Tracked m'.pve m'.hist := by
  rcases hm.tells with ⟨hpve, evs, hist, haside⟩ | ⟨w, req, i, hsent⟩
  · rw [hpve, hist]
    exact h.aside haside
  · rw [hsent.hist]
    refine h.served hsent.serve ?_
    rintro node n ip rfl hip
    exact hagent w node n ip i hsent hip

theorem Tracked.init {t : Abs} (hi : AInitial t) : Tracked t.view.pve t.view.hist := by
  have hist : t.view.hist = [] := hi.hist
  rw [hist]
  exact ⟨fun _ h => (by cases h), fun _ h => (by cases h), fun _ _ h => (by cases h)⟩

end Clusteration
