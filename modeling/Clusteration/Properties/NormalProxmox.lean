import Mathlib.Data.Finset.Basic
import Mathlib.Data.Fintype.EquivFin
import Clusteration.Panel.Play
import Clusteration.Protocol.Answers
import Clusteration.Properties.PowerState

open Async Task

namespace Clusteration

/-- Guest `n` is on this node, and runs or not. -/
def Cluster.Has (c : Cluster) (n : Int) (node : String) (running : Bool) : Prop :=
  ∃ g, c.find n = some g ∧ g.node = node ∧ g.running = running

/-- The power states of a guest in which a power task succeeds. -/
def PowerAction.admits : PowerAction → Bool → Bool
  | start, running => !running
  | shutdown, running | reboot, running | stop, running => running

section Attempt
variable {c c' : Cluster} {caller : Option Caller} {n : Int} {node : String} {running : Bool}
  {action : PowerAction} {i : HttpIn}

theorem Cluster.Has.any (h : c.Has n node running) (p : Guest → Bool) :
    (c.find n).any (fun g => g.node = node && p g) = (c.find n).any p := by
  obtain ⟨g, hg, rfl, _⟩ := h
  simp [hg]

theorem Cluster.Has.updated (h : c.Has n node running) {f : Guest → Guest} {running' : Bool}
    (hv : ∀ g, (f g).vmid = g.vmid) (hn : ∀ g, (f g).node = g.node)
    (hr : ∀ g, g.running = running → (f g).running = running') : (c.update n f).Has n node running' := by
  obtain ⟨g, hg, rfl, hrun⟩ := h
  have hfind : (c.update n f).find n = some (f g) := by
    rw [Cluster.find_update hv hg, Function.update_self]
  exact ⟨f g, hfind, hn g, hr g hrun⟩

/-- Proxmox carries a power request out if the power state admits it. -/
theorem apply_power (h : c.Has n node running) (caller : Option Caller) (action : PowerAction)
    (addr : String) :
    if action.admits running then
      ∃ c', c.apply caller addr (.power node n action) = some c' ∧ c'.Has n node action.boots
    else c.apply caller addr (.power node n action) = none := by
  have hany : ∀ p : Guest → Bool, (∀ g, p g = action.admits g.running) →
      (c.find n).any (fun g => g.node = node && p g) = action.admits running := by
    intro p hp
    rw [h.any]
    obtain ⟨g, hg, _, hrun⟩ := h
    rw [hg, Option.any_some, hp, hrun]
  have hdone : ∀ {f : Guest → Guest} {p : Guest → Bool}, (∀ g, p g = action.admits g.running) →
      (∀ g, (f g).vmid = g.vmid) → (∀ g, (f g).node = g.node) →
      (∀ g, action.admits g.running = true → (f g).running = action.boots) →
      if action.admits running then
        ∃ c', (if (c.find n).any (fun g => g.node = node && p g) then some (c.update n f) else none) =
          some c' ∧ c'.Has n node action.boots
      else (if (c.find n).any (fun g => g.node = node && p g) then some (c.update n f) else none) =
        none := by
    intro f p hp hv hn hr
    rw [hany p hp]
    by_cases ha : action.admits running = true
    · simp only [ha, if_true]
      refine ⟨_, rfl, h.updated hv hn ?_⟩
      intro g hg
      exact hr g (by rw [hg, ha])
    · simp [ha]
  cases action with
  | start => exact hdone (fun _ => rfl) (fun _ => rfl) (fun _ => rfl) fun _ _ => rfl
  | reboot => exact hdone (fun _ => rfl) (fun _ => rfl) (fun _ => rfl) fun _ h => h
  | shutdown | stop => exact hdone (fun _ => rfl) (fun _ => rfl) (fun _ => rfl) fun _ _ => rfl

/-- The guest after a normal power request, and what is noted of its task. -/
theorem serve_power_normal (h : c.Has n node running)
    (hs : c.serve caller (.power node n action) i = some c') (hn : Normal c (.power node n action) i) :
    ∃ u, upidOf i.out = some u ∧ c'.tasks.lookup u = some (action.admits running) ∧
      c'.Has n node (if action.admits running then action.boots else running) := by
  obtain ⟨hleft, happlied, hu⟩ := hn
  obtain ⟨u, hu⟩ := Option.isSome_iff_exists.mp hu
  have htasks := serve_upid hs rfl hu
  have ha := apply_power h caller action i.addr
  have ha' := apply_power h none action i.addr
  have hlike : i.applied = action.admits running := by
    rw [happlied]
    split at ha'
    · next hadm =>
      obtain ⟨c₁, hc₁, _⟩ := ha'
      rw [hc₁, hadm]
      rfl
    · next hadm =>
      rw [ha', Bool.not_eq_true _ |>.mp hadm]
      rfl
  refine ⟨u, hu, by rw [htasks, hlike]; simp, ?_⟩
  unfold Cluster.serve at hs
  rw [Option.ite_none_left_eq_some] at hs
  replace hs := hs.2
  rw [if_neg (by simp [Req.isGet])] at hs
  obtain ⟨c₁, hc₁, rfl⟩ := Option.map_eq_some_iff.mp hs
  simp only [hu]
  by_cases hadm : action.admits running = true
  · have heffect : i.effect (.power node n action) = some (.power node n action) :=
      if_pos (hlike.trans hadm)
    rw [heffect] at hc₁
    rw [if_pos hadm] at ha ⊢
    obtain ⟨c₂, hc₂, hhas⟩ := ha
    obtain rfl := Option.some.inj (hc₂.symm.trans hc₁)
    exact hhas
  · have heffect : i.effect (.power node n action) = none := by
      simp [HttpIn.effect, hlike, hadm, hleft]
    rw [heffect] at hc₁
    obtain rfl := Option.some.inj hc₁
    rw [if_neg hadm]
    exact h

/-- A UPID that no task has. -/
theorem exists_fresh_upid (c : Cluster) : ∃ u, c.tasks.lookup u = none := by
  have hinf : Infinite String := Infinite.of_injective String.ofList fun _ _ => String.ofList_injective
  obtain ⟨u, hu⟩ := Infinite.exists_notMem_finset (c.tasks.map Prod.fst).toFinset
  refine ⟨u, List.lookup_eq_none_iff.mpr ?_⟩
  intro task ht
  rw [List.mem_toFinset] at hu
  have hne : u ≠ task.1 := by
    rintro rfl
    exact hu (List.mem_map_of_mem ht)
  simpa using hne

theorem strOr_str (a : String) : (Json.str a).strOr = a := by
  by_cases ha : a = ""
  · subst ha
    rfl
  · simp [Json.strOr, Json.truthy, Json.pyStr, ha]

/-- A response with this data. -/
def dataOf (d : Json) : HttpOutcome := .response 200 { json := some (.obj [("data", d)]) }

theorem attempt_dataOf (d : Json) : (dataOf d).attempt = .data d := rfl

/-- Proxmox can take a power request normally. -/
theorem power_can (h : c.Has n node running) (caller : Option Caller) (action : PowerAction) :
    ∃ i c', c.serve caller (.power node n action) i = some c' ∧ Normal c (.power node n action) i := by
  obtain ⟨u, hu⟩ := exists_fresh_upid c
  let i : HttpIn :=
    { applied := (c.apply none "" (.power node n action)).isSome, out := dataOf (.str u) }
  have hupid : upidOf i.out = some u := rfl
  have hhonest : c.honest (.power node n action) i = true := by
    simp [Cluster.honest, hupid, hu]
  have ha := apply_power h caller action ""
  have ha' := apply_power h none action ""
  have hserve : (c.serve caller (.power node n action) i).isSome = true := by
    unfold Cluster.serve
    rw [if_neg (by simp [hhonest]), if_neg (by simp [Req.isGet])]
    by_cases hadm : action.admits running = true
    · rw [if_pos hadm] at ha ha'
      obtain ⟨c₁, hc₁, _⟩ := ha
      obtain ⟨c₂, hc₂, _⟩ := ha'
      have heffect : i.effect (.power node n action) = some (.power node n action) :=
        if_pos (by simp [i, hc₂])
      simp [heffect, i, hc₁]
    · rw [if_neg hadm] at ha'
      have heffect : i.effect (.power node n action) = none := by
        simp [HttpIn.effect, i, ha']
      simp [heffect]
  obtain ⟨c', hc'⟩ := Option.isSome_iff_exists.mp hserve
  exact ⟨i, c', hc', rfl, rfl, by rw [hupid]; rfl⟩

end Attempt

/-- Only the history has changed. -/
structure Shared.Same (m m' : Shared) : Prop where
  db : m'.db = m.db
  pve : m'.pve = m.pve
  queue : m'.queue = m.queue

theorem Shared.Same.refl (m : Shared) : m.Same m := ⟨rfl, rfl, rfl⟩

theorem Shared.Same.trans {m m₁ m₂ : Shared} (h : m.Same m₁) (h' : m₁.Same m₂) : m.Same m₂ :=
  ⟨h'.db.trans h.db, h'.pve.trans h.pve, h'.queue.trans h.queue⟩

theorem normalAct_http {m m' : Shared} {caller : Option Caller} {req : Req} {out : HttpOutcome} :
    NormalAct m (.http caller req) out m' ↔ ∃ i pve, m.pve.serve caller req i = some pve ∧
      Normal m.pve req i ∧ i.out = out ∧
      m' = { m with pve, hist := httpEvents m.pve caller req i ++ m.hist } := by
  constructor
  · rintro ⟨i, hi, hn⟩
    cases i <;> simp only [perform, reduceCtorEq] at hi
    obtain ⟨pve, hpve, heq⟩ := Option.map_eq_some_iff.mp hi
    obtain ⟨rfl, rfl⟩ := Prod.mk.inj heq
    exact ⟨_, pve, hpve, hn, rfl, rfl⟩
  · rintro ⟨i, pve, hpve, hn, rfl, rfl⟩
    exact ⟨.http i, by simp only [perform, hpve, Option.map_some], hn⟩

/-- Every other await is as normal as any. -/
theorem normalAct_of_act {m m' : Shared} {e : Eff} {a : Ans e} (he : ∀ caller req, e ≠ .http caller req)
    (h : Act m e a m') : NormalAct m e a m' := by
  obtain ⟨i, hi⟩ := h
  refine ⟨i, hi, ?_⟩
  cases e with
  | http caller req => exact absurd rfl (he caller req)
  | _ => trivial

theorem normalAct_clock {m m' : Shared} {e : Eff} {a : Ans e} (he : IsClock e)
    (h : NormalAct m e a m') : m.Same m' := by
  obtain ⟨i, hi⟩ := h.act
  cases he <;> cases i <;> simp only [perform, reduceCtorEq, Option.some.injEq, Prod.mk.injEq] at hi
  · obtain ⟨_, rfl⟩ := hi
    exact ⟨rfl, rfl, rfl⟩
  · obtain ⟨_, rfl⟩ := hi
    exact .refl m

namespace ProxmoxClient
variable {S α : Type} {caller : Option Caller} {req : Req} {s : S} {m : Shared}

/-- A request whose attempts keep `I`. -/
theorem request_total {I : Shared → Prop} {Q : Json → S → Shared → Prop} {F : Exc → S → Shared → Prop}
    (hcan : ∀ m, I m → ∃ out m', NormalAct m (.http caller req) out m')
    (hact : ∀ m out m', I m → NormalAct m (.http caller req) out m' →
      match out.attempt with
      | .data d => Q d s m'
      | .raised x => F x s m'
      | .failed f => I m' ∧ F (f.exc req) s m')
    (h : I m) : Task.Total NormalAct (request caller req) s m Q F := by
  refine total_retry (fun _ s' m => s' = s ∧ I m) ?_ 3 ⟨rfl, h⟩
  rintro _ _ m ⟨rfl, hm⟩
  refine total_bind (total_await (hcan m hm) ?_)
  intro out m' ha
  have hr := hact m out m' hm ha
  cases hatt : out.attempt with
  | data d =>
    rw [hatt] at hr
    exact total_pure hr
  | raised x =>
    rw [hatt] at hr
    exact total_raise hr
  | failed f =>
    rw [hatt] at hr
    exact total_pure ⟨⟨rfl, hr.1⟩, total_raise hr.2⟩

/-- A request that only reads. -/
theorem get_total (hreq : req.isGet = true) {Q : Json → Prop} {F : Exc → Prop}
    (hcan : ∃ i : HttpIn, i.applied = false ∧ m.pve.honest req i = true ∧ Normal m.pve req i)
    (hact : ∀ i, m.pve.honest req i = true → Normal m.pve req i →
      match i.out.attempt with
      | .data d => Q d
      | .raised x => F x
      | .failed f => F (f.exc req)) :
    Task.Total NormalAct (request caller req) s m (fun d s' m' => s' = s ∧ m.Same m' ∧ Q d)
      fun x s' m' => s' = s ∧ m.Same m' ∧ F x := by
  refine request_total (I := m.Same) ?_ ?_ (.refl m)
  · intro m₁ hm₁
    obtain ⟨i, hi, hh, hn⟩ := hcan
    rw [← hm₁.pve] at hh hn
    have hserve : m₁.pve.serve caller req i = some m₁.pve := by
      unfold Cluster.serve
      simp [hh, hreq, hi]
    exact ⟨i.out, _, normalAct_http.mpr ⟨i, _, hserve, hn, rfl, rfl⟩⟩
  · intro m₁ out m₂ hm₁ ha
    obtain ⟨i, pve, hserve, hn, rfl, rfl⟩ := normalAct_http.mp ha
    obtain ⟨rfl, hh⟩ := serve_get hreq hserve
    have hsame : m.Same { m₁ with hist := httpEvents m₁.pve caller req i ++ m₁.hist } :=
      hm₁.trans ⟨rfl, rfl, rfl⟩
    rw [hm₁.pve] at hh hn
    have hr := hact i hh hn
    cases hatt : i.out.attempt <;> rw [hatt] at hr
    · exact ⟨rfl, hsame, hr⟩
    · exact ⟨rfl, hsame, hr⟩
    · exact ⟨hsame, rfl, hsame, hr⟩

/-- A loop that polls until its deadline: the clock is read in between, which keeps `I`. -/
theorem pollUntil_total {timeout interval : Nat} {poll : Client S (α ⊕ Unit)} {late : Client S α}
    {I : S → Shared → Prop} {Q : α → S → Shared → Prop} {F : Exc → S → Shared → Prop}
    (hread : ∀ s m m', I s m → m.Same m' → I s m')
    (hpoll : ∀ s m, I s m → Task.Total NormalAct poll s m (fun out s' m' =>
      match out with
      | .inl a => Q a s' m'
      | .inr () => I s' m' ∧ ∀ m'', m'.Same m'' → Task.Total NormalAct late s' m'' Q F) F) (h : I s m) :
    Task.Total NormalAct (pollUntil timeout interval poll late) s m Q F := by
  constructor
  · have hpast : ∀ m now, NormalAct m .time now { m with hist := .time now :: m.hist } := fun m now =>
      normalAct_of_act (by simp) ⟨.nat now, rfl⟩
    obtain ⟨out, m', he, _⟩ : Can NormalAct (pollUntil timeout interval poll late) s m
        fun _ _ _ => True := by
      refine can_bind (can_await (hpast m 0) (can_retry _ ?_))
      have hstart := hread s m _ h (normalAct_clock .time (hpast m 0))
      refine can_bind (can_mono (hpoll s _ hstart).may ?_)
      rintro (a | _) s₁ m₁ hr
      · exact can_pure trivial
      -- the clock has reached the deadline when the first poll ends
      have hover := hpast m₁ (0 + timeout)
      refine can_bind (can_await hover ?_)
      rw [if_pos (Nat.le_refl _)]
      have hlate := hr.2 _ (normalAct_clock .time hover)
      exact can_pure ⟨rfl, can_mono hlate.may fun _ _ _ _ => trivial⟩
    exact ⟨out, m', he⟩
  · refine each_bind (each_await fun start m₁ ha => ?_)
    refine each_retry (fun _ => I) ?_ _ (hread s m m₁ h (normalAct_clock .time ha))
    intro more _ s m h
    refine each_bind (each_mono (hpoll s m h).each ?_ fun _ _ _ hF => hF)
    rintro (a | _) s₁ m₁ hr
    · exact each_pure hr
    refine each_bind (each_await fun now m₂ ha => ?_)
    have hsame := normalAct_clock .time ha
    split
    · have hl : Each NormalAct (pastDeadline late true) s₁ m₂ Q F := (hr.2 m₂ hsame).each
      exact each_pure (by simpa using hl)
    · refine each_bind (each_await fun _ m₃ ha => ?_)
      refine each_pure ?_
      cases more with
      | true => exact hread s₁ m₁ m₃ hr.1 (hsame.trans (normalAct_clock (.sleep _) ha))
      | false => exact each_bind (each_await fun never => nomatch never)

variable {n : Int} {node : String} {running : Bool}

/-- `resolve_vm_node` finds the node of a guest that is there. -/
theorem isOnNode_total (h : m.pve.Has n node running) (preferredNode : String) :
    Task.Total NormalAct (isOnNode caller preferredNode n) s m
      (fun here s' m' => s' = s ∧ m.Same m' ∧ (here = true → preferredNode = node))
      fun _ _ _ => False := by
  obtain ⟨g, hg, rfl, _⟩ := h
  unfold isOnNode
  split
  · apply total_exceptProxmox
    have hget : Task.Total NormalAct (request caller (.statusCurrent preferredNode n)) s m
        (fun _ s' m' => s' = s ∧ m.Same m' ∧ preferredNode = g.node)
        fun x s' m' => s' = s ∧ m.Same m' ∧ x.isProxmoxError = true := by
      apply get_total rfl
      · by_cases hn : g.node = preferredNode
        · exact ⟨{ out := dataOf .null }, rfl, rfl, by simp [Normal, hg, hn, attempt_dataOf]⟩
        · exact ⟨{ out := .connectError }, rfl, rfl, by simp [Normal, hg, hn, HttpOutcome.attempt]⟩
      · intro i _ hi
        simp only [Normal, hg, Option.any_some, decide_eq_true_eq] at hi
        split at hi
        · next hn =>
          obtain ⟨d, hd⟩ := hi
          rw [hd]
          exact hn.symm
        · obtain ⟨f, hf⟩ := hi
          rw [hf]
          exact Failure.exc_isProxmoxError _ f
    refine total_bind (total_mono hget ?_ ?_)
    · rintro _ _ m' ⟨rfl, hm, hn⟩
      exact total_pure ⟨rfl, hm, fun _ => hn⟩
    · rintro x _ m' ⟨rfl, hm, hx⟩
      rw [if_pos hx]
      exact total_pure ⟨rfl, hm, fun h => by cases h⟩
  · exact total_pure ⟨rfl, .refl m, fun h => by cases h⟩

/-- A listing of the guests, as `/cluster/resources` may answer. -/
def listingOf (guests : List Guest) : List Json :=
  guests.map fun g => .obj [("vmid", .int g.vmid), ("node", .str g.node)]

theorem findResource_listingOf {guests : List Guest} {g : Guest}
    (h : guests.find? (fun g => g.vmid = n) = some g) :
    findResource n (listingOf guests) = .ok (some [("vmid", .int g.vmid), ("node", .str g.node)]) := by
  induction guests with
  | nil => cases h
  | cons g' guests ih =>
    have hvmid : (Dict.get [("vmid", .int g'.vmid), ("node", .str g'.node)] "vmid").toInt =
        .ok g'.vmid := rfl
    by_cases hn : g'.vmid = n
    · rw [List.find?_cons_of_pos (by simpa using hn)] at h
      cases h
      simp only [listingOf, List.map_cons, findResource, hvmid, if_pos hn]
    · rw [List.find?_cons_of_neg (by simpa using hn)] at h
      simp only [listingOf, List.map_cons, findResource, hvmid, if_neg hn]
      exact ih h

theorem listing_normal (c : Cluster) :
    Normal c .clusterResources { out := dataOf (.arr (listingOf c.guests)) } := by
  refine ⟨_, attempt_dataOf _, ?_⟩
  intro n g hg hn
  refine ⟨_, findResource_listingOf hg, ?_⟩
  have hnode : (Dict.get [("vmid", .int g.vmid), ("node", .str g.node)] "node").strOr = g.node :=
    strOr_str g.node
  rw [hnode]
  simp only [isNodeName, Bool.and_eq_true, decide_eq_true_eq] at hn
  exact hn.2

theorem lookupVmNode_total (h : m.pve.Has n node running) (hn : isNodeName node = true) :
    Task.Total NormalAct (lookupVmNode caller n) s m
      (fun a s' m' => s' = s ∧ m.Same m' ∧ a = node) fun _ _ _ => False := by
  obtain ⟨g, hg, rfl, _⟩ := h
  have hget : Task.Total NormalAct (request caller .clusterResources) s m
      (fun d s' m' => s' = s ∧ m.Same m' ∧ ∃ items r, d = .arr items ∧ findResource n items = .ok (some r) ∧
        strip (Dict.get r "node").strOr = g.node) fun _ s' m' => s' = s ∧ m.Same m' ∧ False := by
    apply get_total rfl
    · exact ⟨_, rfl, rfl, listing_normal m.pve⟩
    · rintro i _ ⟨items, hi, hfound⟩
      obtain ⟨r, hr, hnode⟩ := hfound n g hg hn
      rw [hi]
      exact ⟨items, r, rfl, hr, hnode⟩
  have hname : g.node ≠ "" := by
    simp only [isNodeName, Bool.and_eq_true, decide_eq_true_eq] at hn
    exact hn.1
  refine total_bind (total_bind (total_bind (total_mono hget ?_ ?_)))
  · rintro d _ m' ⟨rfl, hm, items, r, rfl, hr, hnode⟩
    apply total_pure
    refine total_ofExcept ?_
    simp only [asList, hr]
    rw [hnode, if_neg hname]
    exact total_pure ⟨rfl, hm, rfl⟩
  · rintro _ _ _ ⟨_, _, hf⟩
    exact hf

theorem resolveVmNode_total (h : m.pve.Has n node running) (hn : isNodeName node = true)
    (preferredNode : String) : Task.Total NormalAct (resolveVmNode caller preferredNode n) s m
      (fun a s' m' => s' = s ∧ m.Same m' ∧ a = node) fun _ _ _ => False := by
  refine total_bind (total_mono (isOnNode_total h preferredNode) ?_ fun _ _ _ hF => hF)
  rintro here _ m' ⟨rfl, hm, hhere⟩
  cases here with
  | true => exact total_pure ⟨rfl, hm, hhere rfl⟩
  | false =>
    rw [← hm.pve] at h
    refine total_mono (lookupVmNode_total h hn) ?_ fun _ _ _ hF => hF
    rintro a _ m'' ⟨rfl, hm', ha⟩
    exact ⟨rfl, hm.trans hm', ha⟩

/-- Proxmox takes a power request as a task, which has its effect if the power state admits it. -/
theorem power_total {action : PowerAction} (h : m.pve.Has n node running) :
    Task.Total NormalAct (request caller (.power node n action)) s m
      (fun d s' m' => s' = s ∧ m'.db = m.db ∧ m'.queue = m.queue ∧ ∃ u, d = .str u ∧
        m'.pve.tasks.lookup u = some (action.admits running) ∧
        m'.pve.Has n node (if action.admits running then action.boots else running))
      fun _ _ _ => False := by
  refine request_total (I := fun m' => m' = m) ?_ ?_ rfl
  · rintro m₁ rfl
    obtain ⟨i, pve, hserve, hn⟩ := power_can h caller action
    exact ⟨i.out, _, normalAct_http.mpr ⟨i, pve, hserve, hn, rfl, rfl⟩⟩
  · rintro m₁ out m₂ rfl ha
    obtain ⟨i, pve, hserve, hn, rfl, rfl⟩ := normalAct_http.mp ha
    obtain ⟨u, hu, htask, hhas⟩ := serve_power_normal h hserve hn
    have hatt : i.out.attempt = .data (.str u) := by
      unfold upidOf at hu
      split at hu
      · next u' hu' => rw [hu', Option.some.inj hu]
      · cases hu
    rw [hatt]
    exact ⟨rfl, rfl, rfl, u, rfl, htask, hhas⟩

/-- What `wait_for_task` makes of a task that has ended. -/
theorem taskEnd_of_exit {out : HttpOutcome} {e : String} (h : exitOf out = some e) (hne : e ≠ "") :
    ∃ d, out.attempt = .data d ∧
      taskEnd d = if e = "OK" then .ok (some e) else .error (.proxmoxTaskError e) := by
  unfold exitOf at h
  split at h
  · next d hd =>
    split at h
    · next hst =>
      have he : (Dict.get d "exitstatus").strOr = e := Option.some.inj h
      refine ⟨_, hd, ?_⟩
      simp only [taskEnd, hst, he, hne]
      by_cases hok : e = "OK"
      · simp [hok]
      · simp [hok, hne]
    · cases h
  · cases h

/-- How Proxmox may answer for a task that has ended. -/
def endedAs (done : Bool) : HttpOutcome :=
  dataOf (.obj [("status", .str "stopped"), ("exitstatus", .str (if done then "OK" else "failed"))])

theorem exitOf_endedAs (done : Bool) : exitOf (endedAs done) = some (if done then "OK" else "failed") := by
  cases done <;> rfl

/-- `wait_for_task` tells whether the task took effect. -/
theorem waitForTask_total (u : String) : Task.Total NormalAct (waitForTask caller node (.str u)) s m
    (fun _ s' m' => s' = s ∧ m.Same m' ∧ m.pve.tasks.lookup u = some true)
    fun _ s' m' => s' = s ∧ m.Same m' ∧ m.pve.tasks.lookup u ≠ some true := by
  let I : S → Shared → Prop := fun s' m' => s' = s ∧ m.Same m'
  have hread : ∀ s' m₁ m₂, I s' m₁ → m₁.Same m₂ → I s' m₂ := fun _ _ _ h h' => ⟨h.1, h.2.trans h'⟩
  refine pollUntil_total (I := I) hread ?_ ⟨rfl, .refl m⟩
  rintro s m₁ ⟨rfl, hm₁⟩
  have hget : Task.Total NormalAct (request caller (.taskStatus node u)) s m₁
      (fun d s' m' => s' = s ∧ m₁.Same m' ∧
        if m.pve.tasks.lookup u = some true then ∃ t, taskEnd d = .ok (some t)
        else ∃ x, taskEnd d = .error x) fun _ s' m' => s' = s ∧ m₁.Same m' ∧ False := by
    apply get_total rfl
    · let done : Bool := m₁.pve.tasks.lookup u == some true
      have hdone : done = true ↔ m₁.pve.tasks.lookup u = some true := by simp [done]
      refine ⟨{ out := endedAs done }, rfl, ?_, _, exitOf_endedAs done, ?_, ?_⟩
      · simp only [Cluster.honest, exitOf_endedAs]
        cases h : done with
        | true => simpa using hdone.mp h
        | false => simp
      · cases done <;> decide
      · rw [← hdone]
        cases done <;> decide
    · rintro i _ ⟨e, he, hne, hok⟩
      obtain ⟨d, hd, hend⟩ := taskEnd_of_exit he hne
      rw [hd, ← hm₁.pve]
      dsimp only
      by_cases h : e = "OK"
      · rw [if_pos (hok.mp h)]
        exact ⟨e, by rw [hend, if_pos h]⟩
      · rw [if_neg fun hl => h (hok.mpr hl)]
        exact ⟨_, by rw [hend, if_neg h]⟩
  refine total_bind (total_mono hget ?_ ?_)
  · rintro d _ m₂ ⟨rfl, hm₂, hd⟩
    split at hd
    · next hdone =>
      obtain ⟨t, ht⟩ := hd
      refine total_bind (total_ofExcept ?_)
      rw [ht]
      exact total_pure ⟨rfl, hm₁.trans hm₂, hdone⟩
    · next hfailed =>
      obtain ⟨x, hx⟩ := hd
      refine total_bind (total_ofExcept ?_)
      rw [hx]
      exact ⟨rfl, hm₁.trans hm₂, hfailed⟩
  · rintro _ _ _ ⟨_, _, hf⟩
    exact hf.elim

/-- `wait_for_ip` ends with an address, or times out. -/
theorem waitForIp_total (timeout : Nat) : Task.Total NormalAct (waitForIp caller node n timeout) s m
    (fun _ s' m' => s' = s ∧ m.Same m')
    fun x s' m' => s' = s ∧ m.Same m' ∧ ∃ t, x = .proxmoxTimeoutError t := by
  let I : S → Shared → Prop := fun s' m' => s' = s ∧ m.Same m'
  have hread : ∀ s' m₁ m₂, I s' m₁ → m₁.Same m₂ → I s' m₂ := fun _ _ _ h h' => ⟨h.1, h.2.trans h'⟩
  refine pollUntil_total (I := I) hread ?_ ⟨rfl, .refl m⟩
  rintro s m₁ ⟨rfl, hm₁⟩
  have hget : Task.Total NormalAct (request caller (.networkInterfaces node n)) s m₁
      (fun d s' m' => s' = s ∧ m₁.Same m' ∧ ∃ ip, parseFirstIpv4 d = .ok ip)
      fun x s' m' => s' = s ∧ m₁.Same m' ∧ x.isProxmoxError = true := by
    apply get_total rfl
    · exact ⟨{ out := .connectError }, rfl, rfl, .inl ⟨_, rfl⟩⟩
    · rintro i _ (⟨f, hf⟩ | ⟨d, ip, hd, hip⟩)
      · rw [hf]
        exact Failure.exc_isProxmoxError _ f
      · rw [hd]
        exact ⟨ip, hip⟩
  have hip : Task.Total NormalAct (exceptProxmox (do
      let data ← request caller (.networkInterfaces node n)
      ofExcept (parseFirstIpv4 data)) fun _ => pure none) s m₁
      (fun _ s' m' => s' = s ∧ m₁.Same m') fun _ _ _ => False := by
    apply total_exceptProxmox
    refine total_bind (total_mono hget ?_ ?_)
    · rintro d _ m₂ ⟨rfl, hm₂, ip, hip⟩
      refine total_ofExcept ?_
      rw [hip]
      exact ⟨rfl, hm₂⟩
    · rintro x _ m₂ ⟨rfl, hm₂, hx⟩
      rw [if_pos hx]
      exact total_pure ⟨rfl, hm₂⟩
  refine total_bind (total_mono hip ?_ fun _ _ _ hF => hF.elim)
  rintro ip _ m₂ ⟨rfl, hm₂⟩
  cases ip with
  | some ip => exact total_pure ⟨rfl, hm₁.trans hm₂⟩
  | none =>
    have hm := hm₁.trans hm₂
    exact total_pure ⟨⟨rfl, hm⟩, fun _ hsame => total_raise ⟨rfl, hm.trans hsame, _, rfl⟩⟩

end ProxmoxClient

end Clusteration
