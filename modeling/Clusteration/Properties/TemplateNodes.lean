import Clusteration.Protocol.Answers
import Clusteration.Protocol.Readable

open Async Task

namespace Clusteration

variable {S M : Type} {A : M → (e : Eff) → Ans e → M → Prop} {caller : Option Caller}
  {preferredNode : String} {vmid : Int} {listing : Except Exc (List Json)} {config : Except Exc Dict}

/-- How Proxmox answers the two requests: with a list of objects whose VMIDs are no infinities, and
with an object, or with an error of the client. -/
structure Answered (S : Type) (A : M → (e : Eff) → Ans e → M → Prop) (caller : Option Caller)
    (preferredNode : String) (vmid : Int) (listing : Except Exc (List Json))
    (config : Except Exc Dict) : Prop where
  clusterResources : Yields A (ProxmoxClient.request caller .clusterResources : Client S Json)
    (listing.map .arr)
  vmConfig : Yields A (ProxmoxClient.request caller (.vmConfig preferredNode vmid) : Client S Json)
    (config.map .obj)
  legible : ∀ items, listing = .ok items → ∀ item ∈ items, legible item = true
  listingError : ∀ x, listing = .error x → x.isProxmoxError = true
  configError : ∀ x, config = .error x → x.isProxmoxError = true

/-- The listing answers and contains the VMID. -/
def Listed (vmid : Int) (listing : Except Exc (List Json)) : Prop :=
  ∃ items, listing = .ok items ∧ ∃ item ∈ items, lists vmid item = true

/-- The config answers and is marked as a template. -/
def Marked (config : Except Exc Dict) : Prop := ∃ d, config = .ok d ∧ isTemplate d = true

/-- Proxmox has reported the VMID as a template on this node. -/
def Reported (preferredNode : String) (vmid : Int) (listing : Except Exc (List Json))
    (config : Except Exc Dict) (node : String) : Prop :=
  (∃ items d, listing = .ok items ∧ Json.obj d ∈ items ∧ lists vmid (.obj d) = true ∧
    isTemplate d = true ∧ strip (Dict.get d "node").strOr = node) ∨
  (Marked config ∧ node = preferredNode)

/-- The result for the first entry of the listing that has the VMID. -/
def entryNode (vmid : Int) (resource : Dict) : Except Exc String :=
  if isTemplate resource then
    let node := strip (Dict.get resource "node").strOr
    if node = "" then
      .error (.proxmoxError s!"template VMID {vmid} encontrado sem node no Proxmox")
    else .ok node
  else .error (.proxmoxError s!"VMID {vmid} encontrado, mas não está marcado como template")

theorem findResource_legible {items : List Json} (h : ∀ item ∈ items, legible item = true) :
    (findResource vmid items).isOk = true := by
  rw [findResource_isOk, listingReadable, List.all_eq_true]
  intro item hitem
  exact h item ((List.takeWhile_prefix _).subset hitem)

/-- The fallback of `resolve_template_node`: the preferred node if its config is marked as a
template, and an error otherwise. -/
def FallsBack (preferredNode : String) (config : Except Exc Dict) (r : Except Exc String) : Prop :=
  (preferredNode ≠ "" ∧ Marked config → r = .ok preferredNode) ∧
  (¬(preferredNode ≠ "" ∧ Marked config) → ∃ x, r = .error x ∧ x.isProxmoxError = true)

theorem resolveTemplateNode_listed {resource : Dict}
    (h : Yields A (ProxmoxClient.findVmResource caller vmid : Client S (Option Dict)) (.ok (some resource))) :
    Yields A (ProxmoxClient.resolveTemplateNode caller preferredNode vmid : Client S String)
      (entryNode vmid resource) := by
  refine yields_bind (yields_exceptProxmox (yields_bind h (yields_pure _))) ?_
  rw [entryNode]
  dsimp only
  split
  · split
    · exact yields_raise _
    · exact yields_pure _
  · exact yields_raise _

theorem chosen {t : Client S String} (hp : preferredNode ≠ "") (hm : Marked config)
    (ht : Yields A t (.ok preferredNode)) : ∃ r, Yields A t r ∧ FallsBack preferredNode config r :=
  ⟨_, ht, fun _ => rfl, fun h => absurd ⟨hp, hm⟩ h⟩

theorem refused {t : Client S String} {msg : String} (h : ¬(preferredNode ≠ "" ∧ Marked config))
    (ht : Yields A t (.error (.proxmoxError msg))) :
    ∃ r, Yields A t r ∧ FallsBack preferredNode config r :=
  ⟨_, ht, fun hm => absurd hm h, fun _ => ⟨_, rfl, rfl⟩⟩

theorem FallsBack.reported {r : Except Exc String} {node : String} (h : FallsBack preferredNode config r)
    (hr : r = .ok node) : Reported preferredNode vmid listing config node := by
  by_cases hm : preferredNode ≠ "" ∧ Marked config
  · have hnode := h.1 hm
    rw [hr] at hnode
    cases hnode
    exact Or.inr ⟨hm.2, rfl⟩
  · obtain ⟨x, hx, _⟩ := h.2 hm
    rw [hr] at hx
    cases hx

theorem entryNode_reported {items : List Json} {resource : Dict} {node : String}
    (hfind : items.find? (lists vmid) = some (.obj resource)) (h : entryNode vmid resource = .ok node) :
    Reported preferredNode vmid (.ok items) config node := by
  have hlists : lists vmid (.obj resource) = true := List.find?_some hfind
  rw [entryNode] at h
  split at h
  · next ht =>
    dsimp only at h
    split at h
    · cases h
    · cases h
      exact Or.inl ⟨items, resource, rfl, List.mem_of_find?_eq_some hfind, hlists, ht, rfl⟩
  · cases h

namespace Answered

theorem findVmResource (h : Answered S A caller preferredNode vmid listing config) :
    Yields A (ProxmoxClient.findVmResource caller vmid : Client S (Option Dict))
      (listing.bind (findResource vmid)) := by
  have hlisting := h.clusterResources
  cases listing with
  | error x => exact yields_bind_error (yields_bind_error hlisting)
  | ok items => exact yields_bind (yields_bind hlisting (yields_pure _)) (yields_ofExcept _)

theorem unlisted (h : Answered S A caller preferredNode vmid listing config) {clusterError : String}
    (hfind : Yields A (exceptProxmox
      (do let resource ← ProxmoxClient.findVmResource caller vmid; pure (resource, ""))
      (fun exc => pure (none, exc.str)) : Client S (Option Dict × String)) (.ok (none, clusterError))) :
    ∃ r, Yields A (ProxmoxClient.resolveTemplateNode caller preferredNode vmid : Client S String) r ∧
      FallsBack preferredNode config r := by
  by_cases hp : preferredNode ≠ ""
  · have hanswer := h.vmConfig
    cases hconfig : config with
    | error x =>
      have hx := h.configError x hconfig
      rw [hconfig] at hanswer
      have hread : Yields A (ProxmoxClient.vmConfig caller preferredNode vmid : Client S Dict)
          (.error x) := yields_bind_error hanswer
      apply refused
      · rintro ⟨_, d, hd, _⟩
        cases hd
      · apply yields_bind hfind
        dsimp only
        rw [if_pos hp]
        exact yields_exceptProxmox_error (yields_bind_error hread) hx (yields_raise _)
    | ok d =>
      rw [hconfig] at hanswer
      have hread : Yields A (ProxmoxClient.vmConfig caller preferredNode vmid : Client S Dict) (.ok d) :=
        yields_bind hanswer (yields_pure _)
      by_cases ht : isTemplate d = true
      · apply chosen hp ⟨d, rfl, ht⟩
        apply yields_bind hfind
        dsimp only
        rw [if_pos hp]
        refine yields_exceptProxmox (yields_bind hread ?_)
        rw [if_pos ht]
        exact yields_pure _
      · apply refused
        · rintro ⟨_, d', hd, ht'⟩
          cases hd
          exact ht ht'
        · apply yields_bind hfind
          dsimp only
          rw [if_pos hp]
          have hmarked : Yields A (if isTemplate d then pure preferredNode
              else throw (.proxmoxError
                s!"VMID {vmid} existe em {preferredNode}, mas não está marcado como template") :
              Client S String) (.error (.proxmoxError
                s!"VMID {vmid} existe em {preferredNode}, mas não está marcado como template")) := by
            rw [if_neg ht]
            exact yields_raise _
          exact yields_exceptProxmox_error (yields_bind hread hmarked) rfl (yields_raise _)
  · apply refused fun hm => hp hm.1
    apply yields_bind hfind
    dsimp only
    rw [if_neg hp]
    exact yields_raise _

end Answered

/-- Whatever answers, `resolve_template_node` ends. It only settles on a node on which Proxmox has
reported the template; when the listing has the VMID, `settled` is all there is to say. -/
theorem resolveTemplateNode_reported (vmid : Int) (listing : Except Exc (List Json)) :
    ∃ settled, ∀ {S M : Type} {A : M → (e : Eff) → Ans e → M → Prop} {caller : Option Caller}
        {preferredNode : String} {config : Except Exc Dict},
      Answered S A caller preferredNode vmid listing config →
      ∃ r, Yields A (ProxmoxClient.resolveTemplateNode caller preferredNode vmid : Client S String) r ∧
        (∀ node, r = .ok node → Reported preferredNode vmid listing config node) ∧
        (Listed vmid listing → r = settled) ∧
        (¬Listed vmid listing → FallsBack preferredNode config r) := by
  cases listing with
  | error x =>
    refine ⟨.error x, ?_⟩
    intro S M A caller preferredNode config h
    have hx := h.listingError x rfl
    obtain ⟨r, hr, hback⟩ := h.unlisted
      (yields_exceptProxmox_error (yields_bind_error h.findVmResource) hx (yields_pure _))
    refine ⟨r, hr, fun node hnode => hback.reported hnode, ?_, fun _ => hback⟩
    rintro ⟨items, hitems, _⟩
    cases hitems
  | ok items =>
    cases hf : findResource vmid items with
    | error x =>
      refine ⟨.error x, ?_⟩
      intro S M A caller preferredNode config h
      have hok : (findResource vmid items).isOk = true := findResource_legible (h.legible items rfl)
      rw [hf] at hok
      cases hok
    | ok found =>
      have hfind := findResource_find hf
      cases found with
      | some resource =>
        refine ⟨entryNode vmid resource, ?_⟩
        intro S M A caller preferredNode config h
        have hread := h.findVmResource
        rw [Except.bind, hf] at hread
        refine ⟨_, resolveTemplateNode_listed hread, ?_, fun _ => rfl, ?_⟩
        · intro node hnode
          exact entryNode_reported hfind hnode
        · intro hnot
          exact absurd ⟨items, rfl, _, List.mem_of_find?_eq_some hfind, List.find?_some hfind⟩ hnot
      | none =>
        refine ⟨.ok "", ?_⟩
        intro S M A caller preferredNode config h
        have hread := h.findVmResource
        rw [Except.bind, hf] at hread
        obtain ⟨r, hr, hback⟩ := h.unlisted (yields_exceptProxmox (yields_bind hread (yields_pure _)))
        refine ⟨r, hr, fun node hnode => hback.reported hnode, ?_, fun _ => hback⟩
        rintro ⟨_, hitems, item, hitem, hlists⟩
        cases hitems
        exact absurd hlists (List.find?_eq_none.mp hfind item hitem)

/-- The listing is refused and the config of `pve1` is marked as a template. -/
def refusingCluster : Req → HttpOutcome
  | .clusterResources => .connectError
  | _ => .response 200 { json := some (.obj [("data", .obj [("template", .int 1)])]) }

/-- The entry of the template. -/
def listedTemplate : List Json :=
  [.obj [("vmid", .int 9001), ("type", .str "qemu"), ("node", .str "pve2"), ("template", .int 1)]]

/-- The listing has the VMID on `pve2`, and no node tells a config. -/
def listingCluster : Req → HttpOutcome
  | .clusterResources => .response 200 { json := some (.obj [("data", .arr listedTemplate)]) }
  | _ => .connectError

/-- The refused listing leaves the preferred node; the other one decides whatever node is preferred. -/
theorem resolveTemplateNode_reported_served :
    Yields (Serves refusingCluster) (ProxmoxClient.resolveTemplateNode none "pve1" 9001 : Client Unit String)
      (.ok "pve1") ∧
    ∃ settled, (∀ preferredNode, Yields (Serves listingCluster)
      (ProxmoxClient.resolveTemplateNode none preferredNode 9001 : Client Unit String) settled) ∧
      ∀ node, settled = .ok node → node = "pve2" := by
  constructor
  · obtain ⟨_, h⟩ := resolveTemplateNode_reported 9001
      (.error (Failure.connectError.exc .clusterResources))
    have hanswered : Answered Unit (Serves refusingCluster) none "pve1" 9001
        (.error (Failure.connectError.exc .clusterResources)) (.ok [("template", .int 1)]) := by
      constructor
      · exact serves_request refusingCluster .clusterResources
      · exact serves_request refusingCluster (.vmConfig "pve1" 9001)
      · intro items hitems
        cases hitems
      · intro x hx
        cases hx
        rfl
      · intro x hx
        cases hx
    obtain ⟨r, hr, _, _, hback⟩ := h hanswered
    have hunlisted : ¬Listed 9001 (.error (Failure.connectError.exc .clusterResources)) := by
      rintro ⟨items, hitems, _⟩
      cases hitems
    have hnode : r = .ok "pve1" := (hback hunlisted).1 ⟨by decide, _, rfl, by decide +kernel⟩
    rwa [hnode] at hr
  · obtain ⟨settled, h⟩ := resolveTemplateNode_reported 9001 (.ok listedTemplate)
    have hlisted : Listed 9001 (.ok listedTemplate) :=
      ⟨listedTemplate, rfl, _, List.mem_cons_self, by decide +kernel⟩
    have hsettled : ∀ preferredNode, Yields (Serves listingCluster)
        (ProxmoxClient.resolveTemplateNode none preferredNode 9001 : Client Unit String) settled ∧
        ∀ node, settled = .ok node → Reported preferredNode 9001 (.ok listedTemplate)
          (.error (Failure.connectError.exc (.vmConfig preferredNode 9001))) node := by
      intro preferredNode
      have hanswered : Answered Unit (Serves listingCluster) none preferredNode 9001
          (.ok listedTemplate) (.error (Failure.connectError.exc (.vmConfig preferredNode 9001))) := by
        constructor
        · exact serves_request listingCluster .clusterResources
        · exact serves_request listingCluster (.vmConfig preferredNode 9001)
        · intro items hitems
          cases hitems
          decide +kernel
        · intro x hx
          cases hx
        · intro x hx
          cases hx
          rfl
      obtain ⟨r, hr, hreported, hsame, _⟩ := h hanswered
      rw [hsame hlisted] at hr hreported
      exact ⟨hr, hreported⟩
    refine ⟨settled, fun preferredNode => (hsettled preferredNode).1, fun node hnode => ?_⟩
    rcases (hsettled "pve1").2 node hnode with ⟨_, d, hitems, hmem, _, _, rfl⟩ | ⟨⟨_, hd, _⟩, _⟩
    · cases hitems
      cases List.mem_singleton.mp hmem
      decide +kernel
    · cases hd

end Clusteration
