import Mathlib.Data.List.TakeWhile
import SreAgent.Tools.MeshExact

/-!
# References to gateways of other namespaces

The gateways that are listed are those of one namespace, and a reference may be to a gateway of another
one. The qualifier is dropped before references and names are compared, so that such a reference binds a
local gateway of that name, or is reported because there is none (`respectsNamespaces_iff`).

Istio reads `m/g` as the gateway `g` of the namespace `m`. The code takes the part behind the last
slash and forgets the rest. A reference to the ingress gateway of the mesh, `istio-system/edge`, is
then about a gateway `edge` of this namespace, in both loops: one that looks for gateways nobody
binds, one that looks for references to nothing.
-/

namespace SreAgent.Tools

variable {n : String} {vss : List VirtualService} {drs : List DestinationRule}
  {pas : List PeerAuthentication} {gws : List MeshGateway}

/-! ## Foreign references

What a reference means is said of its characters. What it means without foreign references is said
by taking them away and running the analysis again: a foreign reference respects the namespace if it
makes no difference. -/

/-- The `m` of a reference `m/g`. -/
def qualifier (r : String) : Option String :=
  match r.toList.reverse.dropWhile (· != '/') with
  | []     => none
  | _ :: m => some (String.ofList m.reverse)

/-- The reference has a qualifier other than `n`. -/
def isForeign (n r : String) : Bool := (qualifier r).any (· != n)

/-- A name without a slash has no qualifier, so it is not foreign. -/
theorem dropWhile_bare {g : String} (h : Bare g) : g.toList.reverse.dropWhile (· != '/') = [] := by
  rw [List.dropWhile_eq_nil_iff]
  intro c hc
  rw [bne_iff_ne]
  rintro rfl
  exact h (List.mem_reverse.mp hc)

theorem not_isForeign_bare {r : String} (n : String) (h : Bare r) : isForeign n r = false := by
  rw [isForeign, qualifier, dropWhile_bare h]
  rfl

/-- A qualified one is foreign if its namespace is another. -/
theorem isForeign_qualified {m g : String} (h : Bare g) :
    isForeign n (m ++ "/" ++ g) = true ↔ m ≠ n := by
  have htext : (m ++ "/" ++ g).toList.reverse = g.toList.reverse ++ '/' :: m.toList.reverse := by simp
  have hdrop : (m ++ "/" ++ g).toList.reverse.dropWhile (· != '/') = '/' :: m.toList.reverse := by
    rw [htext, List.dropWhile_append, dropWhile_bare h]
    rfl
  rw [isForeign, qualifier, hdrop]
  simp

/-- The virtual service without its foreign references. -/
def VirtualService.localOnly (n : String) (vs : VirtualService) : VirtualService :=
  { vs with gateways := vs.gateways.filter fun r => !isForeign n r }

/-- A gateway is bound or not as if there were no foreign references, and none of them is reported:
a reference into another namespace says nothing about this one. -/
def RespectsNamespaces (n : String) (vss : List VirtualService) (drs : List DestinationRule)
    (pas : List PeerAuthentication) (gws : List MeshGateway) : Prop :=
  ∀ findings, analyzeMesh vss drs pas gws = .ok findings →
    (∀ findings', analyzeMesh (vss.map (·.localOnly n)) drs pas gws = .ok findings' →
        ∀ g ∈ gws, unboundGateway g ∈ findings ↔ unboundGateway g ∈ findings') ∧
      ∀ vs ∈ vss, ∀ r ∈ vs.gateways, isForeign n r = true → unknownGateway vs.nameOr r ∉ findings

/-! ## What is reported

The findings of the two loops, of one gateway and of one reference. -/

/-- A gateway is reported if no reference has its name, -/
theorem unboundGateway_mem_iff {g : MeshGateway} (hg : g ∈ gws) :
    unboundGateway g ∈ findingsOf vss drs pas gws ↔
      ∀ vs ∈ vss, ∀ r ∈ vs.references, some (shortName r) ≠ g.nameOr := by
  constructor
  · intro hfound
    obtain ⟨g', -, hname, -, hnone⟩ := gateway_found_iff.mp ⟨_, hfound⟩
    exact hnone
  · exact fun hnone => mem_findingsOf.mpr (.unbound hg hnone)

/-- and a reference if no gateway has the name it ends in. -/
theorem unknownGateway_mem_iff {vs : VirtualService} (hvs : vs ∈ vss) {r : String}
    (hr : r ∈ vs.references) : unknownGateway vs.nameOr r ∈ findingsOf vss drs pas gws ↔
      ∀ g ∈ gws, g.nameOr ≠ some (shortName r) := by
  constructor
  · intro hfound
    obtain ⟨vs', -, -, r', -, -, hnone⟩ := reference_found_iff.mp ⟨_, hfound⟩
    exact hnone
  · exact fun hnone => mem_findingsOf.mpr (.unknown hvs hr hnone)

/-- Whether the analysis raises is not up to the gateways. -/
theorem raises_localOnly : Raises (vss.map (·.localOnly n)) drs ↔ Raises vss drs := by
  constructor
  · rintro ⟨vs, hvs, hraises⟩
    obtain ⟨vs', hvs', rfl⟩ := List.mem_map.mp hvs
    exact ⟨vs', hvs', hraises⟩
  · rintro ⟨vs, hvs, hraises⟩
    exact ⟨vs.localOnly n, List.mem_map_of_mem hvs, hraises⟩

/-- A foreign reference is not `mesh`, which has no slash, and it is what is taken away. -/
theorem foreign_mem_references {vs : VirtualService} {r : String} (hr : r ∈ vs.gateways)
    (h : isForeign n r = true) : r ∈ vs.references := by
  refine List.mem_filter.mpr ⟨hr, bne_iff_ne.mpr ?_⟩
  rintro rfl
  rw [not_isForeign_bare n (by unfold Bare; decide)] at h
  cases h

theorem mem_references_localOnly {vs : VirtualService} {r : String} :
    r ∈ (vs.localOnly n).references ↔ r ∈ vs.references ∧ isForeign n r = false := by
  simp only [VirtualService.references, VirtualService.localOnly, List.mem_filter,
    Bool.not_eq_true', and_assoc, and_comm]

/-! ## Exactly when

A foreign reference does no harm if a local gateway has its name, so that it is not reported as
unknown, and a local reference binds that gateway too, so that the foreign one does not. -/

/-- Every foreign reference has the name of a local gateway that a local reference names as well. -/
def ForeignShadowed (n : String) (vss : List VirtualService) (gws : List MeshGateway) : Prop :=
  ∀ vs ∈ vss, ∀ r ∈ vs.gateways, isForeign n r = true →
    (∃ g ∈ gws, g.nameOr = some (shortName r)) ∧
      ∃ vs' ∈ vss, ∃ r' ∈ vs'.references, isForeign n r' = false ∧ shortName r' = shortName r

/-- A foreign reference that is not shadowed is reported, or hides a gateway, and one that is
shadowed does neither. -/
theorem foreignShadowed_of_respects (hraises : ¬ Raises vss drs)
    (h : RespectsNamespaces n vss drs pas gws) : ForeignShadowed n vss gws := by
  obtain ⟨hbound, hunknown⟩ := h _ (analyzeMesh_ok hraises)
  have hlocal := hbound _ (analyzeMesh_ok (mt raises_localOnly.mp hraises))
  intro vs hvs r hr hforeign
  have href := foreign_mem_references hr hforeign
  have hknown := hunknown vs hvs r hr hforeign
  rw [unknownGateway_mem_iff hvs href] at hknown
  push Not at hknown
  obtain ⟨g, hg, hname⟩ := hknown
  refine ⟨⟨g, hg, hname⟩, ?_⟩
  -- the gateway is bound by the foreign reference, so it has to be bound without it
  have hbound' : unboundGateway g ∉ findingsOf vss drs pas gws := by
    rw [unboundGateway_mem_iff hg]
    exact fun hnone => hnone vs hvs r href hname.symm
  rw [hlocal g hg, unboundGateway_mem_iff hg] at hbound'
  push Not at hbound'
  obtain ⟨vs', hvs', r', hr', hname'⟩ := hbound'
  obtain ⟨vs'', hvs'', rfl⟩ := List.mem_map.mp hvs'
  obtain ⟨href', hlocal'⟩ := mem_references_localOnly.mp hr'
  exact ⟨vs'', hvs'', r', href', hlocal', Option.some.inj (hname'.trans hname)⟩

theorem respects_of_foreignShadowed (h : ForeignShadowed n vss gws) :
    RespectsNamespaces n vss drs pas gws := by
  intro findings hok
  obtain ⟨-, rfl⟩ := analyzeMesh_eq_ok.mp hok
  refine ⟨fun findings' hok' g hg => ?_, fun vs hvs r hr hforeign hfound => ?_⟩
  · obtain ⟨-, rfl⟩ := analyzeMesh_eq_ok.mp hok'
    rw [unboundGateway_mem_iff hg, unboundGateway_mem_iff hg]
    constructor
    · intro hnone vs hvs r hr
      obtain ⟨vs', hvs', rfl⟩ := List.mem_map.mp hvs
      exact hnone vs' hvs' r (mem_references_localOnly.mp hr).1
    · intro hnone vs hvs r hr hname
      cases hforeign : isForeign n r with
      | false =>
          exact hnone _ (List.mem_map_of_mem hvs) r (mem_references_localOnly.mpr ⟨hr, hforeign⟩) hname
      | true =>
          -- a foreign reference that hides a gateway is shadowed by a local one of the same
          -- short name
          obtain ⟨-, vs', hvs', r', hr', hlocal, hshort⟩ :=
            h vs hvs r (List.mem_of_mem_filter hr) hforeign
          refine hnone _ (List.mem_map_of_mem hvs') r' (mem_references_localOnly.mpr ⟨hr', hlocal⟩) ?_
          rw [hshort, hname]
  · rw [unknownGateway_mem_iff hvs (foreign_mem_references hr hforeign)] at hfound
    -- it is not reported as unknown, since a local gateway answers to its short name
    obtain ⟨⟨g, hg, hname⟩, -⟩ := h vs hvs r hr hforeign
    exact hfound g hg hname

/-- **Exactly when references respect namespaces**: the analysis raises, or every foreign reference
has the name of a local gateway that is bound anyway. -/
theorem respectsNamespaces_iff (n : String) (vss : List VirtualService) (drs : List DestinationRule)
    (pas : List PeerAuthentication) (gws : List MeshGateway) :
    RespectsNamespaces n vss drs pas gws ↔ Raises vss drs ∨ ForeignShadowed n vss gws := by
  constructor
  · intro h
    by_cases hraises : Raises vss drs
    · exact .inl hraises
    · exact .inr (foreignShadowed_of_respects hraises h)
  · rintro (hraises | h)
    · intro findings hok
      exact absurd hraises (analyzeMesh_eq_ok.mp hok).1
    · exact respects_of_foreignShadowed h

/-- It routes through the ingress gateway of the mesh. -/
def ingressRoute : VirtualService where
  name := .text "route"
  gateways := ["istio-system/edge"]

/-- The gateway is reported as missing, though nothing of its namespace was listed. -/
theorem ingress_reported : ¬ RespectsNamespaces "shop" [ingressRoute] [] [] [] := by
  intro h
  have hraises : ¬ Raises [ingressRoute] [] := by
    rintro ⟨vs, hvs, d, hd, -⟩
    obtain rfl := List.mem_singleton.mp hvs
    cases hd
  have hforeign : isForeign "shop" ("istio-system" ++ "/" ++ "edge") = true :=
    (isForeign_qualified (by unfold Bare; decide)).mpr (by decide)
  obtain ⟨⟨g, hg, -⟩, -⟩ :=
    foreignShadowed_of_respects hraises h ingressRoute List.mem_cons_self _ List.mem_cons_self hforeign
  cases hg

end SreAgent.Tools
