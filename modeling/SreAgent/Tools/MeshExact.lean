import SreAgent.Tools.MeshFindings

/-!
# The mesh analysis is exact

Said of the configuration itself: a route that asks for a subset no rule defines, a rule whose mode
does not go with the policy of the namespace, a gateway nothing refers to, a reference to no gateway.
The analysis finds these and nothing else, unless such a route keeps it from finding anything
(`exact_iff`).

The conditions are what exactness needs in order to mean anything. Findings name a
virtual service by its name, so names must tell them apart. A reference to another namespace is
about a gateway that is not in view, and two policies for the whole namespace would contradict each
other. Under these conditions what is left is a single case, in which the analysis raises instead of
reporting.
-/

namespace SreAgent.Tools

variable {n : String} {vss : List VirtualService} {drs : List DestinationRule}
  {pas : List PeerAuthentication} {gws : List MeshGateway}

/-! ## What is wrong with a mesh

Each predicate quantifies over the objects as they are written, with nothing of how the loops go
about it. `Exact` then says, kind by kind, that a finding is reported if and only if something is
wrong. -/

/-- Some http route targets this subset of the host. -/
def Targets (vs : VirtualService) (host : Option String) (subset : String) : Prop :=
  ∃ rule ∈ vs.http, ∃ d ∈ rule.route, d.hostOr = host ∧ d.subset.get = some subset

/-- Some rule for the host has a subset of this name. -/
def Lists (drs : List DestinationRule) (host : Option String) (subset : String) : Prop :=
  ∃ dr ∈ drs, dr.hostOr = host ∧ ∃ s ∈ dr.subsets, s.get = some subset

/-- Some rule for the host has a subset without a name. -/
def ListsNameless (drs : List DestinationRule) (host : Option String) : Prop :=
  ∃ dr ∈ drs, dr.hostOr = host ∧ ∃ s ∈ dr.subsets, s.get = none

/-- A policy without a workload selector has this mode. -/
def NamespacePolicy (pas : List PeerAuthentication) (mode : String) : Prop :=
  ∃ pa ∈ pas, pa.selector = [] ∧ pa.mode.get = some mode

/-- The rule's mode is plaintext under `STRICT`, or mutual under `DISABLE`. -/
def Conflicts (pas : List PeerAuthentication) (drMode : String) : Prop :=
  (NamespacePolicy pas "STRICT" ∧ (drMode = "DISABLE" ∨ drMode = "SIMPLE")) ∨
    (NamespacePolicy pas "DISABLE" ∧ (drMode = "ISTIO_MUTUAL" ∨ drMode = "MUTUAL"))

/-- A name without a qualifier. -/
def Bare (r : String) : Prop := '/' ∉ r.toList

/-- A reference within the namespace `n`: a bare name, or one that is qualified with `n` itself. -/
def LocalReference (n r : String) : Prop := Bare r ∨ ∃ g, Bare g ∧ r = n ++ "/" ++ g

/-- The reference is to the gateway of this name in `n`. -/
def Names (n r : String) (name : Option String) : Prop :=
  ∃ g, Bare g ∧ name = some g ∧ (r = g ∨ r = n ++ "/" ++ g)

/-- The object a finding is about is there. -/
def Finding.About (vss : List VirtualService) (drs : List DestinationRule) (gws : List MeshGateway) :
    Finding → Prop
  | .subsetNotDefined name _ _ _             => ∃ vs ∈ vss, vs.nameOr = name
  | .mtlsModeConflict host _ mode _          =>
      ∃ dr ∈ drs, dr.hostOr = host ∧ dr.tlsMode.get = some mode
  | .gatewayNoVirtualservice name hosts _    => ∃ g ∈ gws, g.nameOr = name ∧ g.hosts = hosts
  | .virtualserviceUnknownGateway name short _ =>
      ∃ vs ∈ vss, vs.nameOr = name ∧ ∃ r ∈ vs.references, shortName r = short

/-- The findings are exactly what is wrong with the mesh. -/
structure Exact (n : String) (vss : List VirtualService) (drs : List DestinationRule)
    (pas : List PeerAuthentication) (gws : List MeshGateway) (findings : List Finding) : Prop where
  about : ∀ f ∈ findings, f.About vss drs gws
  subsets : ∀ vs ∈ vss, ∀ host subset,
    (∃ detail, .subsetNotDefined vs.nameOr host subset detail ∈ findings) ↔
      subset ≠ "" ∧ Targets vs host subset ∧ ¬ Lists drs host subset
  modes : ∀ dr ∈ drs, ∀ drMode, dr.tlsMode.get = some drMode →
    ((∃ nsMode detail, .mtlsModeConflict dr.hostOr nsMode drMode detail ∈ findings) ↔
      Conflicts pas drMode)
  gateways : ∀ g ∈ gws, (∃ detail, .gatewayNoVirtualservice g.nameOr g.hosts detail ∈ findings) ↔
    ∀ vs ∈ vss, ∀ r ∈ vs.references, ¬ Names n r g.nameOr
  references : ∀ vs ∈ vss, ∀ r ∈ vs.references,
    (∃ detail, .virtualserviceUnknownGateway vs.nameOr (shortName r) detail ∈ findings) ↔
      ∀ g ∈ gws, ¬ Names n r g.nameOr

/-- The analysis returns exactly what is wrong: it does not raise, every defect has its finding, and
every finding has a defect behind it. -/
def AnalysisExact (n : String) (vss : List VirtualService) (drs : List DestinationRule)
    (pas : List PeerAuthentication) (gws : List MeshGateway) : Prop :=
  ∃ findings, analyzeMesh vss drs pas gws = .ok findings ∧ Exact n vss drs pas gws findings

/-! ## Subsets

The loops keep a table of defined subsets. The configuration has rules. A subset is in the table if
some rule lists it. -/

/-- What some rule lists is what the table has. -/
theorem lists_iff {host : Option String} {subset : String} :
    Lists drs host subset ↔ some subset ∈ definedSubsets drs host := mem_definedSubsets.symm

/-- A destination dangles if its virtual service targets a subset nobody lists. -/
theorem dangles_iff {vs : VirtualService} {host : Option String} {subset : String} :
    (∃ d ∈ vs.destinations, d.hostOr = host ∧ Dangles drs d subset) ↔
      subset ≠ "" ∧ Targets vs host subset ∧ ¬ Lists drs host subset := by
  rw [lists_iff]
  constructor
  · rintro ⟨d, hd, rfl, hasked, hnamed, hundefined⟩
    obtain ⟨rule, hrule, hroute⟩ := List.mem_flatMap.mp hd
    exact ⟨hnamed, ⟨rule, hrule, d, hroute, rfl, hasked⟩, hundefined⟩
  · rintro ⟨hnamed, ⟨rule, hrule, d, hroute, rfl, hasked⟩, hundefined⟩
    exact ⟨d, List.mem_flatMap.mpr ⟨rule, hrule, hroute⟩, rfl, hasked, hnamed, hundefined⟩

/-- **When the analysis raises**, said of the configuration: a route asks for a subset nobody lists,
and its host has a subset with a name and one without. -/
theorem raises_iff : Raises vss drs ↔ ∃ vs ∈ vss, ∃ host subset, subset ≠ "" ∧
    Targets vs host subset ∧ ¬ Lists drs host subset ∧ ListsNameless drs host ∧
      ∃ name, Lists drs host name := by
  constructor
  · rintro ⟨vs, hvs, d, hd, ⟨subset, hdangles⟩, hnone, s, hs⟩
    obtain ⟨hnamed, htargets, hlists⟩ := dangles_iff.mp ⟨d, hd, rfl, hdangles⟩
    exact ⟨vs, hvs, d.hostOr, subset, hnamed, htargets, hlists, mem_definedSubsets.mp hnone, s,
      lists_iff.mpr hs⟩
  · rintro ⟨vs, hvs, host, subset, hnamed, htargets, hlists, hnone, s, hs⟩
    obtain ⟨d, hd, rfl, hdangles⟩ := dangles_iff.mpr ⟨hnamed, htargets, hlists⟩
    exact ⟨vs, hvs, d, hd, ⟨subset, hdangles⟩, mem_definedSubsets.mpr hnone, s, lists_iff.mp hs⟩

/-- **Dangling subsets are found** exactly, each under the name of its virtual service. -/
theorem subset_found_iff {name host : Option String} {subset : String} :
    (∃ detail, .subsetNotDefined name host subset detail ∈ findingsOf vss drs pas gws) ↔
      ∃ vs ∈ vss, vs.nameOr = name ∧ subset ≠ "" ∧ Targets vs host subset ∧
        ¬ Lists drs host subset := by
  constructor
  · rintro ⟨detail, hfound⟩
    generalize hf : Finding.subsetNotDefined name host subset detail = f at hfound
    -- every finding has a defect behind it, and only one kind of defect gives this finding
    cases mem_findingsOf.mp hfound with
    | @subset vs d _ hvs hd hdangles =>
        obtain ⟨rfl, rfl, rfl, -⟩ := Finding.subsetNotDefined.inj hf
        exact ⟨vs, hvs, rfl, dangles_iff.mp ⟨d, hd, rfl, hdangles⟩⟩
    | mode => cases hf
    | unbound => cases hf
    | unknown => cases hf
  · rintro ⟨vs, hvs, rfl, hwrong⟩
    obtain ⟨d, hd, rfl, hdangles⟩ := dangles_iff.mpr hwrong
    exact ⟨_, mem_findingsOf.mpr (.subset hvs hd hdangles)⟩

/-! ## Modes

With at most one policy for the namespace, the first is the only one, and its mode is that of the
namespace. -/

/-- One policy at most is without selector: its mode is the mode of the namespace. -/
theorem namespaceMtlsMode_iff (hpolicy : (pas.filter fun pa => pa.selector.isEmpty).length ≤ 1)
    {mode : String} : namespaceMtlsMode pas = some mode ↔ NamespacePolicy pas mode := by
  rw [namespaceMtlsMode, ← List.head?_filter, NamespacePolicy, Option.bind_eq_some_iff]
  constructor
  · rintro ⟨pa, hfirst, hmode⟩
    obtain ⟨hpa, hselector⟩ := List.mem_filter.mp (List.mem_of_mem_head? hfirst)
    exact ⟨pa, hpa, List.isEmpty_iff.mp hselector, hmode⟩
  · rintro ⟨pa, hpa, hselector, hmode⟩
    have hmem : pa ∈ pas.filter fun pa => pa.selector.isEmpty :=
      List.mem_filter.mpr ⟨hpa, List.isEmpty_iff.mpr hselector⟩
    -- with at most one namespace-wide policy, the first one is the only one
    have hone := le_antisymm hpolicy (List.length_pos_of_mem hmem)
    obtain ⟨pa', hpolicies⟩ := List.length_eq_one_iff.mp hone
    rw [hpolicies] at hmem ⊢
    exact ⟨pa, by rw [List.mem_singleton.mp hmem]; rfl, hmode⟩

/-- **Conflicting modes are found** exactly, each under the host and the mode of its rule. -/
theorem mode_found_iff (hpolicy : (pas.filter fun pa => pa.selector.isEmpty).length ≤ 1)
    {dr : DestinationRule} (hdr : dr ∈ drs) {drMode : String} (hmode : dr.tlsMode.get = some drMode) :
    (∃ nsMode detail, .mtlsModeConflict dr.hostOr nsMode drMode detail ∈
        findingsOf vss drs pas gws) ↔ Conflicts pas drMode := by
  constructor
  · rintro ⟨nsMode, detail, hfound⟩
    generalize hf : Finding.mtlsModeConflict dr.hostOr nsMode drMode detail = f at hfound
    cases mem_findingsOf.mp hfound with
    | subset => cases hf
    | mode hns hdr' hmode' htext =>
        obtain ⟨-, rfl, rfl, rfl⟩ := Finding.mtlsModeConflict.inj hf
        rw [namespaceMtlsMode_iff hpolicy] at hns
        -- a conflict is strict against disabled or the other way round
        rcases modeConflict_isSome.mp (Option.isSome_of_eq_some htext) with ⟨rfl, hcase⟩ | ⟨rfl, hcase⟩
        · exact .inl ⟨hns, hcase⟩
        · exact .inr ⟨hns, hcase⟩
    | unbound => cases hf
    | unknown => cases hf
  · -- the same argument for both directions of the conflict
    have hfound : ∀ nsMode, NamespacePolicy pas nsMode →
        (modeConflict nsMode drMode dr.hostOr).isSome = true → ∃ nsMode detail,
          .mtlsModeConflict dr.hostOr nsMode drMode detail ∈ findingsOf vss drs pas gws := by
      intro nsMode hns hsome
      obtain ⟨text, htext⟩ := Option.isSome_iff_exists.mp hsome
      exact ⟨nsMode, text,
        mem_findingsOf.mpr (.mode ((namespaceMtlsMode_iff hpolicy).mpr hns) hdr hmode htext)⟩
    rintro (⟨hns, hcase⟩ | ⟨hns, hcase⟩)
    · exact hfound _ hns (modeConflict_isSome.mpr (.inl ⟨rfl, hcase⟩))
    · exact hfound _ hns (modeConflict_isSome.mpr (.inr ⟨rfl, hcase⟩))

/-! ## Gateways

Within one namespace the short name of a reference is all there is to it: a qualifier, if there is
one, is the namespace itself. -/

/-- A name without a slash is its own short name. -/
theorem shortName_bare {r : String} (h : Bare r) : shortName r = r := by
  rw [shortName, Py.splitOn_of_notMem h]
  exact String.ofList_toList

/-- The part behind the last slash. -/
theorem shortName_qualified {g : String} (m : String) (h : Bare g) :
    shortName (m ++ "/" ++ g) = g := by
  have htext : (m ++ "/" ++ g).toList = m.toList ++ '/' :: g.toList := by simp
  rw [shortName, htext, Py.splitOn_append_sep, Py.splitOn_of_notMem h, List.getLastD_concat]
  exact String.ofList_toList

/-- **What a local reference names** is its short name: a qualifier, if there is one, is that of the
namespace itself. -/
theorem names_iff {r : String} (h : LocalReference n r) {name : Option String} :
    Names n r name ↔ name = some (shortName r) := by
  constructor
  · rintro ⟨g, hg, rfl, rfl | rfl⟩
    · rw [shortName_bare hg]
    · rw [shortName_qualified n hg]
  · rintro rfl
    rcases h with hr | ⟨g, hg, rfl⟩
    · exact ⟨r, hr, by rw [shortName_bare hr], .inl rfl⟩
    · exact ⟨g, hg, by rw [shortName_qualified n hg], .inr rfl⟩

/-- A gateway without any reference to it is found, with its hosts, -/
theorem gateway_found_iff {name : Option String} {hosts : List String} :
    (∃ detail, .gatewayNoVirtualservice name hosts detail ∈ findingsOf vss drs pas gws) ↔
      ∃ g ∈ gws, g.nameOr = name ∧ g.hosts = hosts ∧
        ∀ vs ∈ vss, ∀ r ∈ vs.references, some (shortName r) ≠ name := by
  constructor
  · rintro ⟨detail, hfound⟩
    generalize hf : Finding.gatewayNoVirtualservice name hosts detail = f at hfound
    -- the name and the hosts of the finding are the gateway's own
    cases mem_findingsOf.mp hfound with
    | subset => cases hf
    | mode => cases hf
    | @unbound g hg hnone =>
        obtain ⟨rfl, rfl, -⟩ := Finding.gatewayNoVirtualservice.inj hf
        exact ⟨g, hg, rfl, rfl, hnone⟩
    | unknown => cases hf
  · rintro ⟨g, hg, rfl, rfl, hnone⟩
    exact ⟨_, mem_findingsOf.mpr (.unbound hg hnone)⟩

/-- and so is a reference to no gateway, under its short name. -/
theorem reference_found_iff {name : Option String} {short : String} :
    (∃ detail, .virtualserviceUnknownGateway name short detail ∈ findingsOf vss drs pas gws) ↔
      ∃ vs ∈ vss, vs.nameOr = name ∧ ∃ r ∈ vs.references, shortName r = short ∧
        ∀ g ∈ gws, g.nameOr ≠ some short := by
  constructor
  · rintro ⟨detail, hfound⟩
    generalize hf : Finding.virtualserviceUnknownGateway name short detail = f at hfound
    -- the finding keeps the short name, not the reference as it was written
    cases mem_findingsOf.mp hfound with
    | subset => cases hf
    | mode => cases hf
    | unbound => cases hf
    | @unknown vs r hvs hr hnone =>
        obtain ⟨rfl, rfl, -⟩ := Finding.virtualserviceUnknownGateway.inj hf
        exact ⟨vs, hvs, rfl, r, hr, rfl, hnone⟩
  · rintro ⟨vs, hvs, rfl, r, hr, rfl, hnone⟩
    exact ⟨_, mem_findingsOf.mpr (.unknown hvs hr hnone)⟩

/-! ## Exactness

The four parts put together. Where nothing raises the findings are exact; where something does there
are none. -/

/-- A defect names an object that is there. -/
theorem defect_about {f : Finding} (h : Defect vss drs pas gws f) : f.About vss drs gws := by
  cases h with
  | subset hvs hd hdangles => exact ⟨_, hvs, rfl⟩
  | mode hns hdr hmode htext => exact ⟨_, hdr, rfl, hmode⟩
  | unbound hg hnone => exact ⟨_, hg, rfl, rfl⟩
  | unknown hvs hr hnone => exact ⟨_, hvs, rfl, _, hr, rfl⟩

/-- **The findings are exact**: there is one for everything that is wrong with the mesh, and none
for anything else. -/
theorem findingsOf_exact (hnames : (vss.map VirtualService.nameOr).Nodup)
    (hrefs : ∀ vs ∈ vss, ∀ r ∈ vs.gateways, r = "mesh" ∨ LocalReference n r)
    (hpolicy : (pas.filter fun pa => pa.selector.isEmpty).length ≤ 1) :
    Exact n vss drs pas gws (findingsOf vss drs pas gws) := by
  -- `mesh` is skipped by the loops, so the references left are local ones
  have hlocal : ∀ vs ∈ vss, ∀ r ∈ vs.references, LocalReference n r := by
    intro vs hvs r hr
    obtain ⟨hmem, hmesh⟩ := List.mem_filter.mp hr
    exact (hrefs vs hvs r hmem).resolve_left (bne_iff_ne.mp hmesh)
  constructor
  case about => exact fun f hf => defect_about (mem_findingsOf.mp hf)
  case subsets =>
    intro vs hvs host subset
    rw [subset_found_iff]
    constructor
    · rintro ⟨vs', hvs', hname, hwrong⟩
      -- a finding names its virtual service, and names are unique
      rwa [List.inj_on_of_nodup_map hnames hvs' hvs hname] at hwrong
    · exact fun hwrong => ⟨vs, hvs, rfl, hwrong⟩
  case modes => exact fun dr hdr drMode hmode => mode_found_iff hpolicy hdr hmode
  case gateways =>
    intro g hg
    rw [gateway_found_iff]
    constructor
    · rintro ⟨g', -, -, -, hnone⟩ vs hvs r hr hnames'
      -- for a local reference the short name says whether it means the gateway
      exact hnone vs hvs r hr ((names_iff (hlocal vs hvs r hr)).mp hnames').symm
    · intro hnone
      refine ⟨g, hg, rfl, rfl, fun vs hvs r hr hname => hnone vs hvs r hr ?_⟩
      exact (names_iff (hlocal vs hvs r hr)).mpr hname.symm
  case references =>
    intro vs hvs r hr
    simp only [reference_found_iff, names_iff (hlocal vs hvs r hr)]
    constructor
    · rintro ⟨vs', -, -, r', -, -, hnone⟩
      exact hnone
    · exact fun hnone => ⟨vs, hvs, rfl, r, hr, rfl, hnone⟩

/-- **Exactly when the analysis is exact.** Virtual services are told apart by their names, refer to
gateways of their own namespace, and one policy at most is without selector. -/
theorem exact_iff (hnames : (vss.map VirtualService.nameOr).Nodup)
    (hrefs : ∀ vs ∈ vss, ∀ r ∈ vs.gateways, r = "mesh" ∨ LocalReference n r)
    (hpolicy : (pas.filter fun pa => pa.selector.isEmpty).length ≤ 1) :
    AnalysisExact n vss drs pas gws ↔ ∀ vs ∈ vss, ∀ host subset, subset ≠ "" →
      Targets vs host subset → ¬ Lists drs host subset →
        ¬ (ListsNameless drs host ∧ ∃ name, Lists drs host name) := by
  -- what the code cannot sort is an undefined subset beside a nameless and a named one
  have hreturns : ¬ Raises vss drs ↔ ∀ vs ∈ vss, ∀ host subset, subset ≠ "" →
      Targets vs host subset → ¬ Lists drs host subset →
        ¬ (ListsNameless drs host ∧ ∃ name, Lists drs host name) := by
    rw [raises_iff]
    constructor
    · intro h vs hvs host subset hnamed htargets hlists hmixed
      exact h ⟨vs, hvs, host, subset, hnamed, htargets, hlists, hmixed⟩
    · rintro h ⟨vs, hvs, host, subset, hnamed, htargets, hlists, hmixed⟩
      exact h vs hvs host subset hnamed htargets hlists hmixed
  rw [← hreturns]
  constructor
  · rintro ⟨findings, hok, -⟩
    exact (analyzeMesh_eq_ok.mp hok).1
  · intro h
    exact ⟨_, analyzeMesh_ok h, findingsOf_exact hnames hrefs hpolicy⟩

/-! ## A subset without a name

The rule is not wrong by itself, and neither is the route to a subset it does not define. Together
they make the text of the finding impossible to write. -/

/-- The route asks for `v2`, and the rule has `v1` and a subset that was not given a name. -/
def namelessRoute : VirtualService where
  name := .text "reviews"
  http := [{ route := [{ host := .text "reviews", subset := .text "v2" }] }]
  gateways := ["mesh", "edge", "shop/edge"]

def namelessRule : DestinationRule where
  host := .text "reviews"
  subsets := [.text "v1", .absent]

/-- The conditions hold of this mesh, so the analysis is exact if no route is in the way of being
reported. -/
theorem exact_iff_nameless :
    AnalysisExact "shop" [namelessRoute] [namelessRule] [{ mode := .text "STRICT" }] [] ↔
      ∀ vs ∈ [namelessRoute], ∀ host subset, subset ≠ "" → Targets vs host subset →
        ¬ Lists [namelessRule] host subset →
          ¬ (ListsNameless [namelessRule] host ∧ ∃ name, Lists [namelessRule] host name) :=
  exact_iff (by decide) (by
    intro vs hvs r hr
    obtain rfl := List.mem_singleton.mp hvs
    rcases (by simpa [namelessRoute] using hr : r = "mesh" ∨ r = "edge" ∨ r = "shop/edge") with
      rfl | rfl | rfl
    · exact .inl rfl
    · exact .inr (.inl (by unfold Bare; decide))
    · exact .inr (.inr ⟨"edge", by unfold Bare; decide, rfl⟩)) (by decide)

/-- The missing name is in the way of reporting the route. -/
theorem nameless_not_exact :
    ¬ AnalysisExact "shop" [namelessRoute] [namelessRule] [{ mode := .text "STRICT" }] [] := by
  rintro ⟨findings, hok, -⟩
  refine (analyzeMesh_eq_ok.mp hok).1 (raises_iff.mpr ?_)
  refine ⟨namelessRoute, List.mem_cons_self, some "reviews", "v2", by decide,
    ⟨_, List.mem_cons_self, _, List.mem_cons_self, rfl, rfl⟩, ?_,
    ⟨_, List.mem_cons_self, rfl, .absent, by decide, rfl⟩,
    "v1", _, List.mem_cons_self, rfl, .text "v1", by decide, rfl⟩
  rw [lists_iff]
  decide

end SreAgent.Tools
