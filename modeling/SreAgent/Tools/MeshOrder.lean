import SreAgent.Lib.TwoRun
import SreAgent.Tools.MeshExact

/-!
# The mesh analysis and the order of objects

The findings are gathered in the order of the objects, and otherwise do not depend on it: what a host's
rules define is a set, and so is what is referred to. The mode of the namespace is the exception. It is
that of the first policy without selector, even if it is not set there (`meshOrderFree_iff`).

Objects are listed by the API in no particular order. A diagnosis that changes with it cannot be
reproduced. The four parameters are permuted independently, and the findings may be permuted in
turn, since a list of findings is read as a set.
-/

namespace SreAgent.Tools

open TwoRun (Related)

variable {vss vss' : List VirtualService} {drs drs' : List DestinationRule}
  {pas pas' : List PeerAuthentication} {gws gws' : List MeshGateway}

/-- Whatever the order of the objects, the analysis raises alike or finds the same. The findings may
be listed in another order, which is that of the objects. -/
def MeshOrderFree (vss : List VirtualService) (drs : List DestinationRule)
    (pas : List PeerAuthentication) (gws : List MeshGateway) : Prop :=
  ∀ vss' drs' pas' gws', vss'.Perm vss → drs'.Perm drs → pas'.Perm pas → gws'.Perm gws →
    Related List.Perm (analyzeMesh vss' drs' pas' gws') (analyzeMesh vss drs pas gws)

/-! ## Sets of objects

For each loop: on a permuted configuration it finds a permutation. Texts are the delicate part, and
there the names are sorted before they are shown. -/

/-- The subsets of a host, in another order, are shown in the same one. -/
theorem definedSubsets_perm (h : drs'.Perm drs) (host : Option String) :
    (definedSubsets drs' host).Perm (definedSubsets drs host) := (h.filter _).flatMap_right _

theorem shownNames_perm {names names' : List (Option String)} (h : names'.Perm names) :
    shownNames names' = shownNames names := by
  have hnames : names'.reduceOption.Perm names.reduceOption := h.filterMap id
  rw [shownNames, shownNames, h.contains_eq, Py.sortedSet_perm hnames]

/-- What dangles does so in any order, with the same finding, and what raises does too. -/
theorem dangles_perm (h : drs'.Perm drs) {d : Destination} {subset : String} :
    Dangles drs' d subset ↔ Dangles drs d subset := by
  have hmem : some subset ∈ definedSubsets drs' d.hostOr ↔ some subset ∈ definedSubsets drs d.hostOr :=
    (definedSubsets_perm h d.hostOr).mem_iff
  exact ⟨fun ⟨hasked, hnamed, hundefined⟩ => ⟨hasked, hnamed, mt hmem.mpr hundefined⟩,
    fun ⟨hasked, hnamed, hundefined⟩ => ⟨hasked, hnamed, mt hmem.mp hundefined⟩⟩

theorem foundAt_perm (h : drs'.Perm drs) (name : Option String) (d : Destination) :
    foundAt drs' name d = foundAt drs name d := by
  have hdangling : danglingOf drs' d = danglingOf drs d := by
    apply Option.ext
    intro subset
    rw [danglingOf_eq_some, danglingOf_eq_some, dangles_perm h]
  rw [foundAt, foundAt, hdangling, shownNames_perm (definedSubsets_perm h d.hostOr)]

theorem raises_perm (hv : vss'.Perm vss) (hd : drs'.Perm drs) : Raises vss' drs' ↔ Raises vss drs := by
  have hmixed : ∀ host, Mixed drs' host ↔ Mixed drs host := by
    intro host
    simp only [Mixed, (definedSubsets_perm hd host).mem_iff]
  simp only [Raises, RaisesAt, hv.mem_iff, dangles_perm hd, hmixed]

/-- So the first loop finds the same, and so do the third and the fourth. -/
theorem foundSubsets_perm (hv : vss'.Perm vss) (hd : drs'.Perm drs) :
    (foundSubsets vss' drs').Perm (foundSubsets vss drs) := by
  have hsame : foundSubsets vss' drs' = foundSubsets vss' drs := by
    simp only [foundSubsets, funext (foundAt_perm hd _)]
  rw [hsame]
  exact hv.flatMap_right _

theorem checkGateways_perm (hv : vss'.Perm vss) (hg : gws'.Perm gws) :
    (checkGateways vss' gws').Perm (checkGateways vss gws) := by
  have hreferenced : ((referenced vss').map some).Perm ((referenced vss).map some) :=
    (hv.flatMap_right _).map some
  simp only [checkGateways, hreferenced.contains_eq]
  exact (hg.filter _).map unboundGateway

theorem checkReferences_perm (hv : vss'.Perm vss) (hg : gws'.Perm gws) :
    (checkReferences vss' gws').Perm (checkReferences vss gws) := by
  simp only [checkReferences, (hg.map MeshGateway.nameOr).contains_eq]
  exact hv.flatMap_right _

/-! ## The mode of the namespace

The second loop depends on one mode. Which one that is depends on the order of the policies, if
several of them are without a selector. -/

/-- What the loop over the rules finds under this mode. -/
def modesUnder (nsMode : Option String) (drs : List DestinationRule) : List Finding :=
  nsMode.elim [] fun nsMode => drs.filterMap (checkMode nsMode)

/-- The loop looks at the policies through that mode only. -/
theorem checkModes_eq : checkModes pas drs = modesUnder (namespaceMtlsMode pas) drs := by
  unfold checkModes modesUnder
  cases namespaceMtlsMode pas with
  | none => rfl
  | some nsMode =>
      dsimp only [Option.elim]
      split
      · next hempty =>
        subst hempty
        symm
        rw [List.filterMap_eq_nil_iff]
        intro dr _
        -- the empty mode is falsy in the source, and conflicts with no rule
        simp [checkMode, modeConflict]
      · rfl

/-- A rule is found if its mode clashes. -/
theorem checkMode_isSome {nsMode : String} {dr : DestinationRule} :
    (checkMode nsMode dr).isSome = true ↔ ∃ drMode, dr.tlsMode.get = some drMode ∧ Clash nsMode drMode := by
  rw [checkMode]
  cases dr.tlsMode.get with
  | none => simp
  | some drMode => simp [modeConflict_isSome]

/-- Each finding of the loop names the mode it was found under. -/
theorem modesUnder_names {nsMode : Option String} {f : Finding} (h : f ∈ modesUnder nsMode drs) :
    ∃ host mode drMode detail, f = .mtlsModeConflict host mode drMode detail ∧ nsMode = some mode := by
  cases nsMode with
  | none => cases h
  | some mode =>
      obtain ⟨dr, -, hcheck⟩ := List.mem_filterMap.mp h
      obtain ⟨drMode, -, hmap⟩ := Option.bind_eq_some_iff.mp hcheck
      obtain ⟨detail, -, rfl⟩ := Option.map_eq_some_iff.mp hmap
      exact ⟨_, mode, drMode, detail, rfl, rfl⟩

/-- Some rule clashes with this mode. -/
def ClashesUnder (drs : List DestinationRule) (nsMode : Option String) : Prop :=
  ∃ mode, nsMode = some mode ∧ ∃ dr ∈ drs, ∃ drMode, dr.tlsMode.get = some drMode ∧ Clash mode drMode

/-- Nothing is found if nothing clashes. -/
theorem modesUnder_eq_nil {nsMode : Option String} :
    modesUnder nsMode drs = [] ↔ ¬ ClashesUnder drs nsMode := by
  cases nsMode with
  | none => simp [modesUnder, ClashesUnder]
  | some mode =>
      rw [modesUnder, Option.elim, List.filterMap_eq_nil_iff]
      simp only [ClashesUnder, ← checkMode_isSome, Option.some.injEq, exists_eq_left', not_exists,
        not_and, Bool.not_eq_true, Option.isSome_eq_false_iff, Option.isNone_iff_eq_none]

/-- Where some policy is without a selector, the mode is that of the first such policy. -/
theorem namespaceMtlsMode_mem {pa : PeerAuthentication} (hpa : pa ∈ pas) (hselector : pa.selector = []) :
    ∃ first ∈ pas, first.selector = [] ∧ namespaceMtlsMode pas = first.mode.get := by
  cases hfind : pas.find? fun pa => pa.selector.isEmpty with
  | none =>
      have hnot := List.find?_eq_none.mp hfind pa hpa
      rw [hselector] at hnot
      exact absurd rfl hnot
  | some first =>
      have hfirst : first.selector.isEmpty = true :=
        List.find?_some (p := fun pa : PeerAuthentication => pa.selector.isEmpty) hfind
      refine ⟨first, List.mem_of_find?_eq_some hfind, List.isEmpty_iff.mp hfirst, ?_⟩
      rw [namespaceMtlsMode, hfind]
      rfl

/-- The mode of the namespace is that of some policy without selector, in any order, or there is
none. -/
theorem namespaceMtlsMode_perm (h : pas'.Perm pas) :
    namespaceMtlsMode pas' = namespaceMtlsMode pas ∨ ∃ pa ∈ pas, ∃ pa' ∈ pas, pa.selector = [] ∧
      pa'.selector = [] ∧ namespaceMtlsMode pas = pa.mode.get ∧
        namespaceMtlsMode pas' = pa'.mode.get := by
  by_cases hsome : ∃ pa ∈ pas, pa.selector = []
  · obtain ⟨pa, hpa, hselector⟩ := hsome
    -- both orders pick some namespace-wide policy, though not the same one
    obtain ⟨first, hfirst, hselector', hmode⟩ := namespaceMtlsMode_mem hpa hselector
    obtain ⟨first', hfirst', hselector'', hmode'⟩ :=
      namespaceMtlsMode_mem (h.mem_iff.mpr hpa) hselector
    exact .inr ⟨first, hfirst, first', h.mem_iff.mp hfirst', hselector', hselector'', hmode, hmode'⟩
  · -- without such a policy there is no mode in any order
    have hnone : ∀ l : List PeerAuthentication, l.Perm pas → namespaceMtlsMode l = none := by
      intro l hl
      rw [namespaceMtlsMode, List.find?_eq_none.mpr]
      · rfl
      · intro pa hpa hempty
        exact hsome ⟨pa, hl.mem_iff.mp hpa, List.isEmpty_iff.mp hempty⟩
    exact .inl (by rw [hnone pas' h, hnone pas (.refl _)])

/-! ## Exactly when

Two policies that differ in their mode may be put first in turn. What is found under the one names
its mode, so it is not found under the other. If nothing is found under either, it does not matter
which is first. -/

/-- The policies without selector agree on the mode, or nothing clashes with what they say. The code
reads the first of them and passes over the others. -/
def PoliciesAgree (drs : List DestinationRule) (pas : List PeerAuthentication) : Prop :=
  ∀ pa ∈ pas, ∀ pa' ∈ pas, pa.selector = [] → pa'.selector = [] → pa.mode.get ≠ pa'.mode.get →
    ¬ ClashesUnder drs pa.mode.get

/-- Policies that agree give the same findings in any order. -/
theorem checkModes_perm (h : PoliciesAgree drs pas) (hd : drs'.Perm drs) (hp : pas'.Perm pas) :
    (checkModes pas' drs').Perm (checkModes pas drs) := by
  have hrules : (modesUnder (namespaceMtlsMode pas') drs').Perm
      (modesUnder (namespaceMtlsMode pas') drs) := by
    cases namespaceMtlsMode pas' with
    | none => exact .refl _
    | some nsMode => exact hd.filterMap _
  rw [checkModes_eq, checkModes_eq]
  rcases namespaceMtlsMode_perm hp with hsame | ⟨pa, hpa, pa', hpa', hselector, hselector', hmode, hmode'⟩
  · rwa [hsame] at hrules ⊢
  · refine hrules.trans ?_
    rw [hmode, hmode']
    -- two policies that differ in mode are harmless when neither conflicts with a rule
    by_cases hsame : pa'.mode.get = pa.mode.get
    · rw [hsame]
    · rw [modesUnder_eq_nil.mpr (h pa' hpa' pa hpa hselector' hselector hsame),
        modesUnder_eq_nil.mpr (h pa hpa pa' hpa' hselector hselector' (Ne.symm hsame))]

/-- The policy in front decides. -/
theorem namespaceMtlsMode_cons {pa : PeerAuthentication} (h : pa.selector = []) :
    namespaceMtlsMode (pa :: pas) = pa.mode.get := by
  rw [namespaceMtlsMode, List.find?_cons, h]
  rfl

/-- A finding about modes comes from the loop over the modes. -/
theorem mem_checkModes_of_findings {host : Option String} {mode drMode detail : String}
    (h : .mtlsModeConflict host mode drMode detail ∈ findingsOf vss drs pas gws) :
    .mtlsModeConflict host mode drMode detail ∈ checkModes pas drs := by
  generalize hf : Finding.mtlsModeConflict host mode drMode detail = f at h ⊢
  cases mem_findingsOf.mp h with
  | subset => cases hf
  | mode hns hdr hmode htext => exact mem_checkModes.mpr ⟨_, hns, _, hdr, _, hmode, _, htext, rfl⟩
  | unbound => cases hf
  | unknown => cases hf

/-- Otherwise either of two policies may come first, and what is found under its mode names it. -/
theorem policiesAgree_of_free (h : MeshOrderFree vss drs pas gws) (hraises : ¬ Raises vss drs) :
    PoliciesAgree drs pas := by
  intro pa hpa pa' hpa' hselector hselector' hne hclash
  -- moving a policy to the front makes it the one that is read
  have hfirst : ∀ q ∈ pas, (findingsOf vss drs (q :: pas.erase q) gws).Perm
      (findingsOf vss drs pas gws) := by
    intro q hq
    have hrun := h vss drs (q :: pas.erase q) gws (.refl _) (.refl _)
      (List.perm_cons_erase hq).symm (.refl _)
    rw [analyzeMesh_ok hraises, analyzeMesh_ok hraises] at hrun
    cases hrun with
    | ok hperm => exact hperm
  -- take a conflict that one policy finds, and read it back under the other
  obtain ⟨f, hf⟩ := List.exists_mem_of_ne_nil _ (mt modesUnder_eq_nil.mp (not_not.mpr hclash))
  obtain ⟨host, mode, drMode, detail, rfl, hmode⟩ := modesUnder_names hf
  have hfound : .mtlsModeConflict host mode drMode detail ∈
      findingsOf vss drs (pa :: pas.erase pa) gws := by
    simp only [findingsOf, List.mem_append, checkModes_eq, namespaceMtlsMode_cons hselector, hf,
      or_true, true_or]
  have hfound' := mem_checkModes_of_findings
    ((hfirst pa' hpa').mem_iff.mpr ((hfirst pa hpa).mem_iff.mp hfound))
  rw [checkModes_eq, namespaceMtlsMode_cons hselector'] at hfound'
  obtain ⟨host', mode', drMode', detail', hsame, hmode'⟩ := modesUnder_names hfound'
  obtain ⟨-, rfl, -, -⟩ := Finding.mtlsModeConflict.inj hsame
  exact hne (hmode.trans hmode'.symm)  -- the finding names the mode, so both policies have the same

/-- Where the policies agree, a run that returns finds the same in another order. -/
theorem findingsOf_perm (hagree : PoliciesAgree drs pas) (hv : vss'.Perm vss) (hd : drs'.Perm drs)
    (hp : pas'.Perm pas) (hg : gws'.Perm gws) :
    (findingsOf vss' drs' pas' gws').Perm (findingsOf vss drs pas gws) :=
  (((foundSubsets_perm hv hd).append (checkModes_perm hagree hd hp)).append
    (checkGateways_perm hv hg)).append (checkReferences_perm hv hg)

/-- **Exactly when the order of the objects makes no difference.** -/
theorem meshOrderFree_iff (vss : List VirtualService) (drs : List DestinationRule)
    (pas : List PeerAuthentication) (gws : List MeshGateway) :
    MeshOrderFree vss drs pas gws ↔ Raises vss drs ∨ PoliciesAgree drs pas := by
  constructor
  · intro hfree
    by_cases hraises : Raises vss drs
    · exact .inl hraises
    · exact .inr (policiesAgree_of_free hfree hraises)
  · intro h vss' drs' pas' gws' hv hd hp hg
    by_cases hraises : Raises vss drs
    · -- where the analysis raises, it does so with the same error in every order
      rw [analyzeMesh_raises hraises, analyzeMesh_raises ((raises_perm hv hd).mpr hraises)]
      exact .error _
    · rw [analyzeMesh_ok hraises, analyzeMesh_ok (mt (raises_perm hv hd).mp hraises)]
      exact .ok (findingsOf_perm (h.resolve_left hraises) hv hd hp hg)

/-- In every order the analysis returns, and always with the findings of this one. -/
def ReturnsTheSame (vss : List VirtualService) (drs : List DestinationRule)
    (pas : List PeerAuthentication) (gws : List MeshGateway) : Prop :=
  ∃ found, analyzeMesh vss drs pas gws = .ok found ∧
    ∀ vss' drs' pas' gws', vss'.Perm vss → drs'.Perm drs → pas'.Perm pas → gws'.Perm gws →
      ∃ found', analyzeMesh vss' drs' pas' gws' = .ok found' ∧ found'.Perm found

/-- **For the runs that return findings**, the first disjunct is out: nothing raises, and the policies
agree. -/
theorem returnsTheSame_iff (vss : List VirtualService) (drs : List DestinationRule)
    (pas : List PeerAuthentication) (gws : List MeshGateway) :
    ReturnsTheSame vss drs pas gws ↔ ¬ Raises vss drs ∧ PoliciesAgree drs pas := by
  constructor
  · rintro ⟨found, hfound, hsame⟩
    -- the given order is one of them, and there the analysis returned
    have hraises : ¬ Raises vss drs := by
      intro hraises
      rw [analyzeMesh_raises hraises] at hfound
      cases hfound
    have hfree : MeshOrderFree vss drs pas gws := by
      intro vss' drs' pas' gws' hv hd hp hg
      obtain ⟨found', hfound', hperm⟩ := hsame vss' drs' pas' gws' hv hd hp hg
      rw [hfound, hfound']
      exact .ok hperm
    exact ⟨hraises, policiesAgree_of_free hfree hraises⟩
  · rintro ⟨hraises, hagree⟩
    refine ⟨_, analyzeMesh_ok hraises, fun vss' drs' pas' gws' hv hd hp hg => ?_⟩
    exact ⟨_, analyzeMesh_ok (mt (raises_perm hv hd).mp hraises), findingsOf_perm hagree hv hd hp hg⟩

/-! ## A policy that does not set the mode

An empty policy is legal and says nothing. Listed first it makes the loop believe that the namespace
has no mode, and the rule that sends plaintext to a strict namespace is not reported. -/

def unsetPolicy : PeerAuthentication := {}

def strictPolicy : PeerAuthentication := { mode := .text "STRICT" }

def plaintextRule : DestinationRule := { host := .text "ratings", tlsMode := .text "DISABLE" }

/-- Behind a policy that does not set the mode, the one that does is overlooked. -/
theorem unset_hides_strict : ¬ MeshOrderFree [] [plaintextRule] [unsetPolicy, strictPolicy] [] := by
  intro hfree
  have hraises : ¬ Raises [] [plaintextRule] := by
    rintro ⟨vs, hvs, -⟩
    cases hvs
  have hagree := policiesAgree_of_free hfree hraises
  refine hagree strictPolicy (by decide) unsetPolicy (by decide) rfl rfl (by decide) ?_
  exact ⟨"STRICT", rfl, plaintextRule, List.mem_cons_self, "DISABLE", rfl, .inl ⟨rfl, .inl rfl⟩⟩

end SreAgent.Tools
