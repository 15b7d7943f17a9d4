import SreAgent.Tools.Mesh

/-!
# What the mesh analysis finds

Four loops gather findings. `Defect` says what each of them is looking for, and `mem_analyzeMesh` that
this is what the analysis returns, if it returns: the text of a finding about a subset has the subsets
of the host in order, and a nameless one among them cannot be put in order (`analyzeMesh_ok_iff`).

The loops build texts while they go. So that later modules do not have to look at texts, what a loop
finds is first described by a relation between objects, and the text is a function of them.
-/

namespace SreAgent.Tools

variable {vss : List VirtualService} {drs : List DestinationRule} {pas : List PeerAuthentication}
  {gws : List MeshGateway} {host : Option String}

/-! ## Subsets

The subsets of a host come from all rules for it. As a list they depend on the order of the rules,
in the text of a finding they are sorted, and sorting fails on a mixture of names and missing names. -/

/-- A subset is defined if some rule for the host has it, with a name or without one. -/
theorem mem_definedSubsets {x : Option String} : x ∈ definedSubsets drs host ↔
    ∃ dr ∈ drs, dr.hostOr = host ∧ ∃ s ∈ dr.subsets, s.get = x := by
  simp only [definedSubsets, List.mem_flatMap, List.mem_filter, List.mem_map, decide_eq_true_eq,
    and_assoc]

/-- The rules for the host define a subset with a name and one without. -/
def Mixed (drs : List DestinationRule) (host : Option String) : Prop :=
  none ∈ definedSubsets drs host ∧ ∃ s, some s ∈ definedSubsets drs host

/-- The names in order, where they can be put in order. -/
def shownNames (names : List (Option String)) : List (Option String) :=
  if names.contains none then [none] else (Py.sortedSet names.reduceOption).map some

/-- A mixture is not sorted, and anything else is. -/
theorem sortedNames_of_mixed (h : Mixed drs host) :
    sortedNames (definedSubsets drs host) = .error .typeError := by
  obtain ⟨hnone, s, hs⟩ := h
  rw [sortedNames, if_pos (List.contains_iff_mem.mpr hnone),
    if_pos (List.any_eq_true.mpr ⟨some s, hs, rfl⟩)]

theorem sortedNames_of_not_mixed (h : ¬ Mixed drs host) :
    sortedNames (definedSubsets drs host) = .ok (shownNames (definedSubsets drs host)) := by
  unfold sortedNames shownNames
  split
  · next hnone =>
    rw [if_neg]
    intro hsome
    obtain ⟨x, hx, hx'⟩ := List.any_eq_true.mp hsome
    obtain ⟨s, rfl⟩ := Option.isSome_iff_exists.mp hx'
    exact h ⟨List.contains_iff_mem.mp hnone, s, hx⟩
  · rfl

/-- The destination asks for a subset that no rule for its host defines. -/
structure Dangles (drs : List DestinationRule) (d : Destination) (subset : String) : Prop where
  asked     : d.subset.get = some subset
  named     : subset ≠ ""
  undefined : some subset ∉ definedSubsets drs d.hostOr

/-- The subset a destination asks for in vain. -/
def danglingOf (drs : List DestinationRule) (d : Destination) : Option String :=
  d.subset.get.filter fun s => s != "" && !(definedSubsets drs d.hostOr).contains (some s)

/-- It is in vain if nothing defines it and it is not empty. -/
theorem danglingOf_eq_some {d : Destination} {subset : String} :
    danglingOf drs d = some subset ↔ Dangles drs d subset := by
  rw [danglingOf, Option.filter_eq_some_iff, Bool.and_eq_true, bne_iff_ne, Bool.not_eq_true',
    ← Bool.not_eq_true, List.contains_iff_mem]
  exact ⟨fun ⟨hasked, hnamed, hundefined⟩ => ⟨hasked, hnamed, hundefined⟩,
    fun h => ⟨h.asked, h.named, h.undefined⟩⟩

/-- What is found at one destination. -/
def foundAt (drs : List DestinationRule) (name : Option String) (d : Destination) : List Finding :=
  (danglingOf drs d).toList.map fun subset =>
    danglingSubset name d.hostOr subset (shownNames (definedSubsets drs d.hostOr))

/-- One pass of the loop: a finding if the names can be sorted, and none if nothing dangles. -/
theorem checkDestination_of_dangles {d : Destination} {subset : String} (h : Dangles drs d subset)
    (name : Option String) : checkDestination drs name d =
      (sortedNames (definedSubsets drs d.hostOr)).map fun names =>
        [danglingSubset name d.hostOr subset names] := by
  have hcond : (decide (subset = "") || (definedSubsets drs d.hostOr).contains (some subset)) = false := by
    simp [h.named, h.undefined]
  rw [checkDestination, h.asked]
  dsimp only
  rw [hcond, if_neg Bool.false_ne_true]
  rfl

theorem checkDestination_of_none {d : Destination} (h : danglingOf drs d = none)
    (name : Option String) : checkDestination drs name d = .ok [] := by
  -- where nothing dangles, a subset that was asked for is defined
  have hnone : ∀ s, ¬ Dangles drs d s := by
    intro s hs
    rw [← danglingOf_eq_some, h] at hs
    cases hs
  unfold checkDestination
  split
  · rfl
  · next subset hasked =>
    split
    · rfl
    · next hcond =>
      simp only [Bool.or_eq_true, decide_eq_true_eq, List.contains_iff_mem, not_or] at hcond
      exact absurd ⟨hasked, hcond.1, hcond.2⟩ (hnone subset)

/-- The destination dangles, and what is defined instead cannot be put in order. -/
def RaisesAt (drs : List DestinationRule) (d : Destination) : Prop :=
  (∃ subset, Dangles drs d subset) ∧ Mixed drs d.hostOr

/-- It raises on a mixture, and otherwise finds what there is. -/
theorem checkDestination_raises {d : Destination} (h : RaisesAt drs d) (name : Option String) :
    checkDestination drs name d = .error .typeError := by
  obtain ⟨⟨subset, hd⟩, hmixed⟩ := h
  rw [checkDestination_of_dangles hd, sortedNames_of_mixed hmixed]
  rfl

theorem checkDestination_ok {d : Destination} (h : ¬ RaisesAt drs d) (name : Option String) :
    checkDestination drs name d = .ok (foundAt drs name d) := by
  rw [foundAt]
  cases hd : danglingOf drs d with
  | none => exact checkDestination_of_none hd name
  | some subset =>
      have hdangles := danglingOf_eq_some.mp hd
      have hmixed : ¬ Mixed drs d.hostOr := fun hm => h ⟨⟨subset, hdangles⟩, hm⟩
      rw [checkDestination_of_dangles hdangles, sortedNames_of_not_mixed hmixed]
      rfl

/-- Some route raises. -/
def Raises (vss : List VirtualService) (drs : List DestinationRule) : Prop :=
  ∃ vs ∈ vss, ∃ d ∈ vs.destinations, RaisesAt drs d

def foundSubsets (vss : List VirtualService) (drs : List DestinationRule) : List Finding :=
  vss.flatMap fun vs => vs.destinations.flatMap (foundAt drs vs.nameOr)

/-- The whole loop finds what its passes find, unless one of them raises. -/
theorem checkSubsets_ok (h : ¬ Raises vss drs) : checkSubsets vss drs = .ok (foundSubsets vss drs) := by
  apply Gather.gather_ok
  intro vs hvs
  apply Gather.gather_ok
  intro d hd
  exact checkDestination_ok (fun hraises => h ⟨vs, hvs, d, hd, hraises⟩) vs.nameOr

theorem checkSubsets_raises (h : Raises vss drs) : checkSubsets vss drs = .error .typeError := by
  -- sorting names and `None` together is the only way a destination can raise
  have hdestination : ∀ name d, checkDestination drs name d = .error .typeError ∨
      ∃ found, checkDestination drs name d = .ok found := by
    intro name d
    by_cases hd : RaisesAt drs d
    · exact .inl (checkDestination_raises hd name)
    · exact .inr ⟨_, checkDestination_ok hd name⟩
  have hservice : ∀ vs : VirtualService, (∃ d ∈ vs.destinations, RaisesAt drs d) →
      Gather.gather (checkDestination drs vs.nameOr) vs.destinations = .error .typeError := by
    rintro vs ⟨d, hd, hraises⟩
    exact Gather.gather_error (fun d' _ => hdestination vs.nameOr d')
      ⟨d, hd, checkDestination_raises hraises vs.nameOr⟩
  obtain ⟨vs, hvs, hraises⟩ := h
  -- one virtual service that raises ends the whole walk, wherever it stands in the list
  refine Gather.gather_error (fun vs' _ => ?_) ⟨vs, hvs, hservice vs hraises⟩
  by_cases hraises' : ∃ d ∈ vs'.destinations, RaisesAt drs d
  · exact .inl (hservice vs' hraises')
  · refine .inr ⟨_, Gather.gather_ok (g := foundAt drs vs'.nameOr) fun d hd => ?_⟩
    exact checkDestination_ok (fun hd' => hraises' ⟨d, hd, hd'⟩) vs'.nameOr

/-! ## Modes

Two of the four modes are plaintext, which `STRICT` excludes, and two are mutual, which `DISABLE`
excludes. -/

/-- A rule's mode that does not go with the mode of the namespace. -/
def Clash (nsMode drMode : String) : Prop :=
  (nsMode = "STRICT" ∧ (drMode = "DISABLE" ∨ drMode = "SIMPLE")) ∨
    (nsMode = "DISABLE" ∧ (drMode = "ISTIO_MUTUAL" ∨ drMode = "MUTUAL"))

/-- There is a text if the modes clash. -/
theorem modeConflict_isSome {nsMode drMode : String} {host : Option String} :
    (modeConflict nsMode drMode host).isSome = true ↔ Clash nsMode drMode := by
  unfold modeConflict Clash
  split
  · next hstrict => simpa using .inl (by simpa using hstrict)
  · next hstrict =>
    split
    · next hdisable => simpa using .inr (by simpa using hdisable)
    · next hdisable => simp_all

/-! ## All findings

The four lists in a row. Each is described by its own lemma, and the last one puts them together
into `Defect`. -/

def findingsOf (vss : List VirtualService) (drs : List DestinationRule)
    (pas : List PeerAuthentication) (gws : List MeshGateway) : List Finding :=
  foundSubsets vss drs ++ checkModes pas drs ++ checkGateways vss gws ++ checkReferences vss gws

/-- Without such a route the analysis returns all four lists, and with one it returns none of them.
-/
theorem analyzeMesh_ok (h : ¬ Raises vss drs) :
    analyzeMesh vss drs pas gws = .ok (findingsOf vss drs pas gws) := by
  rw [analyzeMesh, checkSubsets_ok h]
  rfl

theorem analyzeMesh_raises (h : Raises vss drs) :
    analyzeMesh vss drs pas gws = .error .typeError := by
  rw [analyzeMesh, checkSubsets_raises h]
  rfl

/-- **When the analysis returns**: exactly if no route raises, and then with the four lists. -/
theorem analyzeMesh_eq_ok {findings : List Finding} :
    analyzeMesh vss drs pas gws = .ok findings ↔
      ¬ Raises vss drs ∧ findings = findingsOf vss drs pas gws := by
  by_cases h : Raises vss drs
  · simp [analyzeMesh_raises h, h]
  · rw [analyzeMesh_ok h, Except.ok.injEq]
    simp [h, eq_comm]

/-- What is wrong with the configuration, as the analysis puts it. -/
inductive Defect (vss : List VirtualService) (drs : List DestinationRule)
    (pas : List PeerAuthentication) (gws : List MeshGateway) : Finding → Prop
  | subset {vs : VirtualService} {d : Destination} {subset : String} :
      vs ∈ vss → d ∈ vs.destinations → Dangles drs d subset →
      Defect vss drs pas gws
        (danglingSubset vs.nameOr d.hostOr subset (shownNames (definedSubsets drs d.hostOr)))
  | mode {nsMode drMode text : String} {dr : DestinationRule} :
      namespaceMtlsMode pas = some nsMode → dr ∈ drs → dr.tlsMode.get = some drMode →
      modeConflict nsMode drMode dr.hostOr = some text →
      Defect vss drs pas gws (.mtlsModeConflict dr.hostOr nsMode drMode text)
  | unbound {g : MeshGateway} :
      g ∈ gws → (∀ vs ∈ vss, ∀ r ∈ vs.references, some (shortName r) ≠ g.nameOr) →
      Defect vss drs pas gws (unboundGateway g)
  | unknown {vs : VirtualService} {r : String} :
      vs ∈ vss → r ∈ vs.references → (∀ g ∈ gws, g.nameOr ≠ some (shortName r)) →
      Defect vss drs pas gws (unknownGateway vs.nameOr r)

/-- What is found about subsets: a route that dangles, with what is defined instead. -/
theorem mem_foundSubsets {f : Finding} : f ∈ foundSubsets vss drs ↔
    ∃ vs ∈ vss, ∃ d ∈ vs.destinations, ∃ subset, Dangles drs d subset ∧
      danglingSubset vs.nameOr d.hostOr subset (shownNames (definedSubsets drs d.hostOr)) = f := by
  simp only [foundSubsets, foundAt, List.mem_flatMap, List.mem_map, Option.mem_toList,
    danglingOf_eq_some]

/-- What is found about modes: a rule that clashes with the namespace. -/
theorem mem_checkModes {f : Finding} : f ∈ checkModes pas drs ↔
    ∃ nsMode, namespaceMtlsMode pas = some nsMode ∧ ∃ dr ∈ drs, ∃ drMode,
      dr.tlsMode.get = some drMode ∧ ∃ text, modeConflict nsMode drMode dr.hostOr = some text ∧
        .mtlsModeConflict dr.hostOr nsMode drMode text = f := by
  unfold checkModes
  cases namespaceMtlsMode pas with
  | none => simp
  | some nsMode =>
      dsimp only
      split
      · next hempty => subst hempty; simp [modeConflict]
      · simp [checkMode, Option.bind_eq_some_iff]

/-- Nothing refers to a name if no reference has it as its short name. -/
theorem not_referenced_iff {name : Option String} :
    (!((referenced vss).map some).contains name) = true ↔
      ∀ vs ∈ vss, ∀ r ∈ vs.references, some (shortName r) ≠ name := by
  rw [Bool.not_eq_true', ← Bool.not_eq_true, List.contains_iff_mem]
  simp only [referenced, List.mem_map, List.mem_flatMap]
  constructor
  · intro hnone vs hvs r hr hname
    exact hnone ⟨_, ⟨vs, hvs, r, hr, rfl⟩, hname⟩
  · rintro hnone ⟨-, ⟨vs, hvs, r, hr, rfl⟩, hname⟩
    exact hnone vs hvs r hr hname

/-- What is found about gateways: one that nothing refers to. -/
theorem mem_checkGateways {f : Finding} : f ∈ checkGateways vss gws ↔
    ∃ g ∈ gws, (∀ vs ∈ vss, ∀ r ∈ vs.references, some (shortName r) ≠ g.nameOr) ∧
      unboundGateway g = f := by
  simp only [checkGateways, List.mem_map, List.mem_filter, not_referenced_iff, and_assoc]

/-- Nothing is named so if no gateway is. -/
theorem not_named_iff {name : Option String} :
    (!(gws.map MeshGateway.nameOr).contains name) = true ↔ ∀ g ∈ gws, g.nameOr ≠ name := by
  rw [Bool.not_eq_true', ← Bool.not_eq_true, List.contains_iff_mem]
  simp

/-- What is found about references: one to a name no gateway has. -/
theorem mem_checkReferences {f : Finding} : f ∈ checkReferences vss gws ↔
    ∃ vs ∈ vss, ∃ r ∈ vs.references, (∀ g ∈ gws, g.nameOr ≠ some (shortName r)) ∧
      unknownGateway vs.nameOr r = f := by
  simp only [checkReferences, List.mem_flatMap, List.mem_map, List.mem_filter, not_named_iff,
    and_assoc]

/-- **The findings are the defects**: what the loops find, with its text, is what is wrong with the
configuration. -/
theorem mem_findingsOf {f : Finding} : f ∈ findingsOf vss drs pas gws ↔ Defect vss drs pas gws f := by
  simp only [findingsOf, List.mem_append, mem_foundSubsets, mem_checkModes, mem_checkGateways,
    mem_checkReferences]
  constructor
  · rintro (((⟨vs, hvs, d, hd, subset, hdangles, rfl⟩ | ⟨nsMode, hns, dr, hdr, drMode, hmode, text,
      htext, rfl⟩) | ⟨g, hg, hnone, rfl⟩) | ⟨vs, hvs, r, hr, hnone, rfl⟩)
    · exact .subset hvs hd hdangles
    · exact .mode hns hdr hmode htext
    · exact .unbound hg hnone
    · exact .unknown hvs hr hnone
  · intro h
    cases h with  -- the four walks append to one list, one constructor of `Defect` for each
    | subset hvs hd hdangles => exact .inl (.inl (.inl ⟨_, hvs, _, hd, _, hdangles, rfl⟩))
    | mode hns hdr hmode htext => exact .inl (.inl (.inr ⟨_, hns, _, hdr, _, hmode, _, htext, rfl⟩))
    | unbound hg hnone => exact .inl (.inr ⟨_, hg, hnone, rfl⟩)
    | unknown hvs hr hnone => exact .inr ⟨_, hvs, _, hr, hnone, rfl⟩

end SreAgent.Tools
