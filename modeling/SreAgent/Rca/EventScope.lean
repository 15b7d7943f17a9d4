import SreAgent.Lib.Isolation
import SreAgent.Rca.Collected

/-!
# Which events a diagnosis looks at

An event is kept for a subject when its object is named like the subject or one of its pods, or when
the object's name and a dash begin the name of one of the pods. The last rule is meant for
ReplicaSets; `isolated_iff` says for which names it stays within the subject's own objects.

Isolation is stated for two states of the cluster that agree on everything except foreign events, as
noninterference is: whatever those events are, hypotheses and timeline are the same. Sufficiency is
that no foreign event is kept. For necessity one event is enough, with a time of its own, since it
adds a line to the timeline.
-/

namespace SreAgent.Rca

open Kube (Client Read Labels Pod Timestamp)
open Isolation (Agree)

variable {cl cl' : Client} {ns subject clusterName : String} {now : Timestamp}

/-- The subject, one of its pods, or a ReplicaSet that owns one of them. -/
def ownName (cl : Client) (ns subject name : String) : Bool :=
  name == subject || (podNamesOf cl ns subject).contains name ||
    (cl.namespaces ns).pods.any fun p => (podNamesOf cl ns subject).contains p.name &&
      p.ownerReferences.any fun o => o.kind == "ReplicaSet" && o.name == name

/-- The event is about one of these. -/
def ownEvent (cl : Client) (ns subject : String) (e : Kube.Event) : Bool :=
  ownName cl ns subject (e.involvedName.getD "")

/-- The two states differ only in events of the namespace that are about other objects. -/
structure ForeignEventsDiffer (cl cl' : Client) (ns subject : String) : Prop where
  faults : cl'.faults = cl.faults
  nodes  : cl'.nodes = cl.nodes
  rest   : cl'.namespaces ns = { cl.namespaces ns with events := (cl'.namespaces ns).events }
  events : Agree (ownEvent cl ns subject) (cl.namespaces ns).events (cl'.namespaces ns).events

/-- What `collect_context` followed by `evaluate` and `build_timeline` returns. -/
def outcome (cl : Client) (clusterName ns subject : String) (now : Timestamp) :
    Except Exc (List Hypothesis × List String) := do
  let ctx ← collectFrom cl clusterName ns subject now
  let timeline ← buildTimeline ctx
  pure (evaluate ctx, timeline)

/-- No choice of foreign events changes the outcome. Two clusters that differ in the events of other
objects alone are diagnosed alike, whatever happened to those. -/
def Isolated (cl : Client) (clusterName ns subject : String) (now : Timestamp) : Prop :=
  ∀ cl', ForeignEventsDiffer cl cl' ns subject →
    outcome cl' clusterName ns subject now = outcome cl clusterName ns subject now

/-- Every name that ends at a dash inside a pod's name is the subject's own. An event is kept by a
prefix test on names, which `web` passes for `web-api-0`. -/
def NamesNested (cl : Client) (ns subject : String) : Prop :=
  ∀ p ∈ podNamesOf cl ns subject, ∀ name : String,
    (name ++ "-").toList <+: p.toList → ownName cl ns subject name = true

/-! ## What is read alike

The two states are read alike everywhere but at the events. Through the failure anchor the events do
have a say in what else is put together, which is why the anchor is assumed to be the same before
the collections are compared. -/

/-- The two states fail in the same reads, and resolve the subject alike, to the same pods. -/
theorem ForeignEventsDiffer.attempt (h : ForeignEventsDiffer cl cl' ns subject) {α : Type}
    (read : Read) (answer : Except Exc α) : cl'.attempt read answer = cl.attempt read answer := by
  rw [Client.attempt, h.faults]
  rfl

theorem ForeignEventsDiffer.resolve (h : ForeignEventsDiffer cl cl' ns subject) :
    resolveSubject cl' ns subject = resolveSubject cl ns subject := by
  unfold resolveSubject tryPod tryDeployment tryStatefulSet tryJob tryWorkload
  simp only [Client.readPod, Client.listPods, h.attempt]
  rw [h.rest]

theorem ForeignEventsDiffer.podNames (h : ForeignEventsDiffer cl cl' ns subject) :
    podNamesOf cl' ns subject = podNamesOf cl ns subject := by
  rw [podNamesOf, h.resolve]
  rfl

/-- Whether a read is degraded does not depend on what it would have answered. -/
theorem degrade_key {α : Type} (cl : Client) (read : Read) (key : String) (default a b : α) :
    (degrade key default (cl.attempt read (.ok a))).2 =
      (degrade key default (cl.attempt read (.ok b))).2 := by
  unfold Client.attempt
  cases cl.faults read <;> rfl

/-- All of the fan-out but the events. -/
theorem ForeignEventsDiffer.results (h : ForeignEventsDiffer cl cl' ns subject) :
    resultsOf cl' ns subject =
      { resultsOf cl ns subject with events := (resultsOf cl' ns subject).events } := by
  unfold resultsOf
  rw [h.podNames]
  unfold fanOut
  simp only [kubernetesDescribe, readLogs, readPodLog, Client.readPod, h.attempt, h.nodes]
  rw [h.rest, degrade_key cl .events "events" [] (cl'.namespaces ns).events (cl.namespaces ns).events]

/-- The pods are listed alike. -/
theorem ForeignEventsDiffer.pods (h : ForeignEventsDiffer cl cl' ns subject) :
    (cl'.namespaces ns).pods = (cl.namespaces ns).pods := by rw [h.rest]

/-- The events are no input of `find_recent_change` but through the failure anchor. -/
theorem findRecentChange_events (ctx : Context) (events : List EventInfo) (now : Py.DateTime) :
    findRecentChange { ctx with events := events } now = findRecentChange ctx now := rfl

/-- As long as the failure anchor is the same, so is the whole collection but for its events. -/
theorem ForeignEventsDiffer.collect_eq (h : ForeignEventsDiffer cl cl' ns subject)
    (hanchor : anchorOf cl' ns subject = anchorOf cl ns subject) :
    collectFrom cl' clusterName ns subject now =
      (collectFrom cl clusterName ns subject now).map fun ctx =>
        { ctx with events := keptEvents cl' ns subject } := by
  cases hpods : cl.faults .podList with
  | some e =>
      rw [collectFrom_podList_failed hpods, collectFrom_podList_failed (h.faults ▸ hpods)]
      rfl
  | none =>
      have hlabels : selectorLabelsOf cl' ns subject = selectorLabelsOf cl ns subject := by
        rw [selectorLabelsOf, h.resolve]
        rfl
      have hpdbs : (resultsOf cl' ns subject).pdbs = (resultsOf cl ns subject).pdbs := by
        rw [h.results]
      -- the bundle takes the events from the kept ones and everything else from what is read alike
      have hbundle : ∀ pdbs anchor, bundleOf cl' clusterName ns subject pdbs anchor =
          { bundleOf cl clusterName ns subject pdbs anchor with
            events := keptEvents cl' ns subject } := by
        intro pdbs anchor
        have hlogs : readLogs cl' .initLogs ns = readLogs cl .initLogs ns := by
          funext pod container previous
          rw [readLogs, readPodLog, h.attempt, h.rest]
          rfl
        rw [keptEvents, h.podNames]
        simp only [bundleOf, bundle, h.resolve, h.pods, hlogs]
        rw [h.results]
        rfl
      rw [collectFrom_eq (h.faults ▸ hpods), collectFrom_eq hpods, hlabels, hpdbs, hanchor]
      cases selectPdbs (selectorLabelsOf cl ns subject) (resultsOf cl ns subject).pdbs with
      | error e => rfl
      | ok pdbs =>
          cases anchorOf cl ns subject with
          | error e => rfl
          | ok anchor =>
              simp only [Except.bind, hbundle, findRecentChange_events]
              cases findRecentChange (bundleOf cl clusterName ns subject pdbs anchor) now.value <;> rfl

/-! ## Nested names keep foreign events out

If the rule with the dash only ever meets names of the subject's own objects, the filter keeps own
events only, and the two states agree on those. -/

/-- Under nested names an event that is kept is about one of the subject's own objects. -/
theorem relevant_own (hnested : NamesNested cl ns subject) {name : String}
    (h : relevant subject (podNamesOf cl ns subject) name = true) :
    ownName cl ns subject name = true := by
  simp only [relevant, Bool.or_eq_true, List.any_eq_true, beq_iff_eq, Py.startsWith_eq_true] at h
  rcases h with (hmem | hsubject) | ⟨p, hp, hname | hdash⟩
  · simp only [ownName, hmem, Bool.or_true, Bool.true_or]
  · simp only [ownName, hsubject, beq_self_eq_true, Bool.true_or]
  · subst hname
    simp only [ownName, List.contains_iff_mem.mpr hp, Bool.or_true, Bool.true_or]
  · exact hnested p hp name hdash

theorem ForeignEventsDiffer.kept_eq (h : ForeignEventsDiffer cl cl' ns subject)
    (hnested : NamesNested cl ns subject) :
    keptEvents cl' ns subject = keptEvents cl ns subject := by
  rw [keptEvents, keptEvents, h.podNames, resultsOf_events, resultsOf_events, h.faults]
  split
  · rw [selectEvents, selectEvents]
    exact congrArg _ (h.events.symm.filter fun e he => relevant_own hnested he)
  · rfl

/-- Two states from which the same events are kept have the same outcome. -/
theorem ForeignEventsDiffer.outcome_eq (h : ForeignEventsDiffer cl cl' ns subject)
    (hkept : keptEvents cl' ns subject = keptEvents cl ns subject) :
    outcome cl' clusterName ns subject now = outcome cl clusterName ns subject now := by
  -- the anchor is computed from the events that are kept
  have hanchor : anchorOf cl' ns subject = anchorOf cl ns subject := by
    show failureAnchor (keptEvents cl' ns subject) _ _ = failureAnchor (keptEvents cl ns subject) _ _
    rw [hkept, h.podNames, h.pods]
  have hsame : collectFrom cl' clusterName ns subject now =
      collectFrom cl clusterName ns subject now := by
    rw [h.collect_eq hanchor, hkept]
    cases hctx : collectFrom cl clusterName ns subject now with
    | error e => rfl
    | ok ctx =>
        obtain ⟨-, -, pdbs, anchor, recent, rfl, -⟩ := collectFrom_inv hctx
        rfl
  rw [outcome, outcome, hsame]

/-- **Sufficiency**: if every name that a pod of the subject begins with is the subject's own,
nothing about foreign events can matter. -/
theorem isolated_of_namesNested (hnested : NamesNested cl ns subject) :
    Isolated cl clusterName ns subject now :=
  fun _ h => h.outcome_eq (h.kept_eq hnested)

/-! ## Any other name lets one in

The counterexample is constructed from the name: an ordinary event of that name, in the state at
hand. It is no warning, so it moves no anchor; all it does is to add its line to the timeline. -/

/-- An event about an object of this name, at a time that can be parsed. -/
def strayEvent (name : String) : Kube.Event where
  type := some "Normal"
  reason := some "Pulled"
  involvedKind := some "Pod"
  involvedName := some name
  lastTimestamp := some demoNow

/-- The state with one more event in the namespace. -/
def withEvent (cl : Client) (ns : String) (e : Kube.Event) : Client :=
  { cl with
    namespaces := fun m =>
      if m = ns then
        { cl.namespaces ns with events := (cl.namespaces ns).events ++ [e] }
      else cl.namespaces m }

/-- An event about a foreign object is all the two states differ in. -/
theorem withEvent_differs {name : String} (hforeign : ownName cl ns subject name = false) :
    ForeignEventsDiffer cl (withEvent cl ns (strayEvent name)) ns subject where
  faults := rfl
  nodes := rfl
  rest := by simp only [withEvent, if_true]
  events := by
    have hevents : ((withEvent cl ns (strayEvent name)).namespaces ns).events =
        (cl.namespaces ns).events ++ [strayEvent name] := by simp only [withEvent, if_true]
    rw [hevents]
    exact (@Isolation.Agree.concat _ (ownEvent cl ns subject) _ (strayEvent name) hforeign).symm

/-- Only warnings set the failure anchor. -/
theorem firstFailureTime_concat (events : List EventInfo) {e : EventInfo}
    (he : e.type = some "Normal") : firstFailureTime (events ++ [e]) = firstFailureTime events := by
  rw [firstFailureTime, firstFailureTime, List.filter_append, List.filter_cons_of_neg (by simp [he]),
    List.filter_nil, List.append_nil]

/-- The rule with the dash keeps it, as the last of the events. -/
theorem kept_stray (hevents : cl.faults .events = none) {name p : String}
    (hp : p ∈ podNamesOf cl ns subject) (hdash : (name ++ "-").toList <+: p.toList)
    (hforeign : ownName cl ns subject name = false) :
    keptEvents (withEvent cl ns (strayEvent name)) ns subject =
      keptEvents cl ns subject ++ [eventInfo (strayEvent name)] := by
  have h := withEvent_differs hforeign
  -- the name begins a pod of the subject, so the event is taken for one of its own
  have hrelevant : relevant subject (podNamesOf cl ns subject) name = true := by
    simp only [relevant, Bool.or_eq_true, List.any_eq_true, Py.startsWith_eq_true]
    exact .inr ⟨p, hp, .inr hdash⟩
  have hlist : ((withEvent cl ns (strayEvent name)).namespaces ns).events =
      (cl.namespaces ns).events ++ [strayEvent name] := by simp only [withEvent, if_true]
  have hsingle : [strayEvent name].filter (fun e =>
      relevant subject (podNamesOf cl ns subject) (e.involvedName.getD "")) = [strayEvent name] := by
    rw [List.filter_eq_self]
    intro e he
    rw [List.mem_singleton.mp he]
    exact hrelevant
  rw [keptEvents, keptEvents, h.podNames, resultsOf_events, resultsOf_events, h.faults,
    if_pos hevents, if_pos hevents, hlist, selectEvents, selectEvents, List.filter_append,
    List.map_append, hsingle]
  rfl

/-- The outcome of a collection whose timeline can be built. -/
theorem outcome_ok {ctx : Context} {lines : List String}
    (hctx : collectFrom cl clusterName ns subject now = .ok ctx)
    (hlines : buildTimeline ctx = .ok lines) :
    outcome cl clusterName ns subject now = .ok (evaluate ctx, lines) := by
  rw [outcome, hctx]
  show (buildTimeline ctx).bind _ = _
  rw [hlines]
  rfl

/-- A timed event more is a line more. -/
theorem timelineEntries_concat (ctx : Context) {e : EventInfo} {t : Py.DateTime}
    (ht : parse (some e.timestamp) = some t) :
    (timelineEntries { ctx with events := ctx.events ++ [e] }).length =
      (timelineEntries ctx).length + 1 := by
  simp only [timelineEntries, List.filterMap_append, List.filterMap_cons, ht, Option.map_some,
    List.filterMap_nil, List.length_append, List.length_singleton]
  omega

/-- **Necessity**: an event of a foreign name that begins a pod's name gets into the timeline. -/
theorem namesNested_of_isolated (hpods : cl.faults .podList = none)
    (hpdbs : ¬ MeetsNullSelector cl ns subject) (hevents : cl.faults .events = none)
    (h : Isolated cl clusterName ns subject now) : NamesNested cl ns subject := by
  intro p hp name hdash
  by_contra hown
  have hforeign : ownName cl ns subject name = false := Bool.eq_false_iff.mpr hown
  have hdiffer := withEvent_differs hforeign
  have hkept := kept_stray hevents hp hdash hforeign
  -- a normal event moves no anchor, so both collections come through with the same values
  have hanchor : anchorOf (withEvent cl ns (strayEvent name)) ns subject = anchorOf cl ns subject := by
    show failureAnchor (keptEvents _ ns subject) _ _ = failureAnchor (keptEvents cl ns subject) _ _
    rw [hkept, hdiffer.podNames, hdiffer.pods, failureAnchor, firstFailureTime_concat _ rfl]
    rfl
  obtain ⟨pdbs, anchor, recent, hctx, hsecret⟩ := collectFrom_ok hpods hpdbs clusterName now
  have hctx' := @ForeignEventsDiffer.collect_eq _ _ _ _ clusterName now hdiffer hanchor
  rw [hctx, hkept] at hctx'
  have haware := aware_selectEvents subject (podNamesOf cl ns subject) (resultsOf cl ns subject).events
  have hstray : parse (some (eventInfo (strayEvent name)).timestamp) = some demoNow.value :=
    parse_isoformat demoNow
  obtain ⟨lines, hlines, hcount⟩ := @buildTimeline_ok
    { bundleOf cl clusterName ns subject pdbs anchor with recentChange := recent } haware
    fun c hc => (hsecret c hc).2
  obtain ⟨lines', hlines', hcount'⟩ := @buildTimeline_ok
    { bundleOf cl clusterName ns subject pdbs anchor with
      recentChange := recent
      events := keptEvents cl ns subject ++ [eventInfo (strayEvent name)] }
    (fun e he => by
      rcases List.mem_append.mp he with he | he
      · exact haware e he
      · rw [List.mem_singleton.mp he]
        exact awareText_eventInfo _)
    fun c hc => (hsecret c hc).2
  -- but one timeline has a line more
  have hmore := timelineEntries_concat
    { bundleOf cl clusterName ns subject pdbs anchor with recentChange := recent } hstray
  have hsame := h _ hdiffer
  rw [outcome_ok hctx hlines, outcome_ok hctx' hlines'] at hsame
  obtain rfl : lines' = lines := congrArg Prod.snd (Except.ok.inj hsame)
  have hnone : (timelineEntries { bundleOf cl clusterName ns subject pdbs anchor with
      recentChange := recent
      events := keptEvents cl ns subject ++ [eventInfo (strayEvent name)] }).length =
        (timelineEntries { bundleOf cl clusterName ns subject pdbs anchor with
          recentChange := recent }).length + 1 := hmore
  omega

/-! ## Where no event is looked at

The degenerate cases: isolation by failure. -/

/-- A collection that raises before it comes to the events raises whatever they are. -/
theorem isolated_of_raises (h : cl.faults .podList ≠ none ∨ MeetsNullSelector cl ns subject) :
    Isolated cl clusterName ns subject now := by
  intro cl' hdiffer
  -- both collections end with the same exception, before an event matters
  suffices hsame : collectFrom cl' clusterName ns subject now =
      collectFrom cl clusterName ns subject now by rw [outcome, outcome, hsame]
  cases hpods : cl.faults .podList with
  | some e =>
      rw [collectFrom_podList_failed hpods, collectFrom_podList_failed (hdiffer.faults ▸ hpods)]
  | none =>
      have hnull : MeetsNullSelector cl ns subject := h.resolve_left (fun hne => hne hpods)
      have hlabels : selectorLabelsOf cl' ns subject = selectorLabelsOf cl ns subject := by
        rw [selectorLabelsOf, hdiffer.resolve]
        rfl
      have hpdbs : (resultsOf cl' ns subject).pdbs = (resultsOf cl ns subject).pdbs := by
        rw [hdiffer.results]
      rw [collectFrom_eq (hdiffer.faults ▸ hpods), collectFrom_eq hpods, hlabels, hpdbs]
      cases hs : selectPdbs (selectorLabelsOf cl ns subject) (resultsOf cl ns subject).pdbs with
      | error e => rfl
      | ok l => exact absurd hnull (selectPdbs_ok.mp ⟨l, hs⟩)

/-- Events that cannot be read are not told apart either. -/
theorem isolated_of_unread (h : cl.faults .events ≠ none) :
    Isolated cl clusterName ns subject now := by
  intro cl' hdiffer
  apply hdiffer.outcome_eq
  rw [keptEvents, keptEvents, resultsOf_events, resultsOf_events, if_neg h,
    if_neg (hdiffer.faults ▸ h)]
  rfl

/-- **Exactly when foreign events stay out.** For every choice of foreign events the hypotheses and
the timeline are the same, iff every name that ends at a dash inside a pod's name is the subject's
own; or the events are not looked at, because they cannot be read or because the collection raises
before. -/
theorem isolated_iff :
    Isolated cl clusterName ns subject now ↔
      NamesNested cl ns subject ∨ cl.faults .events ≠ none ∨ cl.faults .podList ≠ none ∨
        MeetsNullSelector cl ns subject := by
  constructor
  · intro h
    by_contra hnone
    simp only [not_or, not_not] at hnone
    obtain ⟨hnested, hevents, hpods, hpdbs⟩ := hnone
    exact hnested (namesNested_of_isolated hpods hpdbs hevents h)
  · rintro (hnested | hevents | hraises)
    · exact isolated_of_namesNested hnested
    · exact isolated_of_unread hevents
    · exact isolated_of_raises hraises

/-- A Deployment `web-api` beside a pod called `web`. -/
def webApiClient : Client where
  namespaces _ :=
    { pods := [{ name := "web-api-5d4f-abc", labels := [("app", "web-api")],
                 ownerReferences := [⟨"ReplicaSet", "web-api-5d4f"⟩] }]
      deployments := [{ name := "web-api"
                        selector := { matchLabels := [("app", "web-api")], clean := by decide } }] }

/-- An event of the pod `web` changes the diagnosis of the Deployment `web-api`. -/
theorem web_event_leaks : ¬ Isolated webApiClient "prod" "shop" "web-api" demoNow := by
  intro h
  have hpdbs : ¬ MeetsNullSelector webApiClient "shop" "web-api" := by
    rintro ⟨-, p, hp, -⟩
    cases hp
  have hnested := namesNested_of_isolated rfl hpdbs rfl h
  have hpod : "web-api-5d4f-abc" ∈ podNamesOf webApiClient "shop" "web-api" := by decide
  exact absurd (hnested _ hpod "web" (by decide)) (by decide)

end SreAgent.Rca
