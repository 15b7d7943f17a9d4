import SreAgent.Lib.StableSort
import SreAgent.Rca.Engine

/-!
# What a collected context is

The times a cluster hands out are aware, so no comparison in the correlation raises on a collected
context. `collectFrom_ok` and `collectFrom_inv` then say when `collect_context` returns and what: it
is the bundle of what was read, and only a failed pod list or a budget without selector makes it
raise.

Later modules about diagnoses of a cluster use the two of them instead of unfolding `collectFrom`.
What they have to know of a context is then a field of `bundleOf`.
-/

namespace SreAgent.Rca

open Kube (Client Read Labels Pod Timestamp)

/-! ## Times

Python refuses to compare an aware time with a naive one. The API's stamps are in UTC, `isoformat`
prints the offset and `_parse` reads it, so every time that stems from the cluster is aware. -/

/-- A printed stamp has no `Z`, so replacing it does nothing. -/
theorem notMem_isoChars {d : Py.DateTime} (hutc : d.offset = some 0) : 'Z' ∉ d.isoChars := by
  have hpad : ∀ w n, 'Z' ∉ Py.padded w n := fun w n h =>
    absurd (Py.all_isDigit_padded w n 'Z' h) (by decide)
  have hfraction : 'Z' ∉ (if d.micro = 0 then [] else '.' :: Py.padded 6 d.micro) := by
    split <;> simp [hpad]
  simp only [Py.DateTime.isoChars, hutc, Option.elim_some, Py.isoOffset_zero, Py.isoTime,
    List.mem_append, List.mem_cons, hpad, hfraction]
  decide

/-- A time stamp of the API survives `isoformat` and `_parse`. -/
theorem parse_isoformat (t : Timestamp) : parse (some t.isoformat) = some t.value := by
  have hchars : t.isoformat.toList = t.value.isoChars := String.toList_ofList
  have hne : t.isoformat ≠ "" := by
    intro h
    rw [h] at hchars
    exact absurd (congrArg List.length hchars) (by simp [Py.DateTime.isoChars])
  rw [parse, if_pos (by simpa using hne), Option.getD_some, hchars,
    Py.replace_of_notMem (notMem_isoChars t.utc), Py.fromIsoChars_isoChars t.valid t.utc]

theorem Timestamp.aware (t : Timestamp) : t.value.aware = true := by
  rw [Py.DateTime.aware, t.utc]
  rfl

/-- The time a string stands for, if any, is aware. -/
def AwareText (s : Option String) : Prop := ∀ t, parse s = some t → t.aware = true

/-- So the texts of stamps stand for aware times, and with them the texts of events and those of
secrets. -/
theorem awareText_isoformat (t : Option Timestamp) :
    AwareText (some ((t.map Timestamp.isoformat).getD "")) := by
  intro d hd
  cases t with
  | none => cases hd
  | some t =>
      rw [Option.map_some, Option.getD_some, parse_isoformat] at hd
      rw [← Option.some.inj hd]
      exact Timestamp.aware t

theorem awareText_eventInfo (e : Kube.Event) : AwareText (some (eventInfo e).timestamp) :=
  awareText_isoformat _

theorem awareText_lastChangeTime (s : Kube.Secret) : AwareText (some (lastChangeTime s)) :=
  awareText_isoformat _

/-! ## Correlation of aware times

Where all times are aware nothing raises, and the `Except` falls away. What is left are sorts and
minima over instants. -/

/-- Sorting is by instants, comparing as well, and taking the earlier one. -/
theorem sortByTime_ok {α : Type} {key : α → Py.DateTime} {items : List α}
    (h : ∀ x ∈ items, (key x).aware = true) :
    sortByTime key items =
      .ok (items.insertionSort fun a b => (key a).instant ≤ (key b).instant) := by
  rw [sortByTime, if_pos]
  rw [comparable, Bool.or_eq_true, List.all_map]
  exact .inl (List.all_eq_true.mpr h)

theorem notAfter_ok {d e : Py.DateTime} (hd : d.aware = true) (he : e.aware = true) :
    notAfter d e = .ok (decide (d.instant ≤ e.instant)) := by
  rw [notAfter, Py.DateTime.le?, if_pos (hd.trans he.symm)]

theorem earlier_ok {d e : Py.DateTime} (hd : d.aware = true) (he : e.aware = true) :
    earlier d e = .ok (if d.instant ≤ e.instant then d else e) := by
  rw [earlier, notAfter_ok hd he]
  by_cases h : d.instant ≤ e.instant
  · simp only [h, if_true]
    rfl
  · simp only [h, if_false]
    rfl

def warningTimes (events : List EventInfo) : List Py.DateTime :=
  (events.filter fun e => e.type == some "Warning" && e.timestamp != "").filterMap fun e =>
    parse (some e.timestamp)

/-- The times of warnings are aware if their texts are. -/
theorem aware_warningTimes {events : List EventInfo}
    (h : ∀ e ∈ events, AwareText (some e.timestamp)) : ∀ d ∈ warningTimes events, d.aware = true := by
  intro d hd
  obtain ⟨e, he, hparse⟩ := List.mem_filterMap.mp hd
  exact h e (List.mem_filter.mp he).1 d hparse

/-- The first failure is the earliest of them, so it is found without raising, and aware. -/
theorem firstFailureTime_eq {events : List EventInfo}
    (h : ∀ e ∈ events, AwareText (some e.timestamp)) :
    firstFailureTime events = .ok (StableSort.sort Py.DateTime.instant (warningTimes events)).head? := by
  have hsort := @sortByTime_ok _ id _ (aware_warningTimes h)
  unfold warningTimes at hsort
  unfold firstFailureTime
  dsimp only
  rw [hsort]
  rfl

theorem firstFailureTime_ok {events : List EventInfo}
    (h : ∀ e ∈ events, AwareText (some e.timestamp)) :
    ∃ t, firstFailureTime events = .ok t ∧ ∀ d ∈ t, d.aware = true := by
  refine ⟨_, firstFailureTime_eq h, fun d hd => aware_warningTimes h d ?_⟩
  exact (List.mem_insertionSort _).mp (List.mem_of_mem_head? hd)

/-- So is the anchor. -/
theorem failureAnchor_ok {events : List EventInfo} (h : ∀ e ∈ events, AwareText (some e.timestamp))
    (pods : List PodInfo) (podStart : Option Timestamp) :
    ∃ t, failureAnchor events pods podStart = .ok t ∧ ∀ d ∈ t, d.aware = true := by
  obtain ⟨t, ht, haware⟩ := firstFailureTime_ok h
  rw [failureAnchor, ht]
  show ∃ o, (if crashingSinceStart pods = true then _ else _ : Except Exc _) = .ok o ∧ _
  -- the anchor is the earlier of the first warning and the start, if the pod has crashed since
  split
  · cases podStart with
    | none => exact ⟨t, by cases t <;> rfl, haware⟩
    | some start =>
        have hstart := Timestamp.aware start
        cases t with
        | none => exact ⟨_, rfl, fun d hd => by rw [← Option.some.inj hd]; exact hstart⟩
        | some t =>
            have ht' : t.aware = true := haware t rfl
            dsimp only
            rw [earlier_ok ht' hstart]
            refine ⟨_, rfl, fun d hd => ?_⟩
            rw [← Option.some.inj hd]
            split
            · exact ht'
            · exact hstart
  · exact ⟨t, rfl, haware⟩

/-- A loop of `find_recent_change` over aware times. -/
theorem candidatesOf_ok {α : Type} {failure : Py.DateTime} (hf : failure.aware = true)
    {at_ : α → Option String} {mk : α → String → Change} {items : List α}
    (h : ∀ x ∈ items, AwareText (at_ x)) :
    ∃ cs, candidatesOf failure at_ mk items = .ok cs ∧
      ∀ c ∈ cs, c.t.aware = true ∧ ∃ x ∈ items, c.change = mk x ((at_ x).getD "") ∧
        parse (at_ x) = some c.t := by
  induction items with
  | nil => exact ⟨[], rfl, by simp⟩
  | cons x xs ih =>
      obtain ⟨cs, hcs, hmem⟩ := ih fun y hy => h y (List.mem_cons_of_mem _ hy)
      -- what holds of the later items' candidates holds of them in the longer list
      have hlift : ∀ c ∈ cs, c.t.aware = true ∧ ∃ y ∈ x :: xs,
          c.change = mk y ((at_ y).getD "") ∧ parse (at_ y) = some c.t := by
        intro c hc
        obtain ⟨ht, y, hy, hrest⟩ := hmem c hc
        exact ⟨ht, y, List.mem_cons_of_mem _ hy, hrest⟩
      cases hp : parse (at_ x) with
      | none => exact ⟨cs, by simp only [candidatesOf, hp, hcs], hlift⟩
      | some t =>
          have ht : t.aware = true := h x (List.mem_cons_self ..) t hp
          refine ⟨if decide (t.instant ≤ failure.instant) = true
            then ⟨mk x ((at_ x).getD ""), t⟩ :: cs else cs, ?_, ?_⟩
          · simp only [candidatesOf, hp, notAfter_ok ht hf, hcs]
            rfl
          · intro c hc
            split at hc
            · rcases List.mem_cons.mp hc with rfl | hc
              · exact ⟨ht, x, List.mem_cons_self .., rfl, hp⟩
              · exact hlift c hc
            · exact hlift c hc

/-- The latest change is the first among those of its instant, and one of them. -/
theorem latest_isFirst {cs : List Candidate} {c : Candidate} (h : latest cs = some c) :
    StableSort.IsFirst (fun c => c.t.instant) cs c := by
  cases cs with
  | nil => cases h
  | cons d ds =>
      rw [← Option.some.inj h]
      exact StableSort.isFirst_foldl ds d

theorem latest_mem {cs : List Candidate} {c : Candidate} (h : latest cs = some c) : c ∈ cs :=
  (latest_isFirst h).mem

/-- On what `collect_context` has put together so far, `find_recent_change` returns: a change of a
secret, if any. -/
theorem findRecentChange_ok (ctx : Context) (now : Timestamp)
    (hfailure : ∀ d ∈ ctx.firstFailureTime, d.aware = true)
    (hsecrets : ∀ s ∈ ctx.secretChanges, AwareText s.at_) (hsync : ctx.argocdHistory = [])
    (hdeploy : ctx.deployments = []) :
    ∃ c, findRecentChange ctx now.value = .ok c ∧
      ∀ ch ∈ c, ch.kind = .secret ∧ AwareText (some ch.at_) := by
  have hf : (ctx.firstFailureTime.getD now.value).aware = true := by
    cases hft : ctx.firstFailureTime with
    | none => exact Timestamp.aware now
    | some d => exact hfailure d hft
  obtain ⟨cs, hcs, hmem⟩ := @candidatesOf_ok SecretChange _ hf SecretChange.at_
    (fun s t => { kind := .secret, name := s.name, at_ := t }) _ hsecrets
  -- no syncs and no deploys have been collected, so the candidates are the secrets
  have hnone : ∀ mk, candidatesOf (ctx.firstFailureTime.getD now.value) Release.at_ mk [] = .ok [] :=
    fun _ => rfl
  simp only [findRecentChange, hsync, hdeploy, hnone, hcs, bind, Except.bind, List.nil_append]
  cases hl : latest cs with
  | none => exact ⟨none, rfl, by simp⟩
  | some best =>
      obtain ⟨-, s, hs, hchange, hparse⟩ := hmem best (latest_mem hl)
      have hsame : ∀ c ∈ cs.filter (·.change.kind = best.change.kind), c.t.aware = true :=
        fun c hc => (hmem c (List.mem_filter.mp hc).1).1
      dsimp only
      rw [sortByTime_ok hsame]
      refine ⟨_, rfl, fun ch hch => ?_⟩
      obtain rfl := Option.some.inj hch
      rw [hchange]
      refine ⟨rfl, ?_⟩
      have hsome : some ((s.at_).getD "") = s.at_ := by  -- a candidate has a time
        cases hat : s.at_ with
        | none => rw [hat] at hparse; cases hparse
        | some t => rfl
      show AwareText (some ((s.at_).getD ""))
      rw [hsome]
      exact hsecrets s hs

/-- `build_timeline` returns where all its times are aware. -/
theorem buildTimeline_ok {ctx : Context} (hevents : ∀ e ∈ ctx.events, AwareText (some e.timestamp))
    (hchange : ∀ c ∈ ctx.recentChange, AwareText (some c.at_)) :
    ∃ lines, buildTimeline ctx = .ok lines ∧ lines.length = (timelineEntries ctx).length := by
  have haware : ∀ x ∈ timelineEntries ctx, x.1.aware = true := by
    intro x hx
    rcases List.mem_append.mp hx with hx | hx
    · obtain ⟨e, he, hparse⟩ := List.mem_filterMap.mp hx
      obtain ⟨t, ht, rfl⟩ := Option.map_eq_some_iff.mp hparse
      exact hevents e he t ht
    · obtain ⟨c, hc, hparse⟩ := List.mem_filterMap.mp hx
      obtain ⟨t, ht, rfl⟩ := Option.map_eq_some_iff.mp hparse
      exact hchange c (Option.mem_toList.mp hc) t ht
  rw [buildTimeline, sortByTime_ok haware]
  exact ⟨_, rfl, by rw [List.length_map, List.length_insertionSort]⟩

/-! ## The bundle

Two lemmas, one for each direction: `collectFrom_ok` constructs the context, `collectFrom_inv` takes
it apart. Both give the parts that may raise as they came out. -/

variable {cl : Client} {clusterName ns subject : String} {now : Timestamp}

/-- The pods of the subject, by name. -/
def podNamesOf (cl : Client) (ns subject : String) : List String :=
  (resolveSubject cl ns subject).2.podNames

/-- The labels the budgets are selected by. -/
def selectorLabelsOf (cl : Client) (ns subject : String) : Labels :=
  (resolveSubject cl ns subject).2.selectorLabels

/-- What the fan-out for the subject returns. -/
def resultsOf (cl : Client) (ns subject : String) : FanOut :=
  fanOut cl ns (targetPod (podNamesOf cl ns subject))

/-- The events, or nothing if they could not be read. -/
theorem resultsOf_events (cl : Client) (ns subject : String) :
    (resultsOf cl ns subject).events =
      if cl.faults .events = none then (cl.namespaces ns).events else [] := by
  simp only [resultsOf, fanOut, Client.attempt]
  cases cl.faults .events <;> rfl

theorem resultsOf_nodes (cl : Client) (ns subject : String) :
    (resultsOf cl ns subject).nodes = if cl.faults .nodes = none then cl.nodes else [] := by
  simp only [resultsOf, fanOut, Client.attempt]
  cases cl.faults .nodes <;> rfl

/-- The events kept for the subject. -/
def keptEvents (cl : Client) (ns subject : String) : List EventInfo :=
  selectEvents subject (podNamesOf cl ns subject) (resultsOf cl ns subject).events

/-- A budget of the namespace has no selector, and `collect_context` gets to look at it. The loop
reads `spec.selector.match_labels` unguarded, and the whole diagnosis fails. -/
def MeetsNullSelector (cl : Client) (ns subject : String) : Prop :=
  selectorLabelsOf cl ns subject ≠ [] ∧ ∃ p ∈ (resultsOf cl ns subject).pdbs, p.selector = none

/-- Selecting budgets raises on one without a selector, if it gets that far. -/
theorem selectPdbs_ok {labels : Labels} {pdbs : List Kube.PodDisruptionBudget} :
    (∃ l, selectPdbs labels pdbs = .ok l) ↔ ¬ (labels ≠ [] ∧ ∃ p ∈ pdbs, p.selector = none) := by
  unfold selectPdbs
  by_cases hl : labels = []
  · simp [hl]
  · by_cases hp : ∃ p ∈ pdbs, p.selector = none
    · simp [hl, hp]
    · simp [hl, hp]

/-- The events kept have aware times, and so have the secrets. -/
theorem aware_selectEvents (subject : String) (podNames : List String) (events : List Kube.Event) :
    ∀ e ∈ selectEvents subject podNames events, AwareText (some e.timestamp) := by
  intro e he
  obtain ⟨e', -, rfl⟩ := List.mem_map.mp he
  exact awareText_eventInfo e'

theorem aware_secrets (cl : Client) (ns : String) (target : Option String) :
    ∀ s ∈ (fanOut cl ns target).secrets, AwareText s.at_ := by
  intro s hs
  simp only [fanOut, Client.attempt] at hs
  cases hf : cl.faults .secrets with
  | some e => rw [hf] at hs; cases hs
  | none =>
      rw [hf] at hs
      obtain ⟨s', -, rfl⟩ := List.mem_map.mp hs
      exact awareText_lastChangeTime s'

/-- What `collect_context` has put together before `find_recent_change`. -/
def bundleOf (cl : Client) (clusterName ns subject : String) (pdbs : List PdbInfo)
    (anchor : Option Py.DateTime) : Context :=
  bundle cl clusterName ns subject (resolveSubject cl ns subject).1 (resolveSubject cl ns subject).2
    (cl.namespaces ns).pods (resultsOf cl ns subject) pdbs anchor

/-- The failure anchor of the subject. -/
def anchorOf (cl : Client) (ns subject : String) : Except Exc (Option Py.DateTime) :=
  failureAnchor (selectEvents subject (podNamesOf cl ns subject) (resultsOf cl ns subject).events)
    (((cl.namespaces ns).pods.filter fun p => (podNamesOf cl ns subject).contains p.name).map podInfo)
    (podStartTime (cl.namespaces ns).pods (targetPod (podNamesOf cl ns subject)))

/-- The pod list is the one read that is not guarded. -/
theorem collectFrom_podList_failed {e : Exc} (h : cl.faults .podList = some e) :
    collectFrom cl clusterName ns subject now = .error e := by
  rw [collectFrom, Client.attempt, h]
  rfl

/-- Past the pod list, `collect_context` is three computations that may raise, in this order. -/
theorem collectFrom_eq (hpods : cl.faults .podList = none) :
    collectFrom cl clusterName ns subject now =
      (selectPdbs (selectorLabelsOf cl ns subject) (resultsOf cl ns subject).pdbs).bind fun pdbs =>
        (anchorOf cl ns subject).bind fun anchor =>
          (findRecentChange (bundleOf cl clusterName ns subject pdbs anchor) now.value).bind fun recent =>
            .ok { bundleOf cl clusterName ns subject pdbs anchor with recentChange := recent } := by
  have hlist : cl.attempt .podList (.ok (cl.namespaces ns).pods) = .ok (cl.namespaces ns).pods :=
    Kube.Client.attempt_eq_ok.mpr ⟨hpods, rfl⟩
  rw [collectFrom, hlist]
  rfl

/-- **`collect_context` returns** the bundle of what it has read, once the pods are listed and no
budget without selector is met. -/
theorem collectFrom_ok (hpods : cl.faults .podList = none)
    (hpdbs : ¬ MeetsNullSelector cl ns subject) (clusterName : String) (now : Timestamp) :
    ∃ pdbs anchor recent, collectFrom cl clusterName ns subject now =
        .ok { bundleOf cl clusterName ns subject pdbs anchor with recentChange := recent } ∧
      ∀ c ∈ recent, c.kind = .secret ∧ AwareText (some c.at_) := by
  obtain ⟨pdbs, hselect⟩ := selectPdbs_ok.mpr hpdbs
  obtain ⟨anchor, hanchor, hfailure⟩ := failureAnchor_ok
    (aware_selectEvents subject (podNamesOf cl ns subject) (resultsOf cl ns subject).events)
    (((cl.namespaces ns).pods.filter fun p => (podNamesOf cl ns subject).contains p.name).map podInfo)
    (podStartTime (cl.namespaces ns).pods (targetPod (podNamesOf cl ns subject)))
  obtain ⟨recent, hrecent, hsecret⟩ :=
    findRecentChange_ok (bundleOf cl clusterName ns subject pdbs anchor) now hfailure
      (aware_secrets cl ns (targetPod (podNamesOf cl ns subject))) rfl rfl
  refine ⟨pdbs, anchor, recent, ?_, hsecret⟩  -- each part returns by itself, so the collection does
  rw [collectFrom_eq hpods, hselect]
  simp only [Except.bind, anchorOf, hanchor, hrecent]

/-- What `collect_context` returns is such a bundle. -/
theorem collectFrom_inv {ctx : Context} (h : collectFrom cl clusterName ns subject now = .ok ctx) :
    cl.faults .podList = none ∧ ¬ MeetsNullSelector cl ns subject ∧
      ∃ pdbs anchor recent,
        ctx = { bundleOf cl clusterName ns subject pdbs anchor with recentChange := recent } ∧
        ∀ c ∈ recent, c.kind = .secret ∧ AwareText (some c.at_) := by
  cases hpods : cl.faults .podList with
  | some e =>
      rw [collectFrom_podList_failed hpods] at h
      cases h
  | none =>
      -- a null selector among the budgets would have raised
      have hpdbs : ¬ MeetsNullSelector cl ns subject := by
        rw [MeetsNullSelector, ← selectPdbs_ok]
        rw [collectFrom_eq hpods] at h
        cases hs : selectPdbs (selectorLabelsOf cl ns subject) (resultsOf cl ns subject).pdbs with
        | error e => rw [hs] at h; cases h
        | ok l => exact ⟨l, rfl⟩
      obtain ⟨pdbs, anchor, recent, hok, hsecret⟩ := collectFrom_ok hpods hpdbs clusterName now
      exact ⟨rfl, hpdbs, pdbs, anchor, recent, Except.ok.inj (h.symm.trans hok), hsecret⟩

/-! ## The cluster a diagnosis reaches

The guard and the manager come first, so a statement about a diagnosis begins with what they let
through. -/

/-- The name and the clients of the cluster, once the namespace guard has let the request pass. -/
def World.reach (w : World) (cluster : Option String) (ns : String) : Except Exc (String × Client) := do
  let cfg ← ClusterManager.guardNamespace { registry := w.registry } cluster ns
  let cl ← w.clients cfg
  pure (cfg.name, cl)

/-- Guard and manager, then the collection. -/
theorem collectContext_eq (w : World) (cluster : Option String) (ns subject : String) :
    collectContext w cluster ns subject =
      (w.reach cluster ns).bind fun (name, cl) => collectFrom cl name ns subject w.now := by
  unfold collectContext World.reach
  cases ClusterManager.guardNamespace { registry := w.registry } cluster ns with
  | error e => rfl
  | ok cfg =>
      simp only [bind, Except.bind]
      cases w.clients cfg <;> rfl

/-- Once the cluster is reached only the collection matters. -/
theorem collectContext_of_reach {w : World} {cluster : Option String} {name : String}
    (h : w.reach cluster ns = .ok (name, cl)) :
    collectContext w cluster ns subject = collectFrom cl name ns subject w.now := by
  rw [collectContext_eq, h]
  rfl

def demoNow : Timestamp where
  value := { year := 2026, month := 1, day := 1, offset := some 0 }
  valid := by decide
  utc := rfl

/-- A world with one registered cluster, open to every namespace. -/
def demoWorld (cl : Client) : World where
  registry := { clusters := [{ name := "prod", auth := { mode := .kubeconfig } }] }
  clients _ := .ok cl
  now := demoNow

end SreAgent.Rca
