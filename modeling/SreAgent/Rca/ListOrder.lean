import SreAgent.Rca.Reordered
import SreAgent.Rca.RunbookScope

/-!
# Whether a verdict depends on the order of lists

The pod that is described and whose logs are read is the first one listed; of several scheduling
events or bad nodes the first one decides; and phrases are looked for in messages joined in their
order. A diagnosis is the same in every order where none of this makes a difference to what the
detectors get to look at (`Steady`), and where it does, some order makes one of them find something
else (`steady_iff`).

The detectors see a context through a few readings (`Signals`), which are either independent of the
order of lists or depend on one place in them. `Steady` has a clause for each of the latter, guarded
by the detector's own gate: where a detector returns before it looks, the order it would have seen
does not matter.
-/

namespace SreAgent.Rca

open Kube (Client Pod Timestamp)
open TwoRun (Related)

variable {cl cl' : Client} {clusterName ns subject : String} {now : Timestamp} {ctx ctx' : Context}

/-! ## The verdict

What is compared is the issue, the severity and the confidence. Texts may differ: they quote the
event or the node that came first. -/

/-- What a report says, in short. -/
def verdict (report : RCAReport) : String × Severity × Nat :=
  (report.issue, report.severity, report.confidence)

/-- A lookup came back with something. -/
def isHit : Except Exc (List Rag.Hit) → Bool
  | .ok (_ :: _) => true
  | _            => false

/-- The lookup is made, and a runbook is found. -/
def Runbooks.finds (rb : Runbooks) (query : String) : Bool := rb.enabled && isHit (rb.lookup query)

/-- Whether a runbook is found does not depend on the text it is looked up by. -/
def Runbooks.Blind (rb : Runbooks) : Prop := ∀ query query', rb.finds query = rb.finds query'

/-- The world with everything in it as it was, but for the order of the lists that the API returns. -/
structure World.Reordered (w w' : World) (ns : String) : Prop where
  registry : w'.registry = w.registry
  now      : w'.now = w.now
  clients  : ∀ cfg, Related (fun cl cl' => Rca.Reordered cl cl' ns) (w.clients cfg) (w'.clients cfg)

/-- The verdict is the same in every order: the issue, the severity and the confidence do not depend
on how the API server lists the pods, the events and the nodes. -/
def OrderFree (w : World) (rb : Runbooks) (cluster : Option String) (ns subject : String) : Prop :=
  ∀ w', w.Reordered w' ns →
    (diagnose w' rb cluster ns subject).map verdict = (diagnose w rb cluster ns subject).map verdict

/-! ## The runbook lookup

The confidence is raised by three if a runbook is found, so the lookup is part of the verdict. Its
query is made from texts that depend on the order; whether anything is found must not. -/

section Lookup

variable {V : Type}

/-- A limit of at least one row leaves nothing out where there is something. -/
theorem topBy_eq_nil {α : Type} (key : α → ℚ) (n : Nat) (rows : List α) :
    Rag.topBy key (n + 1) rows = [] ↔ rows = [] := by
  rw [Rag.topBy, List.take_eq_nil_iff, ← List.length_eq_zero_iff, List.length_insertionSort,
    List.length_eq_zero_iff]
  simp

/-- Every chunk has a document, so a search comes back empty only where there is nothing to see. -/
theorem hybridSearch_eq_nil (sc : Rag.Scorer V) (kb : Rag.KnowledgeBase V) (qvec : V) (qtext : String)
    (p : Rag.Chunk V → Bool) :
    Rag.hybridSearch sc qvec qtext none 1 (kb.chunks.filter p) kb.documents = [] ↔
      kb.chunks.filter p = [] := by
  have hrows : Rag.vecRows sc qvec none (kb.chunks.filter p) = [] ↔ kb.chunks.filter p = [] := by
    rw [Rag.vecRows, topBy_eq_nil]
    simp
  rw [Rag.hybridSearch, topBy_eq_nil, List.flatMap_eq_nil_iff, ← hrows]
  constructor
  · intro hnone
    rw [List.eq_nil_iff_forall_not_mem]
    intro c hc
    -- a chunk that was ranked belongs to a document, and the join would have kept it
    have hmem := (List.mem_filter.mp (topBy_subset _ _ _ hc)).1
    obtain ⟨d, hd, hid, -⟩ := kb.chunks_owned c (List.mem_filter.mp hmem).1
    have hempty := List.map_eq_nil_iff.mp (hnone c hc)
    exact List.filter_eq_nil_iff.mp hempty d hd (beq_iff_eq.mpr hid)
  · -- without a visible chunk there is nothing to join
    intro hnone c hc
    rw [hnone] at hc
    cases hc

/-- What decides whether `rag.search` finds something. -/
theorem ragRunbooks_finds (sc : Rag.Scorer V) (kb : Rag.KnowledgeBase V) (query : String) :
    (ragRunbooks sc kb).finds query = ((sc.embedQuery query).isOk && sc.connect.isNone &&
      !(kb.chunks.filter (Rag.visible ["default"])).isEmpty) := by
  show (true && isHit (Rag.search sc kb query [] none 1)) = _
  unfold Rag.search
  cases sc.embedQuery query with
  | error e => rfl
  | ok qvec =>
      show (true && isHit (Rag.storeSearch sc kb qvec query ["default"] none 1)) = _
      unfold Rag.storeSearch
      cases sc.connect with
      | some e => rfl
      | none =>
          -- only whether a row comes back matters here, not which one
          have hnil := hybridSearch_eq_nil sc kb qvec query (Rag.visible ["default"])
          dsimp only
          generalize Rag.hybridSearch sc qvec query none 1
            (kb.chunks.filter (Rag.visible ["default"])) kb.documents = hits at hnil ⊢
          generalize kb.chunks.filter (Rag.visible ["default"]) = chunks at hnil ⊢
          cases hits with
          | nil => rw [hnil.mp rfl]; rfl
          | cons hit hits =>
              cases chunks with
              | nil => cases hnil.mpr rfl
              | cons c chunks => rfl

/-- **The lookup is blind**, as long as the embedding service answers every text or none. -/
theorem ragRunbooks_blind {sc : Rag.Scorer V}
    (hembed : ∀ query query', (sc.embedQuery query).isOk = (sc.embedQuery query').isOk)
    (kb : Rag.KnowledgeBase V) : (ragRunbooks sc kb).Blind := by
  intro query query'
  rw [ragRunbooks_finds, ragRunbooks_finds, hembed query query']

end Lookup

/-! ## The verdict by the signals

A verdict is computed from the signals alone. What is collected and added on the way leaves it as it
is. -/

/-- The confidence with a runbook at hand. -/
def backed (found : Bool) (confidence : Nat) : Nat := if found then min 97 (confidence + 3) else confidence

/-- The verdict on the best finding. -/
def Signals.verdict (s : Signals) (found : Bool) : String × Severity × Nat :=
  match s.ranked with
  | []                       => ("No known failure signature detected", .info, 20)
  | (issue, confidence) :: _ => (issue, severityOf issue, backed found confidence)

/-- A runbook raises the confidence and leaves the issue alone. -/
theorem attachRunbook_verdict (rb : Runbooks) (h : Hypothesis) :
    (attachRunbook rb h).issue = h.issue ∧
      (attachRunbook rb h).confidence = backed (rb.finds (h.issue ++ " " ++ h.rootCause)) h.confidence := by
  unfold attachRunbook Runbooks.finds backed
  cases rb.enabled with
  | false => exact ⟨rfl, rfl⟩
  | true =>
      rw [Bool.true_and, if_neg (by simp)]
      split
      · -- a hit adds three points, capped at 97; the issue is left alone
        next hit hits hlookup => exact ⟨rfl, by rw [hlookup]; rfl⟩
      · next hnone =>
        refine ⟨rfl, ?_⟩
        unfold isHit
        split
        · next hlookup => exact (hnone _ _ hlookup).elim
        · rfl

/-- A verdict takes no more of the signals than the detectors do. -/
theorem Signals.verdict_of_read {s t : Signals} (h : t.read = s.read) (found : Bool) :
    t.verdict found = s.verdict found := by
  unfold Signals.verdict Signals.ranked
  rw [← Signals.findings_read t, h, Signals.findings_read]

/-- What is collected comes from a cluster: no release is among the changes. -/
theorem fromCluster_collected (hcollected : collectFrom cl clusterName ns subject now = .ok ctx) :
    FromCluster ctx := by
  obtain ⟨-, -, pdbs, anchor, recent, rfl, hrecent⟩ := collectFrom_inv hcollected
  exact ⟨fun c hc => (hrecent c hc).1, rfl⟩

/-- **A diagnosis is decided by the signals** of what was collected. -/
theorem diagnoseContext_verdict {rb : Runbooks} (hblind : rb.Blind)
    (hcollected : collectFrom cl clusterName ns subject now = .ok ctx) :
    (diagnoseContext rb ctx ns subject).map verdict = .ok ((signals ctx).verdict (rb.finds "")) := by
  obtain ⟨-, -, pdbs, anchor, recent, rfl, hrecent⟩ := collectFrom_inv hcollected
  generalize hctx : ({ bundleOf cl clusterName ns subject pdbs anchor with recentChange := recent } :
    Context) = ctx at *
  have hchange : ctx.recentChange = recent := congrArg Context.recentChange hctx.symm
  have hfrom : FromCluster ctx := ⟨fun c hc => (hrecent c (hchange ▸ hc)).1, by rw [← hctx]; rfl⟩
  have hevents : ∀ e ∈ ctx.events, AwareText (some e.timestamp) := by
    rw [← hctx]
    exact aware_selectEvents _ _ _
  obtain ⟨lines, hlines, -⟩ := buildTimeline_ok hevents fun c hc => (hrecent c (hchange ▸ hc)).2
  -- the hypotheses, as far as the verdict goes, are those of the signals
  have hkeys := key_evaluate hfrom
  unfold diagnoseContext Signals.verdict
  rw [hlines, ← hkeys]
  cases hev : evaluate ctx with
  | nil => rfl
  | cons top others =>
      have hmodest : Modest top := evaluate_modest hfrom.secret (hev ▸ List.mem_cons_self ..)
      have hnoted := attachRunbook_verdict rb { top with evidence := top.evidence ++ degradedEvidence ctx }
      obtain ⟨htarget, -⟩ :=
        attachRunbook_evidence rb { top with evidence := top.evidence ++ degradedEvidence ctx }
      show (reportOn ctx ns subject (attachRunbook rb
        { top with evidence := top.evidence ++ degradedEvidence ctx }) others lines).map verdict = _
      generalize attachRunbook rb { top with evidence := top.evidence ++ degradedEvidence ctx } = shown
        at *
      rw [hblind _ ""] at hnoted
      have hreport : ∃ report, reportOn ctx ns subject shown others lines = .ok report ∧
          verdict report = (shown.issue, severityOf shown.issue, shown.confidence) := by
        rw [reportOn, htarget, hmodest.target]
        exact ⟨_, rfl, rfl⟩
      obtain ⟨report, hok, hverdict⟩ := hreport
      rw [hok, Except.map, hverdict, hnoted.1, hnoted.2]
      rfl

/-! ## What may make a difference

The reading with another pod in front is described by collecting once more with that pod first.
Events and nodes enter by the first that is looked at, messages by the phrases that their order
makes. -/

/-- What is collected with this pod in front. -/
def collectFacing (cl : Client) (clusterName ns subject : String) (now : Timestamp) (pod : String) :
    Except Exc Context :=
  collectResolved cl clusterName ns subject now (resolveSubject cl ns subject).1
    { (resolveSubject cl ns subject).2 with podNames := pod :: (podNamesOf cl ns subject).erase pod }

/-- What is kept of these events. -/
def keptOf (cl : Client) (ns subject : String) (events : List Kube.Event) : List EventInfo :=
  selectEvents subject (podNamesOf cl ns subject) events

/-- What is kept of these pods. -/
def shownOf (cl : Client) (ns subject : String) (pods : List Pod) : List PodInfo :=
  (pods.filter fun p => (podNamesOf cl ns subject).contains p.name).map podInfo

/-- Some container waits for its image, so `image_pull` reads messages. -/
def AwaitsImage (cl : Client) (clusterName ns subject : String) (now : Timestamp) : Prop :=
  ∃ ctx, collectFrom cl clusterName ns subject now = .ok ctx ∧ (signals ctx).frontal.pull ≠ none

/-- Some container waits for its configuration, so `container_config_error` reads messages. -/
def AwaitsConfig (cl : Client) (clusterName ns subject : String) (now : Timestamp) : Prop :=
  ∃ ctx, collectFrom cl clusterName ns subject now = .ok ctx ∧ (signals ctx).frontal.config ≠ none

/-- No order gives the detectors anything else to read: neither does it matter which pod of the
subject comes first, nor which scheduling event, nor which bad node, and no phrase is found or lost
where messages meet that are looked at. -/
structure Steady (cl : Client) (clusterName ns subject : String) (now : Timestamp) : Prop where
  pods       : ∀ pod ∈ podNamesOf cl ns subject,
    (collectFacing cl clusterName ns subject now pod).map readings =
      (collectFrom cl clusterName ns subject now).map readings
  scheduling : ∀ e ∈ scheduleEvents (keptEvents cl ns subject),
    ∀ e' ∈ scheduleEvents (keptEvents cl ns subject), isPvc e.message = isPvc e'.message
  nodes      : ∀ n ∈ (resultsOf cl ns subject).nodes, ∀ n' ∈ (resultsOf cl ns subject).nodes,
    (nodeInfo n).bad = true → (nodeInfo n').bad = true → (nodeInfo n).issue = (nodeInfo n').issue
  pulling    : AwaitsImage cl clusterName ns subject now →
    ∀ events, events.Perm (resultsOf cl ns subject).events →
      pullKnown (pullEvents (keptOf cl ns subject events)) =
        pullKnown (pullEvents (keptEvents cl ns subject))
  configured : AwaitsConfig cl clusterName ns subject now →
    ∀ events, events.Perm (resultsOf cl ns subject).events →
      configKnown (warningEvents (keptOf cl ns subject events)) =
        configKnown (warningEvents (keptEvents cl ns subject))
  evicted    : ∀ pods, pods.Perm (cl.namespaces ns).pods →
    ephemeral (evictedPods (shownOf cl ns subject pods)) =
      ephemeral (evictedPods (shownOf cl ns subject (cl.namespaces ns).pods))

/-- The positional signals with the lists in this order. -/
def positionalIn (cl : Client) (ns subject : String) (events : List Kube.Event) (pods : List Pod)
    (nodes : List Kube.Node) : Positional :=
  positional (keptOf cl ns subject events) (shownOf cl ns subject pods) (nodes.map nodeInfo)

/-- The positional signals of what is collected. -/
theorem positional_collected {resolved : Bool} {r : Resolution}
    (hnames : r.podNames.Perm (podNamesOf cl ns subject))
    (h : collectResolved cl' clusterName ns subject now resolved r = .ok ctx') :
    (signals ctx').positional = positionalIn cl ns subject (resultsOf cl' ns subject).events
      (cl'.namespaces ns).pods (resultsOf cl' ns subject).nodes := by
  obtain ⟨pods, hpods, h⟩ := bind_ok h
  obtain rfl := Except.ok.inj (Kube.Client.attempt_eq_ok.mp hpods).2
  obtain ⟨pdbs, -, h⟩ := bind_ok h
  obtain ⟨anchor, -, h⟩ := bind_ok h
  obtain ⟨recent, -, h⟩ := bind_ok h
  obtain rfl := Except.ok.inj h
  -- the pods' names are used as a set only, so their order does not matter
  have hrelevant : relevant subject r.podNames = relevant subject (podNamesOf cl ns subject) :=
    funext fun name => Reordered.relevant hnames subject name
  have hcontains : r.podNames.contains = (podNamesOf cl ns subject).contains :=
    funext fun name => hnames.contains_eq
  rw [signals_positional, positionalIn, keptOf, shownOf, selectEvents, ← hrelevant, ← hcontains]
  rfl

/-- For the order in which things were listed these are the signals themselves. -/
theorem positional_own (hok : collectFrom cl clusterName ns subject now = .ok ctx) :
    (signals ctx).positional = positionalIn cl ns subject (resultsOf cl ns subject).events
      (cl.namespaces ns).pods (resultsOf cl ns subject).nodes := by
  rw [collectFrom_resolved] at hok
  exact positional_collected (.refl _) hok

/-- **Where nothing makes a difference**, the first event, the first node and the messages of
evicted pods are as good as any other. -/
theorem Steady.positionalIn (h : Steady cl clusterName ns subject now) {events : List Kube.Event}
    {pods : List Pod} {nodes : List Kube.Node}
    (hevents : events.Perm (resultsOf cl ns subject).events)
    (hpods : pods.Perm (cl.namespaces ns).pods) (hnodes : nodes.Perm (resultsOf cl ns subject).nodes) :
    let shown := positionalIn cl ns subject events pods nodes
    let own := positionalIn cl ns subject (resultsOf cl ns subject).events (cl.namespaces ns).pods
      (resultsOf cl ns subject).nodes
    shown.pvc = own.pvc ∧ shown.ephemeral = own.ephemeral ∧ shown.node = own.node := by
  have hall : keptEvents cl ns subject = keptOf cl ns subject (resultsOf cl ns subject).events := rfl
  -- both kept lists are filters of permuted lists, hence permutations of each other
  have hkept : (scheduleEvents (keptOf cl ns subject events)).Perm
      (scheduleEvents (keptEvents cl ns subject)) :=
    (Reordered.selectEvents (List.Perm.refl _) hevents subject).filter _
  have hbad : ((nodes.map nodeInfo).filter NodeInfo.bad).Perm
      (((resultsOf cl ns subject).nodes.map nodeInfo).filter NodeInfo.bad) := (hnodes.map _).filter _
  unfold Rca.positionalIn
  refine ⟨?_, ?_, ?_⟩
  · rw [positional_pvc, positional_pvc, ← hall]
    -- of the events only the first scheduling message is read, and all of them agree
    apply congrArg (fun o : Option Bool => o.getD false)
    apply TwoRun.head?_perm hkept
    exact h.scheduling
  · rw [positional_ephemeral, positional_ephemeral, h.evicted pods hpods]
  · rw [positional_node, positional_node, ← List.head?_filter, ← List.head?_filter]
    -- the first bad node decides, and every bad node reports the same issue
    apply TwoRun.head?_perm hbad
    intro i hi i' hi'
    obtain ⟨himem, hibad⟩ := List.mem_filter.mp hi
    obtain ⟨himem', hibad'⟩ := List.mem_filter.mp hi'
    obtain ⟨n, hn, rfl⟩ := List.mem_map.mp himem
    obtain ⟨n', hn', rfl⟩ := List.mem_map.mp himem'
    exact h.nodes n hn n' hn' hibad hibad'

/-! ## The same readings in every order

A reordering is first made to agree on the pod in front; the rest is then a shuffle of the same
context. The positional readings are compared clause by clause. -/

namespace Reordered

/-- A listing of the reordered cluster is a permutation of the listing. -/
theorem listed (h : Reordered cl cl' ns) :
    Listed cl cl' ns subject fun names names' => names'.Perm names where
  none := .refl _
  one := .refl _
  selected sel := (h.pods.filter sel).map _

/-- So are the names of the subject's pods. -/
theorem podNames (h : Reordered cl cl' ns) :
    (podNamesOf cl' ns subject).Perm (podNamesOf cl ns subject) := (h.resolve h.listed).1

theorem resultsOf_events (h : Reordered cl cl' ns) :
    (resultsOf cl' ns subject).events.Perm (resultsOf cl ns subject).events := (h.fanOut none).events

theorem resultsOf_nodes (h : Reordered cl cl' ns) :
    (resultsOf cl' ns subject).nodes.Perm (resultsOf cl ns subject).nodes := (h.fanOut none).nodes

/-- What is collected from a reordering is shuffled from what is collected with the same pod in
front. -/
theorem collectFrom (h : Reordered cl cl' ns) {names : List String}
    (hnames : names.Perm (podNamesOf cl ns subject))
    (htarget : targetPod (podNamesOf cl' ns subject) = targetPod names) :
    Related Shuffled
      (Rca.collectResolved cl clusterName ns subject now (resolveSubject cl ns subject).1
        { (resolveSubject cl ns subject).2 with podNames := names })
      (Rca.collectFrom cl' clusterName ns subject now) := by
  rw [collectFrom_resolved, (h.resolve h.listed).2]
  exact h.collectResolved (h.podNames.trans hnames.symm) htarget _ _

theorem positional_collectFrom (h : Reordered cl cl' ns)
    (hok : Rca.collectFrom cl' clusterName ns subject now = .ok ctx') :
    (signals ctx').positional = positionalIn cl ns subject (resultsOf cl' ns subject).events
      (cl'.namespaces ns).pods (resultsOf cl' ns subject).nodes :=
  positional_collected h.podNames hok

end Reordered

theorem Steady.collect_facing (h : Steady cl clusterName ns subject now) (hre : Reordered cl cl' ns)
    {names : List String} (hnames : names.Perm (podNamesOf cl ns subject))
    (htarget : targetPod (podNamesOf cl' ns subject) = targetPod names)
    (hsame : (collectResolved cl clusterName ns subject now (resolveSubject cl ns subject).1
        { (resolveSubject cl ns subject).2 with podNames := names }).map readings =
      (collectFrom cl clusterName ns subject now).map readings) :
    Related (fun ctx ctx' => readings ctx' = readings ctx)
      (collectFrom cl clusterName ns subject now) (collectFrom cl' clusterName ns subject now) := by
  have hshuffled := @Reordered.collectFrom cl cl' clusterName ns subject now hre names hnames htarget
  obtain ⟨hpvc, hephemeral, hnode⟩ :=
    h.positionalIn hre.resultsOf_events hre.pods hre.resultsOf_nodes
  generalize hx : collectResolved cl clusterName ns subject now (resolveSubject cl ns subject).1
    { (resolveSubject cl ns subject).2 with podNames := names } = x at hshuffled hsame
  generalize hy : collectFrom cl' clusterName ns subject now = y at hshuffled
  generalize hz : collectFrom cl clusterName ns subject now = z at hsame
  cases hshuffled with
  | error e =>
      cases z with
      | error e' => cases hsame; exact .error e
      | ok ctx => cases hsame
  | @ok ctx₀ ctx' hshuffled =>
      cases z with
      | error e' => cases hsame
      | ok ctx =>
          have hctx : readings ctx₀ = readings ctx := Except.ok.inj hsame
          obtain ⟨hpull, hconfig⟩ := Signals.gates_of_read hctx
          have hown := positional_collected hnames hx
          have hother := hre.positional_collectFrom hy
          refine .ok ((Signals.read_congr hshuffled.signals_eq ?_ ?_ ?_ ?_ ?_).trans hctx)
          · intro hawaits
            rw [hown, hother, Rca.positionalIn, Rca.positionalIn, positional_pullKnown,
              positional_pullKnown]
            exact h.pulling ⟨ctx, hz, hpull ▸ hawaits⟩ _ hre.resultsOf_events
          · intro hawaits
            rw [hown, hother, Rca.positionalIn, Rca.positionalIn, positional_configKnown,
              positional_configKnown]
            exact h.configured ⟨ctx, hz, hconfig ▸ hawaits⟩ _ hre.resultsOf_events
          · rw [hown, hother, hpvc]
          · rw [hown, hother, hephemeral]
          · rw [hown, hother, hnode]

/-- **Where nothing makes a difference**, the detectors read the same in every order. -/
theorem Steady.collect (h : Steady cl clusterName ns subject now) (hre : Reordered cl cl' ns) :
    Related (fun ctx ctx' => readings ctx' = readings ctx)
      (collectFrom cl clusterName ns subject now) (collectFrom cl' clusterName ns subject now) := by
  have hnames := @Reordered.podNames cl cl' ns subject hre
  cases hfront : podNamesOf cl' ns subject with
  | nil =>
      rw [hfront] at hnames
      exact h.collect_facing hre (.refl _) (by rw [hfront, hnames.nil_eq]) rfl
  | cons pod rest =>
      rw [hfront] at hnames
      have hpod : pod ∈ podNamesOf cl ns subject := hnames.mem_iff.mp (List.mem_cons_self ..)
      exact h.collect_facing hre (List.perm_cons_erase hpod).symm (by rw [hfront]; rfl)
        (h.pods pod hpod)

/-- **And the verdict is the same**: a context that the detectors read alike in every order gives
one verdict in every order. -/
theorem Steady.orderFree {w : World} {rb : Runbooks} {cluster : Option String} {name : String}
    (hreach : w.reach cluster ns = .ok (name, cl)) (hblind : rb.Blind)
    (h : Steady cl name ns subject w.now) : OrderFree w rb cluster ns subject := by
  intro w' hw
  have hreached : Related (fun x x' => x = (name, cl) ∧ x'.1 = name ∧ Rca.Reordered cl x'.2 ns)
      (w.reach cluster ns) (w'.reach cluster ns) := by
    unfold World.reach at hreach ⊢
    rw [hw.registry]
    obtain ⟨cfg, hguard, hreach⟩ := bind_ok hreach
    obtain ⟨cl₀, hcl, hreach⟩ := bind_ok hreach
    obtain ⟨rfl, rfl⟩ := Prod.mk.inj (Except.ok.inj hreach)
    rw [hguard]
    have hclients := hw.clients cfg
    rw [hcl] at hclients
    obtain ⟨cl', hcl', hre⟩ := hclients.of_ok
    show Related _ (w.clients cfg >>= _) (w'.clients cfg >>= _)
    rw [hcl, hcl']
    exact .ok ⟨rfl, rfl, hre⟩
  rw [hreach] at hreached
  obtain ⟨⟨name', cl'⟩, hreach', -, rfl, hre⟩ := hreached.of_ok
  unfold diagnose
  rw [collectContext_of_reach hreach, collectContext_of_reach hreach', hw.now]
  have hcollect := h.collect hre
  cases hok : collectFrom cl name' ns subject w.now with
  | error e =>
      rw [hok] at hcollect
      generalize collectFrom cl' name' ns subject w.now = y at hcollect
      cases hcollect
      rfl
  | ok ctx =>
      rw [hok] at hcollect
      obtain ⟨ctx', hok', hread⟩ := hcollect.of_ok
      rw [hok']
      show (diagnoseContext rb ctx' ns subject).map verdict = (diagnoseContext rb ctx ns subject).map verdict
      rw [diagnoseContext_verdict hblind hok', diagnoseContext_verdict hblind hok,
        Signals.verdict_of_read hread]

/-! ## Something else in some order

The other direction needs orders that exist: any order of pods, events and nodes is the order of
some reordered cluster. From one in which a detector reads something else, a clause of `Steady`
fails. -/

/-- The cluster with its lists in this order. -/
def relisted (cl : Client) (ns : String) (pods : List Pod)
    (hpods : pods.Perm (cl.namespaces ns).pods) (events : List Kube.Event) (nodes : List Kube.Node) :
    Client where
  namespaces := Function.update cl.namespaces ns
    { cl.namespaces ns with
      pods := pods
      pods_nodup := (hpods.map Pod.name).nodup_iff.mpr (cl.namespaces ns).pods_nodup
      events := events }
  nodes := nodes
  faults := cl.faults

/-- The namespace with its lists replaced, which is a reordering if each list is a permutation. -/
theorem relisted_namespace {pods : List Pod} (hpods : pods.Perm (cl.namespaces ns).pods)
    (events : List Kube.Event) (nodes : List Kube.Node) :
    (relisted cl ns pods hpods events nodes).namespaces ns =
      { cl.namespaces ns with
        pods := pods
        pods_nodup := (hpods.map Pod.name).nodup_iff.mpr (cl.namespaces ns).pods_nodup
        events := events } := Function.update_self ..

theorem relisted_reordered {pods : List Pod} (hpods : pods.Perm (cl.namespaces ns).pods)
    {events : List Kube.Event} (hevents : events.Perm (cl.namespaces ns).events)
    {nodes : List Kube.Node} (hnodes : nodes.Perm cl.nodes) :
    Reordered cl (relisted cl ns pods hpods events nodes) ns := by
  have hns := relisted_namespace hpods events nodes
  exact
    { pods := by rw [hns]; exact hpods
      events := by rw [hns]; exact hevents
      nodes := hnodes
      rest := by rw [hns]; rfl
      faults := rfl }

/-- What cannot be read comes in every order. -/
theorem exists_listing {α : Type} {fault : Option Exc} {own listed : List α}
    (h : listed.Perm (if fault = none then own else [])) :
    ∃ own', own'.Perm own ∧ (if fault = none then own' else []) = listed := by
  by_cases hread : fault = none
  · rw [if_pos hread] at h
    exact ⟨listed, h, if_pos hread⟩
  · rw [if_neg hread] at h
    exact ⟨own, .refl _, by rw [if_neg hread, h.eq_nil]⟩

/-- Every order of what was read is the order of some reordering. -/
theorem exists_reordered {events : List Kube.Event} {pods : List Pod} {nodes : List Kube.Node}
    (hevents : events.Perm (resultsOf cl ns subject).events)
    (hpods : pods.Perm (cl.namespaces ns).pods) (hnodes : nodes.Perm (resultsOf cl ns subject).nodes) :
    ∃ cl', Reordered cl cl' ns ∧ (resultsOf cl' ns subject).events = events ∧
      (cl'.namespaces ns).pods = pods ∧ (resultsOf cl' ns subject).nodes = nodes := by
  rw [resultsOf_events] at hevents
  rw [resultsOf_nodes] at hnodes
  obtain ⟨events', hevents', hread⟩ := exists_listing hevents
  obtain ⟨nodes', hnodes', hread'⟩ := exists_listing hnodes
  have hns := relisted_namespace hpods events' nodes'
  refine ⟨_, relisted_reordered hpods hevents' hnodes', ?_, by rw [hns], ?_⟩
  · rw [resultsOf_events, hns]
    exact hread
  · rw [resultsOf_nodes]
    exact hread'

/-- Reordering makes no collection raise. -/
theorem Reordered.collects (h : Reordered cl cl' ns)
    (hok : Rca.collectFrom cl clusterName ns subject now = .ok ctx) :
    ∃ ctx', Rca.collectFrom cl' clusterName ns subject now = .ok ctx' := by
  obtain ⟨hlist, hselector, -⟩ := collectFrom_inv hok
  have hlabels : selectorLabelsOf cl' ns subject = selectorLabelsOf cl ns subject :=
    congrArg (fun x => x.2.selectorLabels) (h.resolve h.listed).2
  have hpdbs : (resultsOf cl' ns subject).pdbs = (resultsOf cl ns subject).pdbs := (h.fanOut none).pdbs
  have hselector' : ¬ MeetsNullSelector cl' ns subject := by
    unfold MeetsNullSelector
    rw [hlabels, hpdbs]
    exact hselector
  obtain ⟨pdbs, anchor, recent, hok', -⟩ :=
    collectFrom_ok (h.faults ▸ hlist) hselector' clusterName now
  exact ⟨_, hok'⟩

/-- What the detectors read does not depend on the order of the lists. -/
def SameReadings (cl : Client) (clusterName ns subject : String) (now : Timestamp) (ctx : Context) :
    Prop :=
  ∀ cl' ctx', Reordered cl cl' ns → collectFrom cl' clusterName ns subject now = .ok ctx' →
    readings ctx' = readings ctx

/-- Every order of what was read is collected into some context that reads the same. -/
theorem SameReadings.exists_collected (h : SameReadings cl clusterName ns subject now ctx)
    (hok : collectFrom cl clusterName ns subject now = .ok ctx) {events : List Kube.Event}
    {pods : List Pod} {nodes : List Kube.Node}
    (hevents : events.Perm (resultsOf cl ns subject).events)
    (hpods : pods.Perm (cl.namespaces ns).pods) (hnodes : nodes.Perm (resultsOf cl ns subject).nodes) :
    ∃ ctx', readings ctx' = readings ctx ∧
      (signals ctx').positional = positionalIn cl ns subject events pods nodes := by
  obtain ⟨cl', hre, rfl, rfl, rfl⟩ := exists_reordered hevents hpods hnodes
  obtain ⟨ctx', hok'⟩ := hre.collects hok
  exact ⟨ctx', h cl' ctx' hre hok', hre.positional_collectFrom hok'⟩

/-- A pod of the subject that is listed first is taken first. -/
theorem listed_first {pod : Pod} (hmem : pod ∈ (cl.namespaces ns).pods)
    (hpods : (cl'.namespaces ns).pods = pod :: (cl.namespaces ns).pods.erase pod) :
    Listed cl cl' ns subject fun names names' => pod.name ∈ names → names'.head? = some pod.name where
  none := by simp
  one := by
    intro h
    rw [List.mem_singleton.mp h]
    rfl
  selected sel := by
    intro h
    obtain ⟨pod', hpod', hname⟩ := List.mem_map.mp h
    obtain ⟨hmem', hsel⟩ := List.mem_filter.mp hpod'
    obtain rfl := (cl.namespaces ns).pod_unique hmem' hmem hname
    rw [hpods, List.filter_cons_of_pos hsel]
    rfl

/-- The clause for pods: bring another pod to the front and collect. -/
theorem SameReadings.facing (h : SameReadings cl clusterName ns subject now ctx)
    (hok : collectFrom cl clusterName ns subject now = .ok ctx) {pod : String}
    (hpod : pod ∈ podNamesOf cl ns subject) :
    (collectFacing cl clusterName ns subject now pod).map readings =
      (collectFrom cl clusterName ns subject now).map readings := by
  obtain ⟨p, hmem, rfl⟩ := List.mem_map.mp (podNamesOf_subset cl ns subject hpod)
  obtain ⟨cl', hre, hevents, hpods, hnodes⟩ := @exists_reordered cl ns subject _ _ _ (.refl _)
    (List.perm_cons_erase hmem).symm (.refl _)
  have hhead := (hre.resolve (listed_first hmem hpods)).1 hpod
  obtain ⟨ctx', hok'⟩ := hre.collects hok
  have htarget : targetPod (podNamesOf cl' ns subject) =
      targetPod (p.name :: (podNamesOf cl ns subject).erase p.name) := by
    rw [targetPod, hhead]
    rfl
  have hnames := (List.perm_cons_erase hpod).symm
  have hshuffled := @Reordered.collectFrom cl cl' clusterName ns subject now hre _ hnames htarget
  rw [hok'] at hshuffled
  unfold collectFacing
  generalize hx : collectResolved cl clusterName ns subject now (resolveSubject cl ns subject).1
    { (resolveSubject cl ns subject).2 with
      podNames := p.name :: (podNamesOf cl ns subject).erase p.name } = x at hshuffled
  cases hshuffled with
  | @ok ctx₀ ctx' hshuffled =>
      have hctx' := h cl' ctx' hre hok'
      have hother := hre.positional_collectFrom hok'  -- the pods alone were listed in another order
      rw [hevents, hnodes] at hother
      have hfacing := positional_collected hnames hx
      have hephemeral := (Signals.positional_of_read hctx').2.1
      rw [positional_own hok, ← hfacing] at hephemeral
      have hread : readings ctx' = readings ctx₀ := by
        apply Signals.read_congr hshuffled.signals_eq
        · intro _
          rw [hother, hfacing, Rca.positionalIn, Rca.positionalIn, positional_pullKnown,
            positional_pullKnown]
        · intro _
          rw [hother, hfacing, Rca.positionalIn, Rca.positionalIn, positional_configKnown,
            positional_configKnown]
        · rw [hother, hfacing, Rca.positionalIn, Rca.positionalIn, positional_pvc, positional_pvc]
        · exact hephemeral
        · rw [hother, hfacing, Rca.positionalIn, Rca.positionalIn, positional_node, positional_node]
      rw [hok]
      exact congrArg Except.ok (hread.symm.trans hctx')

/-- The clause for scheduling events: bring another event to the front. -/
theorem SameReadings.scheduling (h : SameReadings cl clusterName ns subject now ctx)
    (hok : collectFrom cl clusterName ns subject now = .ok ctx) {e : EventInfo}
    (he : e ∈ scheduleEvents (keptEvents cl ns subject)) :
    isPvc e.message = (signals ctx).positional.pvc := by
  obtain ⟨hkept, hreason⟩ := List.mem_filter.mp he
  obtain ⟨k, hk, rfl⟩ := List.mem_map.mp hkept
  obtain ⟨hmem, hrelevant⟩ := List.mem_filter.mp hk
  have hfirst : scheduleEvents (keptOf cl ns subject (k :: (resultsOf cl ns subject).events.erase k)) =
      eventInfo k :: scheduleEvents (keptOf cl ns subject ((resultsOf cl ns subject).events.erase k)) := by
    have hcons := @List.filter_cons_of_pos _
      (fun e : Kube.Event => relevant subject (podNamesOf cl ns subject) (e.involvedName.getD "")) k
      ((resultsOf cl ns subject).events.erase k) hrelevant
    unfold keptOf selectEvents scheduleEvents
    rw [hcons, List.map_cons]
    exact @List.filter_cons_of_pos _ (fun e : EventInfo => e.reason == some "FailedScheduling")
      (eventInfo k) _ hreason
  obtain ⟨ctx', hread, hpositional⟩ :=
    h.exists_collected hok (List.perm_cons_erase hmem).symm (.refl _) (.refl _)
  rw [← (Signals.positional_of_read hread).1, hpositional, Rca.positionalIn, positional_pvc, hfirst]
  rfl

/-- The clause for nodes: bring another bad node to the front. -/
theorem SameReadings.nodes (h : SameReadings cl clusterName ns subject now ctx)
    (hok : collectFrom cl clusterName ns subject now = .ok ctx) {n : Kube.Node}
    (hn : n ∈ (resultsOf cl ns subject).nodes) (hbad : (nodeInfo n).bad = true) :
    some (nodeInfo n).issue = (signals ctx).positional.node := by
  obtain ⟨ctx', hread, hpositional⟩ :=
    h.exists_collected hok (.refl _) (.refl _) (List.perm_cons_erase hn).symm
  rw [← (Signals.positional_of_read hread).2.2, hpositional, Rca.positionalIn,
    positional_node, List.map_cons, List.find?_cons_of_pos hbad]
  rfl

/-- **Exactly where the detectors read the same in every order.** -/
theorem steady_iff_readings (hok : collectFrom cl clusterName ns subject now = .ok ctx) :
    Steady cl clusterName ns subject now ↔ SameReadings cl clusterName ns subject now ctx := by
  constructor
  · intro h cl' ctx' hre hok'
    have hcollect := h.collect hre
    rw [hok, hok'] at hcollect
    cases hcollect with
    | ok hsame => exact hsame
  · intro h
    refine
      { pods := fun pod hpod => h.facing hok hpod
        scheduling := ?_
        nodes := ?_
        pulling := ?_
        configured := ?_
        evicted := ?_ }
    · intro e he e' he'
      rw [h.scheduling hok he, h.scheduling hok he']
    · intro n hn n' hn' hbad hbad'
      exact Option.some.inj ((h.nodes hok hn hbad).trans (h.nodes hok hn' hbad').symm)
    · rintro ⟨ctx₀, hok₀, hawaits⟩ events hevents
      obtain rfl := Except.ok.inj (hok.symm.trans hok₀)
      obtain ⟨ctx', hread, hpositional⟩ := h.exists_collected hok hevents (.refl _) (.refl _)
      have hknown := Signals.pullKnown_of_read hread hawaits
      rw [hpositional, positional_own hok, Rca.positionalIn, Rca.positionalIn, positional_pullKnown,
        positional_pullKnown] at hknown
      exact hknown
    · rintro ⟨ctx₀, hok₀, hawaits⟩ events hevents
      obtain rfl := Except.ok.inj (hok.symm.trans hok₀)
      obtain ⟨ctx', hread, hpositional⟩ := h.exists_collected hok hevents (.refl _) (.refl _)
      have hknown := Signals.configKnown_of_read hread hawaits
      rw [hpositional, positional_own hok, Rca.positionalIn, Rca.positionalIn,
        positional_configKnown, positional_configKnown] at hknown
      exact hknown
    · intro pods hpods
      obtain ⟨ctx', hread, hpositional⟩ := h.exists_collected hok (.refl _) hpods (.refl _)
      have hsame := (Signals.positional_of_read hread).2.1
      rw [hpositional, positional_own hok, Rca.positionalIn, Rca.positionalIn, positional_ephemeral,
        positional_ephemeral] at hsame
      exact hsame

/-- What each of the detectors finds, as far as the verdict goes. -/
def found (ctx : Context) : List (Option (String × Nat)) :=
  allDetectors.map fun d => (d ctx).map key

/-- **Exactly where every detector finds the same in every order.** -/
theorem steady_iff (hok : collectFrom cl clusterName ns subject now = .ok ctx) :
    Steady cl clusterName ns subject now ↔
      ∀ cl' ctx', Reordered cl cl' ns → collectFrom cl' clusterName ns subject now = .ok ctx' →
        found ctx' = found ctx := by
  rw [steady_iff_readings hok]
  unfold SameReadings
  refine forall₄_congr fun cl' ctx' _ hok' => ?_
  rw [readings_eq_iff, found, findings_eq (fromCluster_collected hok'), found,
    findings_eq (fromCluster_collected hok)]

/-- **When the verdict does not depend on the order of lists**: where nothing makes a difference. And
where something does, some order makes a detector find something else. -/
theorem orderFree_of_steady {w : World} {rb : Runbooks} {cluster : Option String} {name : String}
    (hreach : w.reach cluster ns = .ok (name, cl)) (hblind : rb.Blind) :
    (Steady cl name ns subject w.now → OrderFree w rb cluster ns subject) ∧
      ∀ ctx, collectFrom cl name ns subject w.now = .ok ctx → ¬ Steady cl name ns subject w.now →
        ∃ cl' ctx', Reordered cl cl' ns ∧ collectFrom cl' name ns subject w.now = .ok ctx' ∧
          found ctx' ≠ found ctx := by
  refine ⟨fun h => h.orderFree hreach hblind, fun ctx hok hunsteady => ?_⟩
  rw [steady_iff hok] at hunsteady
  push Not at hunsteady
  exact hunsteady

/-! ## Two nodes

One cluster in which order plays no part although it might seem so, and one in which it decides
between two reports. -/

/-- A pod in good order, on a cluster with these nodes and events. -/
def nodesClient (nodes : List Kube.Node) (events : List Kube.Event := []) : Client where
  namespaces _ := { pods := [{ name := "api" }], events := events }
  nodes := nodes

/-- A node that is not ready. -/
def lostNode (name : String) : Kube.Node where
  name := name
  conditions := [{ type := "Ready", status := "False" }]

/-- A node that is ready and short of memory. -/
def fullNode (name : String) : Kube.Node where
  name := name
  conditions := [{ type := "Ready", status := "True" }, { type := "MemoryPressure", status := "True" }]

/-- An event of a start that failed. -/
def failedEvent (message : String) : Kube.Event where
  type := "Warning"
  reason := "Failed"
  message := message
  involvedName := "api"

/-- Two nodes that are lost, and two messages that make a phrase in one order only. -/
def lostClient : Client :=
  nodesClient [lostNode "a", lostNode "b"] [failedEvent "was not", failedEvent "found"]

/-- They make no difference: the nodes make the same issue, and no image is waited for, so nobody
reads the messages. -/
theorem lostClient_steady : Steady lostClient "prod" "shop" "api" demoNow where
  pods := by
    intro pod hpod
    have hnames : podNamesOf lostClient "shop" "api" = ["api"] := rfl
    rw [hnames] at hpod
    rw [List.mem_singleton.mp hpod]
    rfl
  scheduling := by
    have hnone : scheduleEvents (keptEvents lostClient "shop" "api") = [] := by decide +kernel
    intro e he
    rw [hnone] at he
    cases he
  nodes := by
    have hissue : ∀ n ∈ [lostNode "a", lostNode "b"], (nodeInfo n).issue = "NodeNotReady" := by decide
    intro n hn n' hn' _ _
    rw [hissue n hn, hissue n' hn']
  pulling := by
    rintro ⟨ctx, hok, hawaits⟩
    have hready : (collectFrom lostClient "prod" "shop" "api" demoNow).map
        (fun ctx => (frontal ctx).pull) = .ok none := by decide +kernel
    rw [hok] at hready
    exact absurd (Except.ok.inj hready) hawaits
  configured := by
    rintro ⟨ctx, hok, hawaits⟩
    have hready : (collectFrom lostClient "prod" "shop" "api" demoNow).map
        (fun ctx => (frontal ctx).config) = .ok none := by decide +kernel
    rw [hok] at hready
    exact absurd (Except.ok.inj hready) hawaits
  evicted := by
    intro pods hpods
    rw [List.perm_singleton.mp hpods]
    rfl

/-- So the verdict on it is the same in every order. -/
theorem orderFree_of_steady_lost : OrderFree (demoWorld lostClient) {} (some "prod") "shop" "api" :=
  (orderFree_of_steady rfl fun _ _ => rfl).1 lostClient_steady

/-- Of a node that is lost and one that is full, the one listed first is reported. -/
theorem lost_or_full :
    (resolveSubject (nodesClient [lostNode "a", fullNode "b"]) "shop" "api").1 = true ∧
      ¬ OrderFree (demoWorld (nodesClient [lostNode "a", fullNode "b"])) {} (some "prod") "shop"
        "api" := by
  refine ⟨by decide, fun hfree => ?_⟩
  have hlost : (diagnose (demoWorld (nodesClient [lostNode "a", fullNode "b"])) {} (some "prod") "shop"
      "api").map verdict = .ok ("NodeNotReady", .critical, 85) := by decide +kernel
  have hfull : (diagnose (demoWorld (nodesClient [fullNode "b", lostNode "a"])) {} (some "prod") "shop"
      "api").map verdict = .ok ("Node MemoryPressure", .high, 85) := by decide +kernel
  have hre : Reordered (nodesClient [lostNode "a", fullNode "b"])
      (nodesClient [fullNode "b", lostNode "a"]) "shop" :=
    { pods := .refl _
      events := .refl _
      nodes := .swap ..
      rest := rfl
      faults := rfl }
  have hsame := hfree (demoWorld (nodesClient [fullNode "b", lostNode "a"]))
    { registry := rfl
      now := rfl
      clients := fun _ => .ok hre }
  rw [hlost, hfull] at hsame
  exact absurd hsame (by decide)

end SreAgent.Rca
