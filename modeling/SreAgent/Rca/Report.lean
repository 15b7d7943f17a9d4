import SreAgent.Rca.Collected
import SreAgent.Rca.Engine
import SreAgent.Rca.Grades
import SreAgent.Rca.Issues
import SreAgent.Rca.RunbookScope
import SreAgent.Lib.StableSort

/-!
# The report as a whole

Whatever the cluster looks like and whichever reads fail, a report that `diagnose` returns is well
formed (`diagnose_wellFormed`): its confidence and weights are in bounds, the alternatives are ranked
below it and each has an issue of its own, and a target goes with a rollback. Its Markdown shows
the report faithfully as long as no field breaks a line (`toMarkdown_eq_iff`).

What the report's class validates is in the type; what it does not is proved here of every report
that is returned.
-/

namespace SreAgent.Rca

/-! ## What `evaluate` promises

A ranked list without repeated issues, and a target only where there is something to roll back. -/

/-- The sort ranks by confidence. -/
theorem evaluate_ranked (ctx : Context) :
    (evaluate ctx).Pairwise fun a b => b.confidence ≤ a.confidence :=
  StableSort.pairwise_rank Hypothesis.confidence _

/-- No two hypotheses have the same issue. -/
theorem evaluate_issues_nodup (ctx : Context) : ((evaluate ctx).map Hypothesis.issue).Nodup := by
  have hreported : ((allDetectors.filterMap fun d => d ctx).map Hypothesis.issue).Nodup := by
    have hdisjoint := (List.nodup_flatMap.mp issues_nodup).2
    rw [allDetectors_eq, List.filterMap_map, List.Nodup, List.pairwise_map, List.pairwise_filterMap]
    refine hdisjoint.imp_of_mem ?_
    intro di di' hdi hdi' hdisj h hh h' hh' heq
    exact hdisj (reports_all _ hdi ctx h hh) (heq ▸ reports_all _ hdi' ctx h' hh')
  exact (((List.perm_insertionSort _ _).map _).nodup_iff).mpr hreported

/-- Where no rollback is asked for, the target has not been touched: -/
theorem creditRelease_target {change : Option Change} {h : Hypothesis}
    (hh : h.rollbackTarget = some "") (hno : (creditRelease change h).rollbackRequired = false) :
    (creditRelease change h).rollbackTarget = some "" := by
  unfold creditRelease at hno ⊢
  split
  · next c =>
      split
      · next hrelease =>
          simp only [if_pos hrelease] at hno
          cases hno
      · exact hh
  · exact hh

/-- not by blaming credentials, and not by blaming the database. -/
theorem crashloopAuth_target (change : Option Change) {h : Hypothesis}
    (hh : h.rollbackTarget = some "") : (crashloopAuth change h).rollbackTarget = some "" := by
  unfold crashloopAuth
  dsimp only
  split
  · split
    · exact hh
    · exact hh
  · exact hh

theorem crashloopReach_target (logs : String) (services : Option (List String)) {h : Hypothesis}
    (hh : h.rollbackTarget = some "") :
    (crashloopReach logs services h).rollbackTarget = some "" := by
  unfold crashloopReach
  dsimp only
  split
  · exact hh
  · exact hh

/-- Without a rollback there is nothing to roll back to. -/
theorem evaluate_target {ctx : Context} {h : Hypothesis} (hh : h ∈ evaluate ctx)
    (hno : h.rollbackRequired = false) : h.rollbackTarget = some "" := by
  rcases crashloop_or_ordinary hh with hcrash | ⟨issues, hordinary⟩
  · cases crashloopDbConnection_iff.mp hcrash with
    | generic => rfl
    | auth    => exact creditRelease_target (crashloopAuth_target _ rfl) hno
    | reach   => exact creditRelease_target (crashloopReach_target _ _ rfl) hno
  · exact hordinary.target

/-! ## Well-formed reports

A report is built in one of two places. In both the fields come from what `evaluate` returns, after
the notes and the runbook have been added to the first hypothesis. -/

/-- The issue of a report that found nothing. -/
def noSignature : String := "No known failure signature detected"

structure RCAReport.WellFormed (r : RCAReport) : Prop where
  /-- Between the 20 of a report without a finding and the cap on a finding with a runbook. -/
  confidence : 20 ≤ r.confidence ∧ r.confidence ≤ 97
  weights    : ∀ e ∈ r.evidence, 0 ≤ e.weight ∧ e.weight ≤ 1
  few        : r.alternativeHypotheses.length ≤ 3
  ranked     : r.alternativeHypotheses.Pairwise fun a b => b.confidence ≤ a.confidence
  headed     : ∀ a ∈ r.alternativeHypotheses, a.confidence ≤ r.confidence
  distinct   : (r.issue :: r.alternativeHypotheses.map Hypothesis.issue).Nodup
  severity   : r.severity = if r.issue = noSignature then .info else severityOf r.issue
  rollback   : r.rollbackRequired = false → r.rollbackTarget = ""

/-- A note counts for nothing. -/
theorem degradedEvidence_weights (ctx : Context) :
    ∀ e ∈ degradedEvidence ctx, 0 ≤ e.weight ∧ e.weight ≤ 1 := by
  unfold degradedEvidence
  split
  · exact fun e he => absurd he List.not_mem_nil
  · rw [List.forall_mem_singleton]
    exact ⟨le_refl 0, zero_le_one⟩

/-- A report without findings is well formed. -/
theorem noFindings_wellFormed (ctx : Context) (ns subject : String) (timeline : List String) :
    (noFindings ctx ns subject timeline).WellFormed where
  confidence := ⟨le_refl 20, (by decide : 20 ≤ 97)⟩
  weights := by
    show ∀ e ∈ _ :: degradedEvidence ctx, _
    rw [List.forall_mem_cons]
    exact ⟨⟨le_refl 0, zero_le_one⟩, degradedEvidence_weights ctx⟩
  few := Nat.zero_le 3
  ranked := .nil
  headed := fun a ha => absurd ha List.not_mem_nil
  distinct := List.nodup_singleton _
  severity := rfl
  rollback := fun _ => rfl

/-- What a runbook match leaves alone, and that it only adds confidence. -/
theorem attachRunbook_spec (rb : Runbooks) (top : Hypothesis) (hcap : top.confidence ≤ 97)
    (hweights : ∀ e ∈ top.evidence, 0 ≤ e.weight ∧ e.weight ≤ 1) :
    (attachRunbook rb top).issue = top.issue ∧
    (attachRunbook rb top).rollbackRequired = top.rollbackRequired ∧
    (attachRunbook rb top).rollbackTarget = top.rollbackTarget ∧
    top.confidence ≤ (attachRunbook rb top).confidence ∧
    (attachRunbook rb top).confidence ≤ 97 ∧
    ∀ e ∈ (attachRunbook rb top).evidence, 0 ≤ e.weight ∧ e.weight ≤ 1 := by
  unfold attachRunbook
  split
  · -- retrieval switched off
    exact ⟨rfl, rfl, rfl, le_refl _, hcap, hweights⟩
  · split
    · refine ⟨rfl, rfl, rfl, le_min hcap (Nat.le_add_right _ _), Nat.min_le_left _ _, ?_⟩
      -- a hit appends one line of evidence, with a weight of its own
      rw [List.forall_mem_append, List.forall_mem_singleton]
      exact ⟨hweights, by norm_num, by norm_num⟩
    · exact ⟨rfl, rfl, rfl, le_refl _, hcap, hweights⟩

/-- No detector reports the issue of a report that found nothing. -/
theorem issue_ne_noSignature {ctx : Context} {h : Hypothesis} (hh : h ∈ evaluate ctx) :
    h.issue ≠ noSignature := by
  obtain ⟨d, hd, hfire⟩ := mem_evaluate.mp hh
  rw [allDetectors_eq] at hd
  obtain ⟨⟨d, issues⟩, hmem, rfl⟩ := List.mem_map.mp hd
  have hissue : h.issue ∈ issuesByDetector.flatMap Prod.snd :=
    List.mem_flatMap.mpr ⟨_, hmem, reports_all _ hmem ctx h hfire⟩
  intro heq
  rw [heq] at hissue
  have hnone : noSignature ∉ (issuesByDetector.flatMap Prod.snd) := by
    show noSignature ∉ (_ : List String)
    decide
  exact hnone hissue

/-- A report about the hypothesis on top is well formed. -/
theorem reportOn_wellFormed {ctx : Context} {ns subject : String} {top : Hypothesis}
    {others : List Hypothesis} {timeline : List String} {rb : Runbooks} {report : RCAReport}
    (hevaluate : evaluate ctx = top :: others)
    (h : reportOn ctx ns subject
      (attachRunbook rb { top with evidence := top.evidence ++ degradedEvidence ctx }) others timeline =
        .ok report) : report.WellFormed := by
  have htop : top ∈ evaluate ctx := hevaluate ▸ List.mem_cons_self
  have hgraded := evaluate_graded htop
  obtain ⟨hissue, hrequired, htarget, hraised, hcapped, hweights⟩ := attachRunbook_spec rb
    { top with evidence := top.evidence ++ degradedEvidence ctx }
    (hgraded.most.trans (by decide)) (by
      show ∀ e ∈ top.evidence ++ degradedEvidence ctx, _
      rw [List.forall_mem_append]
      exact ⟨fun e he => ⟨(hgraded.weighed e he).pos.le, (hgraded.weighed e he).le_one⟩,
        degradedEvidence_weights ctx⟩)
  -- the alternatives are a prefix of the ranked list behind its head
  have hranked := evaluate_ranked ctx
  have hnodup := evaluate_issues_nodup ctx
  rw [hevaluate] at hranked hnodup
  obtain ⟨hbelow, hothers⟩ := List.pairwise_cons.mp hranked
  unfold reportOn at h
  split at h
  · cases h
  · next target htarget' =>
      cases h
      constructor
      case confidence =>  -- the runbook may raise the head's score, up to 97 and never down
        exact ⟨((by decide : 20 ≤ 40).trans hgraded.least).trans hraised, hcapped⟩
      case weights => exact hweights
      case few => exact List.length_take_le _ _
      case ranked => exact hothers.sublist (List.take_sublist _ _)
      case headed =>
        intro a ha
        exact (hbelow a (List.mem_of_mem_take ha)).trans hraised
      case distinct =>
        show ((attachRunbook rb _).issue :: (others.take 3).map Hypothesis.issue).Nodup
        rw [hissue, List.map_take]
        exact hnodup.sublist ((List.take_sublist _ _).cons_cons _)
      case severity =>
        show severityOf (attachRunbook rb _).issue =
          if (attachRunbook rb _).issue = noSignature then _ else _
        rw [hissue, if_neg (issue_ne_noSignature htop)]
      case rollback =>  -- only a hypothesis that asks for a rollback carries a target
        intro hno
        have hsome := evaluate_target htop (hrequired.symm.trans hno)
        rw [htarget'] at htarget
        exact Option.some.inj (htarget.trans hsome)

/-- These are all the reports there are. -/
theorem diagnoseContext_wellFormed {rb : Runbooks} {ctx : Context} {ns subject : String}
    {report : RCAReport} (h : diagnoseContext rb ctx ns subject = .ok report) :
    report.WellFormed := by
  unfold diagnoseContext at h
  split at h
  · cases htimeline : buildTimeline ctx with
    | error e =>
        rw [htimeline] at h
        cases h
    | ok timeline =>
        rw [htimeline] at h
        cases h
        exact noFindings_wellFormed ctx ns subject timeline
  · next top others hevaluate =>
      cases htimeline : buildTimeline ctx with
      | error e =>
          simp only [htimeline] at h
          cases h
      | ok timeline =>
          simp only [htimeline] at h
          exact reportOn_wellFormed hevaluate h

/-- **Every report is well formed**, of whatever cluster and with whatever runbooks. -/
theorem diagnose_wellFormed (w : World) (rb : Runbooks) (cluster : Option String)
    (ns subject : String) {report : RCAReport} (h : diagnose w rb cluster ns subject = .ok report) :
    report.WellFormed := by
  unfold diagnose at h
  cases hctx : collectContext w cluster ns subject with
  | error e =>
      rw [hctx] at h
      cases h
  | ok ctx =>
      rw [hctx] at h
      exact diagnoseContext_wellFormed h

/-- A node that is not ready. -/
theorem diagnose_wellFormed_darkNode :
    ∃ report, diagnose (demoWorld downClient) {} (some "prod") "shop" "api" = .ok report ∧
      report.issue = "NodeNotReady" ∧ report.WellFormed := by
  have hissue : (diagnose (demoWorld downClient) {} (some "prod") "shop" "api").map
      RCAReport.issue = .ok "NodeNotReady" := by decide +kernel
  cases h : diagnose (demoWorld downClient) {} (some "prod") "shop" "api" with
  | error e =>
      rw [h] at hissue
      cases hissue
  | ok report =>
      rw [h] at hissue
      exact ⟨report, rfl, Except.ok.inj hissue, diagnose_wellFormed _ _ _ _ _ h⟩

/-! ## The Markdown

The text is a template with the fields put in, line by line. It can be taken apart again where the
number of lines of each field is known: one, if no field breaks a line. The evidence is the only
part whose length varies, and the empty line behind it ends it. -/

def RCAReport.rb (r : RCAReport) : String :=
  if r.rollbackRequired then "Yes — roll back to " ++ r.rollbackTarget else "No"

def RCAReport.toMarkdown (r : RCAReport) : String :=
  let ev := Py.join "\n" (r.evidence.map fun e => "- " ++ e.summary)
  "**Severity:** " ++ r.severity.value ++ "\n\n" ++
  "**Cluster / Namespace:** " ++ r.cluster ++ " / " ++ r.namespace_ ++ "\n\n" ++
  "**Subject:** " ++ r.subject ++ "\n\n" ++
  "**Issue:** " ++ r.issue ++ "\n\n" ++
  "**Root Cause:** " ++ r.rootCause ++ "\n\n" ++
  "**Evidence:**\n" ++ ev ++ "\n\n" ++
  "**Confidence:** " ++ toString r.confidence ++ "%\n\n" ++
  "**Suggested Fix:** " ++ r.suggestedFix ++ "\n\n" ++
  "**Rollback Required:** " ++ r.rb ++ "\n"

/-- What a reader sees of a report. -/
structure Shown where
  severity     : Severity
  place        : String
  subject      : String
  issue        : String
  rootCause    : String
  summaries    : List String
  confidence   : Nat
  suggestedFix : String
  rb           : String
  deriving DecidableEq, Repr

def RCAReport.shown (r : RCAReport) : Shown where
  severity := r.severity
  place := r.cluster ++ " / " ++ r.namespace_
  subject := r.subject
  issue := r.issue
  rootCause := r.rootCause
  summaries := r.evidence.map Evidence.summary
  confidence := r.confidence
  suggestedFix := r.suggestedFix
  rb := r.rb

/-- No text of it breaks a line. -/
structure Shown.OneLine (s : Shown) : Prop where
  place        : '\n' ∉ s.place.toList
  subject      : '\n' ∉ s.subject.toList
  issue        : '\n' ∉ s.issue.toList
  rootCause    : '\n' ∉ s.rootCause.toList
  summaries    : ∀ t ∈ s.summaries, '\n' ∉ t.toList
  suggestedFix : '\n' ∉ s.suggestedFix.toList
  rb           : '\n' ∉ s.rb.toList

/-- The lines of the evidence; no evidence still leaves an empty line. -/
def Shown.evidenceLines (s : Shown) : List String :=
  if s.summaries = [] then [""] else s.summaries.map ("- " ++ ·)

def Shown.head (s : Shown) : List String :=
  ["**Severity:** " ++ s.severity.value, "", "**Cluster / Namespace:** " ++ s.place, "",
   "**Subject:** " ++ s.subject, "", "**Issue:** " ++ s.issue, "",
   "**Root Cause:** " ++ s.rootCause, "", "**Evidence:**"]

def Shown.tail (s : Shown) : List String :=
  ["", "**Confidence:** " ++ toString s.confidence ++ "%", "",
   "**Suggested Fix:** " ++ s.suggestedFix, "", "**Rollback Required:** " ++ s.rb, ""]

def Shown.lines (s : Shown) : List String := s.head ++ (s.evidenceLines ++ s.tail)

/-- One line, joined, is itself; a first line is set off from the others, and so are the first lines
from the rest. -/
theorem join_singleton (sep w : String) : Py.join sep [w] = w := by
  rw [Py.join, List.map_singleton, List.intercalate_singleton, String.ofList_toList]

theorem join_cons (sep w : String) {ws : List String} (hne : ws ≠ []) :
    Py.join sep (w :: ws) = w ++ (sep ++ Py.join sep ws) := by
  have hne' : ws.map String.toList ≠ [] := by
    simpa using hne
  rw [Py.join, List.map_cons, List.intercalate_cons_of_ne_nil hne', String.ofList_append,
    String.ofList_append, String.ofList_toList, String.ofList_toList, String.append_assoc]
  rfl

theorem join_append (sep : String) {vs ws : List String} (hv : vs ≠ []) (hw : ws ≠ []) :
    Py.join sep (vs ++ ws) = Py.join sep vs ++ (sep ++ Py.join sep ws) := by
  induction vs with
  | nil => exact absurd rfl hv
  | cons v vs ih =>
      rcases eq_or_ne vs [] with rfl | hvs
      · rw [List.singleton_append, join_cons sep v hw, join_singleton]
      · rw [List.cons_append, join_cons sep v (by simp [hvs]), join_cons sep v hvs, ih hvs,
          String.append_assoc, String.append_assoc]

theorem join_evidenceLines (s : Shown) :
    Py.join "\n" s.evidenceLines = Py.join "\n" (s.summaries.map ("- " ++ ·)) := by
  unfold Shown.evidenceLines
  split
  · next hnone =>
      rw [hnone]
      rfl
  · rfl

/-- The template is its lines, joined. -/
theorem toMarkdown_eq (r : RCAReport) : r.toMarkdown = Py.join "\n" r.shown.lines := by
  have hev : r.shown.evidenceLines ≠ [] := by
    unfold Shown.evidenceLines
    split <;> simp_all
  have hsummaries : r.shown.summaries.map ("- " ++ ·) = r.evidence.map fun e => "- " ++ e.summary :=
    List.map_map
  -- the source writes line breaks into its literals: they are cut into the lines between them
  have htwo : "\n\n" = "\n" ++ "\n" := rfl
  have hlabel : "**Evidence:**\n" = "**Evidence:**" ++ "\n" := rfl
  have hpercent : "%\n\n" = "%" ++ ("\n" ++ "\n") := rfl
  rw [Shown.lines, join_append _ (by simp [Shown.head]) (by simp [hev]),
    join_append _ hev (by simp [Shown.tail]), join_evidenceLines, hsummaries]
  unfold RCAReport.toMarkdown
  simp only [Shown.head, Shown.tail, RCAReport.shown, join_cons, join_singleton, ne_eq, reduceCtorEq,
    not_false_eq_true, htwo, hlabel, hpercent, String.append_assoc, String.empty_append,
    String.append_empty, -String.reduceAppend]

theorem Severity.value_inj {a b : Severity} (h : a.value = b.value) : a = b := by
  cases a <;> cases b <;> first | rfl | exact absurd h (by decide)

theorem toString_nat_inj {m n : Nat} (h : toString m = toString n) : m = n := by
  have hdigits : Nat.toDigits 10 m = Nat.toDigits 10 n := by
    simpa only [Nat.toString_eq_repr, Nat.toList_repr] using congrArg String.toList h
  have hm := Nat.ofDigitChars_ten_toDigits (n := m)
  rw [hdigits, Nat.ofDigitChars_ten_toDigits] at hm
  exact hm.symm

/-- An empty line is no line of evidence. -/
theorem empty_ne_evidence (t : String) : "" ≠ "- " ++ t := by
  intro heq
  have hlist : [] = '-' :: ' ' :: t.toList := by
    simpa using congrArg String.toList heq
  cases hlist

/-- The lines of the evidence show the summaries. -/
theorem evidenceLines_inj {s s' : Shown} (h : s.evidenceLines = s'.evidenceLines) :
    s.summaries = s'.summaries := by
  unfold Shown.evidenceLines at h
  split at h
  · next hs =>
      split at h
      · next hs' => rw [hs, hs']
      · cases hs' : s'.summaries with
        | nil => exact hs
        | cons t ts =>
            rw [hs', List.map_cons] at h
            -- a bullet is never the line that stands for no evidence
            exact absurd (List.cons.inj h).1 (empty_ne_evidence t)
  · split at h
    · next hs' =>
        cases hs : s.summaries with
        | nil => exact hs'.symm
        | cons t ts =>
            rw [hs, List.map_cons] at h
            exact absurd (List.cons.inj h).1.symm (empty_ne_evidence t)
    · exact List.map_injective_iff.mpr (fun t u => (String.append_right_inj "- ").mp) h

/-- All lines together show the report. -/
theorem lines_inj {s s' : Shown} (h : s.lines = s'.lines) : s = s' := by
  obtain ⟨hhead, hrest⟩ := List.append_inj h rfl
  obtain ⟨hevidence, htail⟩ := List.append_inj' hrest rfl
  simp only [Shown.head, List.cons.injEq, String.append_right_inj, and_true, true_and] at hhead
  simp only [Shown.tail, List.cons.injEq, String.append_right_inj, String.append_left_inj, and_true,
    true_and] at htail
  obtain ⟨hseverity, hplace, hsubject, hissue, hcause⟩ := hhead
  obtain ⟨hconfidence, hfix, hrb⟩ := htail
  have hseverity := Severity.value_inj hseverity
  have hconfidence := toString_nat_inj hconfidence
  have hsummaries := evidenceLines_inj hevidence
  cases s
  cases s'
  simp_all

/-- No line of it contains a break. -/
theorem lines_oneLine {s : Shown} (h : s.OneLine) : ∀ w ∈ s.lines, '\n' ∉ w.toList := by
  have hdigits : '\n' ∉ Nat.toDigits 10 s.confidence := by
    intro hmem
    exact absurd (Nat.isDigit_of_mem_toDigits (by decide) (by decide) hmem) (by decide)
  have hseverity : '\n' ∉ s.severity.value.toList := by
    cases s.severity <;> decide
  have hevidence : ∀ w ∈ s.evidenceLines, '\n' ∉ w.toList := by
    unfold Shown.evidenceLines
    split
    · simp
    · simpa using h.summaries
  simp only [Shown.lines, Shown.head, Shown.tail, List.forall_mem_append, List.forall_mem_cons]
  simp [h.place, h.subject, h.issue, h.rootCause, h.suggestedFix, h.rb, hseverity]
  exact ⟨hevidence, hdigits⟩

/-- The lines are read back from the joined text. -/
theorem splitOn_lines {s : Shown} (h : s.OneLine) :
    Py.splitOn '\n' (Py.join "\n" s.lines).toList = s.lines.map String.toList := by
  rw [Py.join, String.toList_ofList]
  apply Py.splitOn_intercalate
  · simp [Shown.lines, Shown.head]
  · rw [List.forall_mem_map]
    exact lines_oneLine h

/-- **The Markdown is faithful**: of reports that break no line, those that read alike show the same. -/
theorem toMarkdown_eq_iff {r r' : RCAReport} (h : r.shown.OneLine) (h' : r'.shown.OneLine) :
    r.toMarkdown = r'.toMarkdown ↔ r.shown = r'.shown := by
  rw [toMarkdown_eq, toMarkdown_eq]
  constructor
  · intro heq
    have hinj : Function.Injective (List.map String.toList) :=
      List.map_injective_iff.mpr fun _ _ => String.toList_inj.mp
    have hlines : r.shown.lines = r'.shown.lines := by
      apply hinj
      rw [← splitOn_lines h, ← splitOn_lines h', heq]
    exact lines_inj hlines
  · intro heq
    rw [heq]

/-- A report about a pod or another. -/
def oomReport (subject : String) : RCAReport where
  severity := .high
  cluster := "prod"
  namespace_ := "shop"
  subject := subject
  issue := "OOMKilled"
  rootCause := "leak"
  confidence := 95
  evidence := [{ source := "k8s", summary := "OOMKilled", weight := 0.6 }]
  suggestedFix := "fix it"
  rollbackRequired := false

/-- Reports about different pods read differently. -/
theorem toMarkdown_eq_iff_oom : (oomReport "api").toMarkdown ≠ (oomReport "web").toMarkdown := by
  have hapi : (oomReport "api").shown.OneLine :=
    ⟨by decide, by decide, by decide, by decide, by decide, by decide, by decide⟩
  have hweb : (oomReport "web").shown.OneLine :=
    ⟨by decide, by decide, by decide, by decide, by decide, by decide, by decide⟩
  intro heq
  have hshown := (toMarkdown_eq_iff hapi hweb).mp heq
  exact absurd (congrArg Shown.subject hshown) (by decide)

/-- A summary that breaks a line passes for two. -/
example (r : RCAReport) :
    { r with evidence := [{ source := "events", summary := "pulled\n- started" }] }.toMarkdown =
      { r with evidence := [{ source := "events", summary := "pulled" },
                            { source := "events", summary := "started" }] }.toMarkdown := by
  rfl

end SreAgent.Rca
