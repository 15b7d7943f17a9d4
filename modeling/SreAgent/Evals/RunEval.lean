import Mathlib.Data.List.Nodup
import Mathlib.Data.Rat.Floor
import SreAgent.Lib.StableSort
import SreAgent.Rca.Detectors

/-!
# The evaluation harness

`evals/run_eval.py` scores the detectors against a labelled dataset and blocks a build on four
gates: top-1 accuracy, confident wrong answers, false positives, and that every case passes.

* **What a green run says** (`exitCode_eq_zero_iff`) — the exit code is 0 exactly when the engine
  does what each case asks (`Expected.Met`) and finds nothing confident on a case that says nothing
  about its issue. So accuracy and confident wrong answers never fail alone.
* **Calibration** (`green_calibrated`) — a green run reports every bucket at 100%.

The harness has more rules than gates. A case fails for any of a list of reasons, and what passes is
compared once more, label by label, for the accuracy. The reasons are kept as texts, as in the
source, and a case passes if there are none.
-/

namespace SreAgent.Evals

open Rca

/-! ## Cases

In a case a key may be missing, null, or given. The harness treats a missing label differently from
a null one: null says that the workload is healthy, missing says nothing at all. -/

/-- The ground truth of a case. A key that is absent is `none`; `issue` and `forbid_issue` may also
be `null`. -/
structure Expected where
  issue             : Option (Option String) := none
  match_            : Option String := none
  minConfidence     : Option ℤ := none
  maxConfidence     : Option ℤ := none
  rollbackRequired  : Option Bool := none
  rootCauseContains : List String := []
  evidenceContains  : List String := []
  evidenceExcludes  : List String := []
  forbidIssue       : Option (Option String) := none
  deriving DecidableEq, Repr

structure Case where
  name     : String
  ctx      : Context
  expected : Expected
  deriving DecidableEq, Repr

structure CaseResult where
  name       : String
  passed     : Bool
  predicted  : Option String
  confidence : Option Nat
  expected   : Option String
  reasons    : List String := []
  deriving DecidableEq, Repr

/-- A dataset: `by_name` loses no case, and no label is the harness's mark of an absent one. -/
structure Dataset where
  cases       : List Case
  names_nodup : (cases.map Case.name).Nodup
  labels_set  : ∀ c ∈ cases, c.expected.issue ≠ some (some "__unset__")

/-! ## Scoring one case

The checks are made in the order of the source. Those for a label are made on the first finding, or
on the first three if the case asks for that. -/

def containsAll (haystack : String) (needles : List String) : List String :=
  needles.filter fun n => !Py.contains (Py.lower haystack) (Py.lower n)

def evidenceText (hyp : Hypothesis) : String := Py.join " || " (hyp.evidence.map Evidence.summary)

/-- `if bad: reasons.append(text)`. -/
def reasonIf (bad : Bool) (text : String) : List String := if bad then [text] else []

def showBool (b : Bool) : String := if b then "True" else "False"

/-- The bounds that a labelled case sets on the first finding. -/
def boundReasons (exp : Expected) (top : Hypothesis) : List String :=
  let confidence : ℤ := top.confidence
  let causeMiss := containsAll top.rootCause exp.rootCauseContains
  let ev := evidenceText top
  let evidenceMiss := containsAll ev exp.evidenceContains
  (exp.minConfidence.elim [] fun least =>
    reasonIf (confidence < least) s!"confidence {confidence} < min {least}") ++
  (exp.maxConfidence.elim [] fun most =>
    reasonIf (confidence > most) s!"confidence {confidence} > max {most}") ++
  (exp.rollbackRequired.elim [] fun wanted =>
    reasonIf (top.rollbackRequired != wanted)
      s!"rollback_required {showBool top.rollbackRequired} != {showBool wanted}") ++
  reasonIf (!causeMiss.isEmpty) s!"root_cause missing {Py.reprList causeMiss}" ++
  reasonIf (!evidenceMiss.isEmpty) s!"evidence missing {Py.reprList evidenceMiss}" ++
  exp.evidenceExcludes.flatMap fun bad =>
    reasonIf (Py.contains (Py.lower ev) (Py.lower bad)) s!"evidence wrongly cites {Py.repr bad}"

/-- Where the label `want` has to stand among the findings. -/
def rankReasons (exp : Expected) (want : String) (hyps : List Hypothesis) : List String :=
  let ranked := (hyps.map Hypothesis.issue).take 3
  let predicted := hyps.head?.map Hypothesis.issue
  if exp.match_ == some "top3" then
    reasonIf (!ranked.contains want) s!"{Py.repr want} not in top-3 {Py.reprList ranked}"
  else
    reasonIf (predicted != some want) s!"top-1 {Py.reprOpt predicted} != expected {Py.repr want}"

/-- The findings of a case whose issue is `null`: none, or at most one of low confidence. -/
def healthyReasons (hyps : List Hypothesis) : List String :=
  hyps.head?.elim [] fun top =>
    reasonIf (50 ≤ top.confidence)
      s!"false positive: {Py.repr top.issue} @ {top.confidence}% (expected none)"

/-- A class that must not appear anywhere. -/
def forbidReasons (exp : Expected) (hyps : List Hypothesis) : List String :=
  match exp.forbidIssue with
  | some (some forbid) =>
      reasonIf (forbid != "" && hyps.any fun h => h.issue == forbid)
        s!"forbidden issue {Py.repr forbid} present"
  | _ => []

/-- `exp.get("issue", "__unset__")`. -/
def Expected.want (exp : Expected) : Option String := exp.issue.getD (some "__unset__")

def issueReasons (exp : Expected) (hyps : List Hypothesis) : List String :=
  match exp.want with
  | none => healthyReasons hyps
  | some want =>
      if want != "__unset__" then
        rankReasons exp want hyps ++ hyps.head?.elim [] (boundReasons exp)
      else []

def reasonsOf (exp : Expected) (hyps : List Hypothesis) : List String :=
  forbidReasons exp hyps ++ issueReasons exp hyps

def scoreCase (case_ : Case) : CaseResult :=
  let hyps := evaluate case_.ctx
  let reasons := reasonsOf case_.expected hyps
  { name := case_.name
    passed := reasons.isEmpty
    predicted := hyps.head?.map Hypothesis.issue
    confidence := hyps.head?.map Hypothesis.confidence
    expected := case_.expected.issue.join
    reasons }

/-! ## The report

What is counted: cases that pass, the labelled ones that are right, the confident ones that are
wrong, and findings where there should be none. Results are matched with their cases by name, which
is why the names have to differ. -/

def minTop1Accuracy : ℚ := 9 / 10
def maxConfidentWrong : Nat := 0
def maxFalsePositives : Nat := 0
def confidentThreshold : Nat := 80

/-- `by_name[name]`: the last case of a name. -/
def byName (cases : List Case) (name : String) : Option Case :=
  cases.reverse.find? fun c => c.name == name

/-- The results whose case, looked up by name, passes `p`. -/
def resultsWhere (cases : List Case) (p : Expected → Bool) (results : List CaseResult) :
    List CaseResult :=
  results.filter fun r => (byName cases r.name).any fun c => p c.expected

/-- The case asserts a concrete top-1 issue. -/
def Expected.isTop1 (exp : Expected) : Bool :=
  exp.issue.join != none && exp.match_ != some "top3" && exp.issue.isSome

/-- The case has no label, be it `null` or absent, and forbids no class. -/
def Expected.isNegative (exp : Expected) : Bool := exp.issue.join == none && exp.forbidIssue.isNone

def CaseResult.correct (r : CaseResult) : Bool := r.predicted == r.expected

/-- The calibration bucket of a confidence. -/
def bucketOf (c : Nat) : Option String :=
  if 95 ≤ c then some "95-100"
  else if 85 ≤ c then some "85-94"
  else if 70 ≤ c then some "70-84"
  else if 50 ≤ c then some "50-69"
  else none

structure Bucket where
  key   : String
  right : Nat := 0
  total : Nat := 0
  deriving DecidableEq, Repr

/-- `buckets[key][1] += 1`, and `buckets[key][0] += 1` if the prediction is right. -/
def Bucket.add (r : CaseResult) (b : Bucket) : Bucket :=
  if bucketOf (r.confidence.getD 0) == some b.key then
    { b with right := b.right + (if r.correct then 1 else 0), total := b.total + 1 }
  else b

def calibrate (top1 : List CaseResult) : List Bucket :=
  top1.foldl (fun buckets r => buckets.map (Bucket.add r))
    [{ key := "50-69" }, { key := "70-84" }, { key := "85-94" }, { key := "95-100" }]

structure Report where
  results        : List CaseResult
  total          : Nat
  passed         : Nat
  top1Accuracy   : ℚ
  top1N          : Nat
  falsePositives : List CaseResult
  confidentWrong : List CaseResult
  calibration    : List Bucket

/-- The quotient is the exact one, not its nearest double. -/
def accuracy (top1 : List CaseResult) : ℚ :=
  if top1.isEmpty then 1 else (top1.filter CaseResult.correct).length / top1.length

def evaluateDataset (cases : List Case) : Report :=
  let results := cases.map scoreCase
  let top1 := resultsWhere cases Expected.isTop1 results
  let negatives := resultsWhere cases Expected.isNegative results
  { results
    total := results.length
    passed := (results.filter CaseResult.passed).length
    top1Accuracy := accuracy top1
    top1N := top1.length
    falsePositives := negatives.filter fun r => r.predicted.isSome && 50 ≤ r.confidence.getD 0
    confidentWrong := top1.filter fun r =>
      !r.correct && confidentThreshold ≤ r.confidence.getD 0
    calibration := calibrate top1 }

/-- The gates of `main`, by name. -/
def Report.gates (rep : Report) : List (String × Bool) :=
  [("top-1 accuracy", minTop1Accuracy ≤ rep.top1Accuracy),
   ("confident-but-wrong", rep.confidentWrong.length ≤ maxConfidentWrong),
   ("false positives", rep.falsePositives.length ≤ maxFalsePositives),
   ("all cases pass", rep.passed == rep.total)]

def Report.exitCode (rep : Report) : Nat := if rep.gates.all Prod.snd then 0 else 1

/-! ## What a case asks

`Met` says what a case asks without the texts. Each check is empty exactly if its clause holds, and
a case passes if all of them are. -/

/-- The first finding of a labelled case keeps the bounds that the case sets. -/
structure Expected.Fits (exp : Expected) (top : Hypothesis) : Prop where
  least    : ∀ n ∈ exp.minConfidence, n ≤ top.confidence
  most     : ∀ n ∈ exp.maxConfidence, top.confidence ≤ n
  rollback : ∀ b ∈ exp.rollbackRequired, top.rollbackRequired = b
  cause    : ∀ n ∈ exp.rootCauseContains, Py.contains (Py.lower top.rootCause) (Py.lower n)
  cites    : ∀ n ∈ exp.evidenceContains, Py.contains (Py.lower (evidenceText top)) (Py.lower n)
  omits    : ∀ n ∈ exp.evidenceExcludes,
    Py.contains (Py.lower (evidenceText top)) (Py.lower n) = false

/-- What a case asks of the findings. -/
structure Expected.Met (exp : Expected) (hyps : List Hypothesis) : Prop where
  forbidden : ∀ i, exp.forbidIssue = some (some i) → i ≠ "" → ∀ h ∈ hyps, h.issue ≠ i
  healthy   : exp.issue = some none → ∀ h ∈ hyps, h.confidence < 50
  first     : ∀ w, exp.issue = some (some w) → exp.match_ ≠ some "top3" →
    ∃ h ∈ hyps.head?, h.issue = w
  ranked    : ∀ w, exp.issue = some (some w) → exp.match_ = some "top3" →
    ∃ h ∈ hyps.take 3, h.issue = w
  bounds    : ∀ w, exp.issue = some (some w) → ∀ top ∈ hyps.head?, exp.Fits top

/-- No reason without something bad. -/
@[simp] theorem reasonIf_eq_nil {bad : Bool} {text : String} :
    reasonIf bad text = [] ↔ bad = false := by
  cases bad <;> simp [reasonIf]

/-- Nothing is missing if every text is contained, in any case. -/
@[simp] theorem containsAll_eq_nil {haystack : String} {needles : List String} :
    containsAll haystack needles = [] ↔
      ∀ n ∈ needles, Py.contains (Py.lower haystack) (Py.lower n) := by
  simp [containsAll, List.filter_eq_nil_iff]

/-- What is checked on a first finding passes without one. -/
theorem elim_eq_nil {α β : Type*} {o : Option α} {f : α → List β} :
    o.elim [] f = [] ↔ ∀ a ∈ o, f a = [] := by
  cases o <;> simp

/-- Each check passes by a rule of its own: the bounds if the finding fits, the forbidden class if
no finding has it. -/
theorem boundReasons_eq_nil {exp : Expected} {top : Hypothesis} :
    boundReasons exp top = [] ↔ exp.Fits top := by
  simp only [boundReasons, List.append_eq_nil_iff, elim_eq_nil, reasonIf_eq_nil,
    List.flatMap_eq_nil_iff, decide_eq_false_iff_not, not_lt, gt_iff_lt, bne_eq_false_iff_eq,
    Bool.not_eq_false', List.isEmpty_iff, containsAll_eq_nil]
  constructor
  · intro h
    obtain ⟨⟨⟨⟨⟨hmin, hmax⟩, hrollback⟩, hcause⟩, hcites⟩, homits⟩ := h
    exact ⟨hmin, hmax, hrollback, hcause, hcites, homits⟩
  · intro h
    exact ⟨⟨⟨⟨⟨h.least, h.most⟩, h.rollback⟩, h.cause⟩, h.cites⟩, h.omits⟩

theorem forbidReasons_eq_nil {exp : Expected} {hyps : List Hypothesis} :
    forbidReasons exp hyps = [] ↔
      ∀ i, exp.forbidIssue = some (some i) → i ≠ "" → ∀ h ∈ hyps, h.issue ≠ i := by
  unfold forbidReasons
  split
  · next forbid hforbid => simp [hforbid]
  · next hforbid =>
      constructor
      · intro _ i hi
        exact (hforbid i hi).elim
      · intro _
        rfl

/-- The findings are ranked by confidence, so the first one speaks for all. -/
theorem head_low_iff (ctx : Context) :
    (∀ top ∈ (evaluate ctx).head?, top.confidence < 50) ↔
      ∀ h ∈ evaluate ctx, h.confidence < 50 := by
  have hsorted : (evaluate ctx).Pairwise fun a b => b.confidence ≤ a.confidence :=
    StableSort.pairwise_rank Hypothesis.confidence _
  cases hfound : evaluate ctx with
  | nil => simp
  | cons top rest =>
      rw [hfound, List.pairwise_cons] at hsorted
      simp only [List.head?_cons, Option.mem_some_iff, forall_eq', List.mem_cons, forall_eq_or_imp]
      constructor
      · intro htop
        -- no later finding is above the first one
        exact ⟨htop, fun h hh => (hsorted.1 h hh).trans_lt htop⟩
      · intro h
        exact h.1

/-- A healthy case passes if its first finding is of low confidence, and the label if the first
finding has it, or one of the first three. -/
theorem healthyReasons_eq_nil {hyps : List Hypothesis} :
    healthyReasons hyps = [] ↔ ∀ top ∈ hyps.head?, top.confidence < 50 := by
  simp [healthyReasons, elim_eq_nil]

theorem rankReasons_eq_nil {exp : Expected} {want : String} {hyps : List Hypothesis} :
    rankReasons exp want hyps = [] ↔
      (exp.match_ ≠ some "top3" → ∃ h ∈ hyps.head?, h.issue = want) ∧
      (exp.match_ = some "top3" → ∃ h ∈ hyps.take 3, h.issue = want) := by
  by_cases hmatch : exp.match_ = some "top3"
  · simp [rankReasons, hmatch, ← List.map_take]
  · simp [rankReasons, hmatch]

/-- A case passes when it gets what it asks for. -/
theorem reasonsOf_eq_nil {exp : Expected} (hset : exp.issue ≠ some (some "__unset__"))
    (ctx : Context) : reasonsOf exp (evaluate ctx) = [] ↔ exp.Met (evaluate ctx) := by
  rw [reasonsOf, List.append_eq_nil_iff, forbidReasons_eq_nil]
  match hissue : exp.issue with
  | none =>  -- no label: only the forbidden class is checked
      have hnone : issueReasons exp (evaluate ctx) = [] := by
        simp [issueReasons, Expected.want, hissue]
      constructor
      · rintro ⟨hforbidden, -⟩
        exact ⟨hforbidden, by simp [hissue], by simp [hissue], by simp [hissue], by simp [hissue]⟩
      · intro h
        exact ⟨h.forbidden, hnone⟩
  | some none =>  -- `null`: the workload is said to be healthy
      have hnull : issueReasons exp (evaluate ctx) = healthyReasons (evaluate ctx) := by
        simp [issueReasons, Expected.want, hissue]
      rw [hnull, healthyReasons_eq_nil, head_low_iff]
      constructor
      · rintro ⟨hforbidden, hhealthy⟩
        exact ⟨hforbidden, fun _ => hhealthy, by simp [hissue], by simp [hissue], by simp [hissue]⟩
      · intro h
        exact ⟨h.forbidden, h.healthy hissue⟩
  | some (some want) =>  -- a label: its place among the findings, and the bounds on the first one
      -- the harness's own mark of an absent label would be taken for one
      have hwant : want ≠ "__unset__" := by
        rintro rfl
        exact hset hissue
      have hlabel : issueReasons exp (evaluate ctx) = rankReasons exp want (evaluate ctx) ++
          (evaluate ctx).head?.elim [] (boundReasons exp) := by
        simp [issueReasons, Expected.want, hissue, hwant]
      rw [hlabel, List.append_eq_nil_iff, rankReasons_eq_nil, elim_eq_nil]
      simp only [boundReasons_eq_nil]
      constructor
      · rintro ⟨hforbidden, ⟨hfirst, hranked⟩, hbounds⟩
        refine ⟨hforbidden, by simp [hissue], ?_, ?_, fun _ _ => hbounds⟩
        · intro w hw
          cases hissue.symm.trans hw
          exact hfirst
        · intro w hw
          cases hissue.symm.trans hw
          exact hranked
      · intro h
        exact ⟨h.forbidden, ⟨h.first want hissue, h.ranked want hissue⟩, h.bounds want hissue⟩

/-! ## What a green run says

The gates overlap. A case that is met is predicted right, so where all cases pass the accuracy is
one and nothing confident is wrong. Only the false positives add something: a case that asks for
nothing passes whatever is found, but is counted there. -/

namespace Dataset

variable (D : Dataset)

/-- The lookup by name finds the case itself. -/
theorem byName_eq {c : Case} (hc : c ∈ D.cases) : byName D.cases c.name = some c := by
  have hfound : (byName D.cases c.name).isSome := by
    rw [byName, List.find?_isSome]
    exact ⟨c, List.mem_reverse.mpr hc, beq_self_eq_true _⟩
  obtain ⟨c', hc'⟩ := Option.isSome_iff_exists.mp hfound
  have hmem : c' ∈ D.cases := List.mem_reverse.mp (List.mem_of_find?_eq_some hc')
  have hname : c'.name = c.name := by simpa using List.find?_some hc'
  rw [hc', List.inj_on_of_nodup_map D.names_nodup hmem hc hname]

/-- A selected result is that of a selected case. -/
theorem mem_resultsWhere {p : Expected → Bool} {r : CaseResult} :
    r ∈ resultsWhere D.cases p (D.cases.map scoreCase) ↔
      ∃ c ∈ D.cases, p c.expected ∧ scoreCase c = r := by
  rw [resultsWhere, List.mem_filter, List.mem_map]
  constructor
  · rintro ⟨⟨c, hc, rfl⟩, hp⟩
    rw [show (scoreCase c).name = c.name from rfl, D.byName_eq hc] at hp
    exact ⟨c, hc, hp, rfl⟩
  · rintro ⟨c, hc, hp, rfl⟩
    rw [show (scoreCase c).name = c.name from rfl, D.byName_eq hc]
    exact ⟨⟨c, hc, rfl⟩, hp⟩

/-- A case of the dataset passes if it is met, and as many pass as there are if all are met. -/
theorem passed_iff {c : Case} (hc : c ∈ D.cases) :
    (scoreCase c).passed ↔ c.expected.Met (evaluate c.ctx) := by
  rw [← reasonsOf_eq_nil (D.labels_set c hc)]
  exact List.isEmpty_iff

theorem passed_eq_total_iff :
    (evaluateDataset D.cases).passed = (evaluateDataset D.cases).total ↔
      ∀ c ∈ D.cases, c.expected.Met (evaluate c.ctx) := by
  show ((D.cases.map scoreCase).filter CaseResult.passed).length =
    (D.cases.map scoreCase).length ↔ _
  rw [List.length_filter_eq_length_iff, List.forall_mem_map]
  exact forall₂_congr fun c hc => D.passed_iff hc

/-- A case that is met and asserts a top-1 issue is predicted right. -/
theorem correct_of_met {c : Case} (htop1 : c.expected.isTop1)
    (hmet : c.expected.Met (evaluate c.ctx)) : (scoreCase c).correct := by
  simp only [Expected.isTop1, Bool.and_eq_true, bne_iff_ne, ne_eq] at htop1
  obtain ⟨⟨hlabel, hmatch⟩, -⟩ := htop1
  match hissue : c.expected.issue with
  | none          => simp [hissue] at hlabel
  | some none     => simp [hissue] at hlabel
  | some (some w) =>
      obtain ⟨h, hhead, hw⟩ := hmet.first w hissue hmatch
      have hhead : (evaluate c.ctx).head? = some h := hhead
      simp [CaseResult.correct, scoreCase, hissue, hhead, hw]

/-- In a run whose cases are all met the labelled predictions are right. -/
theorem top1_correct (hmet : ∀ c ∈ D.cases, c.expected.Met (evaluate c.ctx)) :
    ∀ r ∈ resultsWhere D.cases Expected.isTop1 (D.cases.map scoreCase), r.correct := by
  intro r hr
  obtain ⟨c, hc, htop1, rfl⟩ := D.mem_resultsWhere.mp hr
  exact correct_of_met htop1 (hmet c hc)

/-- Right predictions have an accuracy of one, and none of them is confident and wrong. -/
theorem accuracy_of_correct {top1 : List CaseResult} (h : ∀ r ∈ top1, r.correct) :
    accuracy top1 = 1 := by
  unfold accuracy
  split
  · rfl
  · next hne =>
      have hlength : (top1.length : ℚ) ≠ 0 := by
        simpa using hne
      rw [List.filter_eq_self.mpr h, div_self hlength]

theorem confidentWrong_of_correct
    (h : ∀ r ∈ resultsWhere D.cases Expected.isTop1 (D.cases.map scoreCase), r.correct) :
    (evaluateDataset D.cases).confidentWrong = [] := by
  apply List.filter_eq_nil_iff.mpr
  intro r hr
  simp [h r hr]

/-- A case without a label is no false positive when its findings are of low confidence. -/
theorem falsePositives_eq_nil_iff :
    (evaluateDataset D.cases).falsePositives = [] ↔
      ∀ c ∈ D.cases, c.expected.isNegative → ∀ h ∈ evaluate c.ctx, h.confidence < 50 := by
  -- what is counted of one case is its first finding, if it is confident
  have hcase (c : Case) : ((scoreCase c).predicted.isSome &&
      decide (50 ≤ (scoreCase c).confidence.getD 0)) = false ↔
        ∀ h ∈ evaluate c.ctx, h.confidence < 50 := by
    rw [← head_low_iff]
    cases hhead : (evaluate c.ctx).head? <;> simp [scoreCase, hhead]
  show List.filter _ (resultsWhere D.cases Expected.isNegative (D.cases.map scoreCase)) = [] ↔ _
  rw [List.filter_eq_nil_iff]
  constructor
  · intro h c hc hnegative
    have hr := D.mem_resultsWhere.mpr ⟨c, hc, hnegative, rfl⟩
    exact (hcase c).mp (Bool.eq_false_iff.mpr (h _ hr))
  · intro h r hr
    obtain ⟨c, hc, hnegative, rfl⟩ := D.mem_resultsWhere.mp hr
    exact Bool.eq_false_iff.mp ((hcase c).mpr (h c hc hnegative))

end Dataset

/-- The exit code is 0 if all four gates are open. -/
theorem Report.exitCode_eq_zero {rep : Report} :
    rep.exitCode = 0 ↔ minTop1Accuracy ≤ rep.top1Accuracy ∧ rep.confidentWrong = [] ∧
      rep.falsePositives = [] ∧ rep.passed = rep.total := by
  simp [Report.exitCode, Report.gates, maxConfidentWrong, maxFalsePositives]

/-- **A green run** means that the engine gives each case what it asks for, and finds nothing
confident on a case that has neither a label nor a forbidden class. -/
theorem exitCode_eq_zero_iff (D : Dataset) :
    (evaluateDataset D.cases).exitCode = 0 ↔
      ∀ c ∈ D.cases, c.expected.Met (evaluate c.ctx) ∧
        (c.expected.issue = none → c.expected.forbidIssue = none →
          ∀ h ∈ evaluate c.ctx, h.confidence < 50) := by
  rw [Report.exitCode_eq_zero, D.passed_eq_total_iff, D.falsePositives_eq_nil_iff]
  constructor
  · rintro ⟨-, -, hnegatives, hmet⟩ c hc
    refine ⟨hmet c hc, fun hissue hforbid => hnegatives c hc ?_⟩
    simp [Expected.isNegative, hissue, hforbid]
  · intro h
    have hmet : ∀ c ∈ D.cases, c.expected.Met (evaluate c.ctx) := fun c hc => (h c hc).1
    have hcorrect := D.top1_correct hmet
    refine ⟨?_, D.confidentWrong_of_correct hcorrect, ?_, hmet⟩
    · -- all labelled predictions are right, so the accuracy is 1
      show minTop1Accuracy ≤ accuracy _
      rw [Dataset.accuracy_of_correct hcorrect]
      norm_num [minTop1Accuracy]
    · intro c hc hnegative
      simp only [Expected.isNegative, Bool.and_eq_true, beq_iff_eq, Option.isNone_iff_eq_none]
        at hnegative
      obtain ⟨hunlabelled, hforbid⟩ := hnegative
      -- a case without a label is counted as negative whether its issue is absent or `null`
      match hissue : c.expected.issue with
      | none          => exact (h c hc).2 hissue hforbid
      | some none     => exact (hmet c hc).healthy hissue
      | some (some w) => simp [hissue] at hunlabelled

/-- The out-of-memory case of `core.json`, and a healthy pod. -/
def oomCases : Dataset where
  cases := [
    { name := "oom-killed-rising-memory"
      ctx := {
        describe := { containers := [{ name := "app", lastTerminatedReason := some "OOMKilled" }] }
        pods := [{ name := "api-1", lastTerminated := some "OOMKilled" }]
        memoryTrendRising := true }
      expected := { issue := some (some "OOMKilled"), minConfidence := some 95 } },
    { name := "healthy-running-no-signature"
      ctx := { pods := [{ name := "api-1", phase := some "Running" }] }
      expected := { issue := some none } }]
  names_nodup := by decide
  labels_set := by decide

/-- Both cases get what they ask for, so the build is not blocked. -/
theorem exitCode_eq_zero_iff_oom :
    (evaluateDataset oomCases.cases).exitCode = 0 ∧
      ∀ c ∈ oomCases.cases, c.expected.Met (evaluate c.ctx) := by
  have hgreen : (evaluateDataset oomCases.cases).exitCode = 0 := by decide +kernel
  exact ⟨hgreen, fun c hc => ((exitCode_eq_zero_iff oomCases).mp hgreen c hc).1⟩

/-- The case asks for nothing and passes; the gate on false positives fails. -/
example :
    let asksNothing := oomCases.cases.map fun c => { c with expected := {} }
    (asksNothing.all fun c => (scoreCase c).passed) = true ∧
      (evaluateDataset asksNothing).exitCode = 1 := by
  decide +kernel

/-! ## Calibration

A bucket counts labelled predictions by their confidence, and those of them that are right. It can
only show something where a prediction is wrong. -/

/-- A right prediction keeps the two counts of a bucket equal. -/
theorem Bucket.right_add {r : CaseResult} (hr : r.correct) {b : Bucket} (hb : b.right = b.total) :
    (b.add r).right = (b.add r).total := by
  by_cases hkey : bucketOf (r.confidence.getD 0) = some b.key
  · simp [Bucket.add, hkey, hr, hb]
  · simp [Bucket.add, hkey, hb]

/-- By induction on the results: the two counts stay equal. -/
theorem right_foldl {top1 : List CaseResult} (h : ∀ r ∈ top1, r.correct) (buckets : List Bucket)
    (hb : ∀ b ∈ buckets, b.right = b.total) :
    ∀ b ∈ top1.foldl (fun buckets r => buckets.map (Bucket.add r)) buckets, b.right = b.total := by
  induction top1 generalizing buckets with
  | nil => exact hb
  | cons r top1 ih =>
      apply ih fun r hr => h r (List.mem_cons_of_mem _ hr)
      intro b hb'
      obtain ⟨a, ha, rfl⟩ := List.mem_map.mp hb'
      exact Bucket.right_add (h r List.mem_cons_self) (hb a ha)

/-- **Calibration** says nothing more in a green run: what a bucket counts is all right. -/
theorem green_calibrated (D : Dataset) (h : (evaluateDataset D.cases).exitCode = 0) :
    ∀ b ∈ (evaluateDataset D.cases).calibration, b.right = b.total := by
  obtain ⟨-, -, -, hpassed⟩ := Report.exitCode_eq_zero.mp h
  apply right_foldl (D.top1_correct (D.passed_eq_total_iff.mp hpassed))
  simp

end SreAgent.Evals
