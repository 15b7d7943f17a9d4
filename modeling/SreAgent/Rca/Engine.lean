import SreAgent.Rag.Retrieve
import SreAgent.Rca.Collect

/-!
# The diagnosis

`diagnose` of `rca/engine.py`: collect, evaluate, look up a runbook if that is switched on, and
build the report.

`diagnose` sorts out three outcomes: no hypothesis, one on top with the others as alternatives, or
an exception. The report's own checks are in its type (`RCAReport`).
-/

namespace SreAgent.Rca

/-! ## Parts of a report

Tables and texts that the report is made of. -/

def severityByIssue : List (String × Severity) :=
  [("NodeNotReady", .critical), ("Node MemoryPressure", .high), ("Node DiskPressure", .high),
   ("CrashLoopBackOff", .high), ("Init Container Failure", .high), ("Job Failed", .medium),
   ("Pod Evicted: Ephemeral Storage", .high), ("HPA Cannot Scale", .medium),
   ("PodDisruptionBudget Blocking", .medium), ("OOMKilled", .high), ("ImagePullBackOff", .medium),
   ("ErrImagePull", .medium), ("Pending Pods", .medium)]

/-- `_SEVERITY_BY_ISSUE.get(issue, Severity.medium)`. -/
def severityOf (issue : String) : Severity :=
  ((severityByIssue.find? fun kv => kv.1 == issue).map Prod.snd).getD .medium

/-- The summary of `_degraded_evidence`. -/
def degradedNote (reads : List String) : String :=
  "Partial inputs — reads unavailable for: " ++ Py.join ", " reads ++
    " (least-privilege identity). Analysis proceeded without them."

/-- `_degraded_evidence`: a note, if some read has failed. -/
def degradedEvidence (ctx : Context) : List Evidence :=
  if ctx.degradedReads.isEmpty then []
  else [{ source := "k8s", weight := 0, summary := degradedNote ctx.degradedReads }]

/-- `get_settings().rag_enabled`, and `retrieve.search` as `diagnose` calls it. -/
structure Runbooks where
  enabled : Bool := false
  lookup  : (query : String) → Except Exc (List Rag.Hit) := fun _ => .ok []

/-- The runbook match. Whatever the lookup raises is swallowed. -/
def attachRunbook (rb : Runbooks) (top : Hypothesis) : Hypothesis :=
  if !rb.enabled then top
  else
    match rb.lookup (top.issue ++ " " ++ top.rootCause) with
    | .ok (hit :: _) =>  -- `top_k=1`, so there is at most one
      { top with
        runbook := hit.title
        evidence := top.evidence ++
          [{ source := "kb", summary := "Matched runbook: " ++ hit.title, weight := 0.05 }]
        confidence := min 97 (top.confidence + 3) }
    | _ => top  -- no hit, or an exception, which is only logged

/-- The report when no detector fires. -/
def noFindings (ctx : Context) (ns subject : String) (timeline : List String) : RCAReport where
  severity := .info
  cluster := ctx.cluster
  namespace_ := ns
  subject := subject
  issue := "No known failure signature detected"
  rootCause := "Automated detectors found no matching signature. Inspect logs/metrics manually or widen the window."
  confidence := 20
  evidence :=
    { source := "k8s"
      summary := "No CrashLoop/ImagePull/OOM/probe/node-pressure signatures matched" } ::
      degradedEvidence ctx
  suggestedFix := "Use logs_pod / prom_query / loki_query to investigate directly."
  rollbackRequired := false
  timeline := timeline

/-- The report about the hypothesis on top. `RCAReport` validates its fields, so a rollback target
that is `None` raises. -/
def reportOn (ctx : Context) (ns subject : String) (top : Hypothesis) (others : List Hypothesis)
    (timeline : List String) : Except Exc RCAReport :=
  match top.rollbackTarget with
  | none => .error (.other "ValidationError")  -- the target of a release without a revision
  | some target =>
    let severity := severityOf top.issue
    .ok
      { severity := severity
        cluster := ctx.cluster
        namespace_ := ns
        subject := subject
        issue := top.issue
        rootCause := top.rootCause
        confidence := top.confidence
        evidence := top.evidence
        suggestedFix := top.suggestedFix
        rollbackRequired := top.rollbackRequired
        rollbackTarget := target
        timeline := timeline
        incidentSummary := "[" ++ severity.value ++ "] " ++ top.issue ++ " on " ++ subject ++ " (" ++
          ctx.cluster ++ "/" ++ ns ++ "). Root cause (" ++ toString top.confidence ++
          "% confidence): " ++ top.rootCause ++ " Suggested fix: " ++ top.suggestedFix
        alternativeHypotheses := others.take 3 }

/-- `diagnose`, from the context on. -/
def diagnoseContext (rb : Runbooks) (ctx : Context) (ns subject : String) : Except Exc RCAReport :=
  match evaluate ctx with
  | [] => do
    let timeline ← buildTimeline ctx
    pure (noFindings ctx ns subject timeline)
  | top :: others => do
    -- the note on failed reads comes before the runbook's line
    let top := attachRunbook rb { top with evidence := top.evidence ++ degradedEvidence ctx }
    let timeline ← buildTimeline ctx
    reportOn ctx ns subject top others timeline

/-- `diagnose`: what is collected decides the report, together with the runbooks. -/
def diagnose (w : World) (rb : Runbooks) (cluster : Option String) (ns subject : String) :
    Except Exc RCAReport := do
  let ctx ← collectContext w cluster ns subject
  diagnoseContext rb ctx ns subject

end SreAgent.Rca
