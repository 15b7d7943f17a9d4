import SreAgent.Rca.Correlate

/-!
# Issue detectors

`rca/detectors.py`: fifteen functions from the context bundle to a hypothesis, if their signature is
present, and `evaluate`, which runs them all and sorts what they return.

Each function stands under its name in the source, with the texts of its hypothesis. Those that are
looked at more closely later on are cut into branches, and have a lemma that says when they fire.
-/

namespace SreAgent.Rca

/-! ## Helpers

Logs and messages are joined by blanks and lowered before they are searched; so are they here, since
what lies across two lines matters for some claims. The two regular expressions for hosts are
written as functions of a text's front, and `search` tries one place after the other. -/

/-- A non-empty string. -/
def nonEmpty (s : Option String) : Option String := s.filter (· != "")

/-- `_waiting_reasons`, as a list. -/
def waitingReasons (ctx : Context) : List String :=
  ctx.describe.containers.filterMap (nonEmpty ·.waitingReason) ++
    ctx.pods.filterMap (nonEmpty ·.reason)

def isCrashlooping (ctx : Context) : Bool :=
  (waitingReasons ctx).contains "CrashLoopBackOff" ||
    ctx.describe.containers.any fun c =>
      c.restartCount ≥ 3 && c.lastTerminatedReason == some "Error"

/-- `_all_logs`: the current and the previous logs, in lower case. -/
def allLogs (ctx : Context) : String := Py.lower (Py.join " " (ctx.logs ++ ctx.previousLogs))

/-- `sorted(reasons & wanted)`, for `wanted` in order. -/
def hits (ctx : Context) (wanted : List String) : List String :=
  wanted.filter (waitingReasons ctx).contains

/-- `" ".join(e["message"] for e in events).lower()`. -/
def joinedMessages (events : List EventInfo) : String :=
  Py.lower (Py.join " " (events.map EventInfo.message))

/-- `[a-z0-9.\-]`. -/
def isHostChar (c : Char) : Bool := Py.isLowerAlnum c || c == '.' || c == '-'

/-- `host[=:]\s*([a-z0-9.\-]+)` at the front: the group. -/
def hostAssignment : List Char → Option (List Char)
  | 'h' :: 'o' :: 's' :: 't' :: c :: cs =>
    if c = '=' ∨ c = ':' then
      let group := (cs.dropWhile Py.isSpace).takeWhile isHostChar
      if group.isEmpty then none else some group
    else none
  | _ => none

/-- `[a-z0-9][a-z0-9.\-]*\.[a-z0-9.\-]+|[a-z0-9\-]+` on a whole run of host characters: a dotted
name that does not begin with punctuation and has something after a dot, or a name without dots. -/
def isHostRun (run : List Char) : Bool :=
  (run.head?.any Py.isLowerAlnum && run.dropLast.tail.contains '.') ||
    (!run.isEmpty && !run.contains '.')

/-- `(..):\d{2,5}` at the front: the group. A colon is no host character, so the group is the whole
run before it. -/
def hostWithPort (cs : List Char) : Option (List Char) :=
  let run := cs.takeWhile isHostChar
  match cs.dropWhile isHostChar with
  | ':' :: d :: e :: _ =>
    if (Py.isDecimal d && Py.isDecimal e) && isHostRun run then some run else none
  | _ => none

/-- `re.search`: the leftmost place where `p` finds something. -/
def search {α : Type} (p : List Char → Option α) : List Char → Option α
  | []      => p []
  | c :: cs => (p (c :: cs)).or (search p cs)

/-- `_parse_db_host`. The assignment to `host` has priority, wherever it stands. -/
def parseDbHost (logs : String) : List Char :=
  match search hostAssignment logs.toList with
  | some group => Py.rstrip '.' group
  | none       => ((search hostWithPort logs.toList).map (Py.rstrip '.')).getD []

def dbAuth : List String :=
  ["password authentication failed", "authentication failed", "access denied for user",
   "permission denied", "auth failed", "invalid password", "role \""]

def dbReach : List String :=
  ["connection refused", "connection timed out", "could not connect", "econnrefused",
   "i/o timeout", "no route to host", "dial tcp", "timed out"]

def dnsSpecific : List String :=
  ["no such host", "name or service not known", "could not resolve",
   "temporary failure in name resolution"]

/-! ## Pod issues

The crash loop is the one detector with a decision tree. A log about DNS is left to `dns_failure`;
rejected credentials come before an unreachable host. -/

def missingDependency : String := "CrashLoopBackOff (missing dependency)"

/-- The last step of `crashloop_db_connection`: a release before the failure is to be rolled
back. -/
def creditRelease (change : Option Change) (h : Hypothesis) : Hypothesis :=
  match change with
  | some c =>
    if c.kind = .deploy ∨ c.kind = .sync then
      { h with
        confidence := min 95 (h.confidence + 8)
        rollbackRequired := true
        rollbackTarget := c.rollbackTarget.getD (some "previous revision")
        evidence := h.evidence ++
          [{ source := "gitops"
             summary := s!"Failures started after release {Py.showOpt c.revision}"
             weight := 0.08
             timestamp := c.at_ }] }
    else h
  | none => h

/-- A secret is no release, so nothing is rolled back. -/
theorem creditRelease_secret {change : Option Change} (hsecret : ∀ c ∈ change, c.kind = .secret)
    (h : Hypothesis) : creditRelease change h = h := by
  unfold creditRelease
  split
  · next c =>
    have hkind := hsecret c rfl
    rw [if_neg (by rw [hkind]; simp)]
  · rfl

/-- The branch of `crashloop_db_connection` for rejected credentials. -/
def crashloopAuth (change : Option Change) (h : Hypothesis) : Hypothesis :=
  let h := { h with
    rootCause := "Database rejected the application's credentials (auth failure in crash logs)."
    confidence := 82
    suggestedFix := "Verify the DB username/password in the credentials secret; restart the deployment once corrected."
    evidence := h.evidence ++
      [{ source := "logs", summary := "DB authentication failure in crash logs", weight := 0.42 }] }
  match change with
  | some c =>
    if c.kind = .secret then
      { h with
        confidence := min 95 (h.confidence + 12)
        suggestedFix := s!"Secret {Py.reprOpt c.name} changed at {c.at_} before failures — verify the new credentials; restart."
        evidence := h.evidence ++
          [{ source := "k8s"
             summary := s!"Secret {Py.showOpt c.name} changed {c.at_} before crash"
             weight := 0.12
             timestamp := c.at_ }] }
    else h
  | none => h

/-- The branch of `crashloop_db_connection` for an unreachable database. -/
def crashloopReach (logs : String) (services : Option (List String)) (h : Hypothesis) :
    Hypothesis :=
  let dbHost := parseDbHost logs
  -- the first label is taken for the name of a Service, of an address too
  let hostShort := dbHost.takeWhile (· != '.')
  let host := String.ofList dbHost
  let short := String.ofList hostShort
  let h := { h with
    rootCause := "Application cannot reach its database" ++
      (if dbHost.isEmpty then "" else s!" at {host}") ++
      " (connection refused/timed out) — a reachability problem, not credentials."
    confidence := 80
    suggestedFix := "Check the DB Service/endpoints exist and are reachable (host, port, NetworkPolicy); verify the configured DB host."
    evidence := h.evidence ++
      [{ source := "logs", summary := "DB connection timeout/refused in crash logs", weight := 0.4 }] }
  -- `"services" in ctx`: a list that could not be read is there, and empty
  if !hostShort.isEmpty && services.any fun names => !names.contains short then
    { h with
      issue := missingDependency
      rootCause := s!"The database the app targets does not exist: no Service '{short}' in the " ++
        s!"namespace, and the crash log shows a connection timeout to {host}. " ++
        "The dependency was never deployed (the app has not been healthy)."
      confidence := 88
      suggestedFix := s!"Deploy the database (Service '{short}' + workload on its port), or point the app's DB host at the real endpoint; then restart."
      evidence := h.evidence ++
        [{ source := "k8s"
           summary := s!"No Service '{short}' in namespace — DB dependency absent"
           weight := 0.3 }] }
  else h

/-- The hypothesis `crashloop_db_connection` starts from. -/
def genericCrashloop : Hypothesis where
  issue := "CrashLoopBackOff"
  confidence := 40
  rootCause := "Container repeatedly exits after start."
  evidence := [{ source := "k8s", summary := "Pod in CrashLoopBackOff", weight := 0.4 }]

def crashloopDbConnection (ctx : Context) : Option Hypothesis :=
  if !isCrashlooping ctx then none
  else
    let logs := allLogs ctx
    -- a name that does not resolve is left to `dns_failure`
    if Py.containsAny logs dnsSpecific then some genericCrashloop
    -- credentials before reachability, whichever line comes first
    else if Py.containsAny logs dbAuth then
      some (creditRelease ctx.recentChange (crashloopAuth ctx.recentChange genericCrashloop))
    else if Py.containsAny logs dbReach then
      some (creditRelease ctx.recentChange (crashloopReach logs ctx.services genericCrashloop))
    else some genericCrashloop

/-- The branch that `crashloop_db_connection` takes, and what it returns there. -/
inductive CrashloopBranch (ctx : Context) : Hypothesis → Prop
  | generic (hloop : isCrashlooping ctx = true)
      (hother : Py.containsAny (allLogs ctx) dnsSpecific = true ∨
        Py.containsAny (allLogs ctx) dbAuth = false ∧ Py.containsAny (allLogs ctx) dbReach = false) :
      CrashloopBranch ctx genericCrashloop
  | auth (hloop : isCrashlooping ctx = true)
      (hdns : Py.containsAny (allLogs ctx) dnsSpecific = false)
      (hauth : Py.containsAny (allLogs ctx) dbAuth = true) :
      CrashloopBranch ctx
        (creditRelease ctx.recentChange (crashloopAuth ctx.recentChange genericCrashloop))
  | reach (hloop : isCrashlooping ctx = true)
      (hdns : Py.containsAny (allLogs ctx) dnsSpecific = false)
      (hauth : Py.containsAny (allLogs ctx) dbAuth = false)
      (hreach : Py.containsAny (allLogs ctx) dbReach = true) :
      CrashloopBranch ctx (creditRelease ctx.recentChange
        (crashloopReach (allLogs ctx) ctx.services genericCrashloop))

/-- **The branches are all there is**, and exclude each other. -/
theorem crashloopDbConnection_iff {ctx : Context} {h : Hypothesis} :
    crashloopDbConnection ctx = some h ↔ CrashloopBranch ctx h := by
  constructor
  · intro hd
    -- the branches in the order of the source, each with the conditions of those before it
    unfold crashloopDbConnection at hd
    dsimp only at hd
    split at hd
    · cases hd
    next hloop =>
    rw [Bool.not_eq_true', Bool.not_eq_false] at hloop
    split at hd
    · next hdns =>
      obtain rfl := Option.some.inj hd
      exact .generic hloop (.inl hdns)
    next hdns =>
    rw [Bool.not_eq_true] at hdns
    split at hd
    · next hauth =>
      obtain rfl := Option.some.inj hd
      exact .auth hloop hdns hauth
    next hauth =>
    rw [Bool.not_eq_true] at hauth
    split at hd
    · next hreach =>
      obtain rfl := Option.some.inj hd
      exact .reach hloop hdns hauth hreach
    next hreach =>
    rw [Bool.not_eq_true] at hreach
    obtain rfl := Option.some.inj hd
    exact .generic hloop (.inr ⟨hauth, hreach⟩)
  · intro hbranch
    cases hbranch with
    | generic hloop hother =>
        rcases hother with hdns | ⟨hauth, hreach⟩
        · simp [crashloopDbConnection, hloop, hdns]
        · simp [crashloopDbConnection, hloop, hauth, hreach]
    | auth hloop hdns hauth => simp [crashloopDbConnection, hloop, hdns, hauth]
    | reach hloop hdns hauth hreach =>
        simp [crashloopDbConnection, hloop, hdns, hauth, hreach]

/-- It fires on every crash loop. -/
theorem crashloopDbConnection_isSome (ctx : Context) :
    (crashloopDbConnection ctx).isSome = isCrashlooping ctx := by
  cases hloop : isCrashlooping ctx with
  | false => simp [crashloopDbConnection, hloop]
  | true =>
      simp only [crashloopDbConnection, hloop, Bool.not_true, Bool.false_eq_true, if_false,
        apply_ite Option.isSome, Option.isSome_some, ite_self]

/-- The crash loop is blamed on credentials or on reachability. -/
def BlamesConnection (ctx : Context) : Prop :=
  isCrashlooping ctx = true ∧ Py.containsAny (allLogs ctx) dnsSpecific = false ∧
    (Py.containsAny (allLogs ctx) dbAuth = true ∨ Py.containsAny (allLogs ctx) dbReach = true)

def imagePull (ctx : Context) : Option Hypothesis :=
  match hits ctx ["ErrImagePull", "ImagePullBackOff"] with
  | [] => none
  | hit :: _ =>
    -- every message in one text, in which the phrases are searched
    let msg := joinedMessages
      (ctx.events.filter fun e => e.reason == some "Failed" || e.reason == some "BackOff")
    let h : Hypothesis :=
      { issue := hit
        confidence := 88
        rootCause := "Image cannot be pulled."
        suggestedFix := "Check the image tag exists and the registry pull secret is valid."
        evidence := [{ source := "k8s", summary := s!"Container waiting: {hit}", weight := 0.5 }] }
    let h :=
      if Py.containsAny msg ["not found", "manifest unknown"] then
        { h with
          rootCause := "Image tag/digest does not exist in the registry (likely a typo or a never-pushed tag)."
          confidence := 92 }
      else if Py.containsAny msg ["unauthorized", "denied", "forbidden"] then
        { h with
          rootCause := "Registry authentication failed — imagePullSecret missing, expired, or wrong registry."
          suggestedFix := "Repair the imagePullSecret / registry credentials referenced by the pod's serviceAccount."
          confidence := 92 }
      else h
    -- cited only if there was something to read
    some (if msg = "" then h
      else h.cite { source := "events", summary := Py.slice msg 200, weight := 0.4 })

def containerConfigError (ctx : Context) : Option Hypothesis :=
  match hits ctx ["CreateContainerConfigError", "CreateContainerError"] with
  | [] => none
  | hit :: _ =>
    let warnings := ctx.events.filter fun e => e.type == some "Warning"
    let msg := joinedMessages warnings
    -- what is cited is the first warning, whichever of them said it
    let evidenceMsg := (warnings.head?.map EventInfo.message).getD ""
    let h : Hypothesis :=
      { issue := hit
        confidence := 85
        rootCause := "Container cannot be created from its config."
        evidence := [{ source := "k8s", summary := hit, weight := 0.5 }] }
    let h :=
      if Py.contains msg "configmap" && Py.contains msg "not found" then
        { h with
          rootCause := "Referenced ConfigMap does not exist (envFrom/volume mount points at a missing ConfigMap)."
          suggestedFix := "Create the missing ConfigMap or fix the reference name."
          confidence := 90 }
      else if Py.contains msg "secret" && Py.contains msg "not found" then
        { h with
          rootCause := "Referenced Secret does not exist."
          suggestedFix := "Create the missing Secret or fix the reference name."
          confidence := 90 }
      else h
    some (if evidenceMsg = "" then h
      else h.cite { source := "events", summary := Py.slice evidenceMsg 200, weight := 0.4 })

def oomKilled (ctx : Context) : Option Hypothesis :=
  let last := ctx.describe.containers.map ContainerInfo.lastTerminatedReason ++
    ctx.pods.map PodInfo.lastTerminated
  if !last.contains (some "OOMKilled") then none
  else
    let h : Hypothesis :=
      { issue := "OOMKilled"
        confidence := 90
        rootCause := "Container exceeded its memory limit and was OOM-killed by the kernel."
        suggestedFix := "Raise the memory limit, fix the leak, or reduce workload concurrency. Confirm with the memory metric trend."
        evidence :=
          [{ source := "k8s", summary := "Container last terminated with OOMKilled", weight := 0.6 }] }
    -- a trend that `collect_context` never sets
    some (if ctx.memoryTrendRising then
      { h with
        confidence := 95
        evidence := h.evidence ++
          [{ source := "metrics"
             summary := "Working-set memory climbed to the limit before restart"
             weight := 0.35 }] }
    else h)

/-- `x in ("CrashLoopBackOff", "Error")`. -/
def isCrashReason (reason : Option String) : Bool :=
  reason == some "CrashLoopBackOff" || reason == some "Error"

/-- A pod whose overview shows a failing init container. -/
def PodInfo.initFailing (p : PodInfo) : Bool :=
  isCrashReason p.initWaiting || Py.truthy p.initTerminated

/-- The last line that contains one of the phrases. -/
def lastLineWith (phrases : List String) (lines : List String) : Option String :=
  lines.reverse.find? fun ln => Py.containsAny (Py.lower ln) phrases

def initContainerFailure (ctx : Context) : Option Hypothesis :=
  -- in the description an exit code is asked for as well
  let failing := ctx.describe.initContainers.find? fun c =>
    isCrashReason c.waitingReason ||
      (Py.truthy c.lastTerminatedReason && c.lastExitCode.any (· != 0))
  if failing.isNone && !ctx.pods.any PodInfo.initFailing then none
  else
    let name := orElse (failing.map InitContainerInfo.name) ctx.failingInitContainer "init"
    let h : Hypothesis :=
      { issue := "Init Container Failure"
        confidence := 85
        rootCause := s!"Init container '{name}' is failing, so the pod never starts its app containers."
        suggestedFix := s!"Inspect init container '{name}' logs and its command/dependencies (migration, config fetch, wait-for-dependency); fix the init step."
        evidence :=
          [{ source := "k8s"
             summary := s!"Init container '{name}' failing (Init:CrashLoopBackOff/Error)"
             weight := 0.6 }] }
    -- the last line that sounds like an error, else the last line
    let err := (lastLineWith ["error", "fatal", "fail", "cannot", "denied", "lock", "timeout"]
      ctx.initLogs).getD (ctx.initLogs.getLastD "")
    some (if err = "" then h
      else { h with
        confidence := 90
        evidence := h.evidence ++
          [{ source := "logs", summary := "init log: " ++ Py.slice err 160, weight := 0.3 }] })

def jobFailure (ctx : Context) : Option Hypothesis :=
  match ctx.job with
  | none => none
  | some job =>
    let cond := job.conditions.find? fun c => c.type == "Failed"
    if job.failed = 0 ∧ cond.isNone then none
    else
      -- an empty message is falsy, and leaves just the full stop
      let detail := match cond.bind (nonEmpty ·.message) with
        | some message => s!": {message}"
        | none         => "."
      let h : Hypothesis :=
        { issue := "Job Failed"
          confidence := 85
          rootCause := s!"Job '{job.name}' failed ({job.failed} failed pod(s)){detail}"
          suggestedFix := "Inspect the failed pod's logs; fix the job command/input and re-run — a Job past its backoffLimit does not retry on its own."
          evidence :=
            [{ source := "k8s", summary := s!"Job {job.name}: failed={job.failed}", weight := 0.5 }] }
      match nonEmpty (lastLineWith ["fatal", "error", "fail", "exception", "cannot", "denied"]
          (ctx.logs ++ ctx.previousLogs)) with
      | some err => some { h with
          confidence := 90
          evidence := h.evidence ++
            [{ source := "logs", summary := "job log: " ++ Py.slice err 160, weight := 0.35 }] }
      | none => some h

def appErrorSignals : List String :=
  ["fatal", "panic", "traceback", "exception", "could not connect", "connection refused",
   "no such host", "x509", "segmentation fault", "unhandled", "exit status 1"]

/-- The hypothesis `probe_failure` infers when no `Unhealthy` event is left. -/
def inferredProbeFailure : Hypothesis where
  issue := "Liveness Probe Failure"
  confidence := 62
  rootCause := "Container is restarting repeatedly with a liveness probe configured and " ++
    "no application-level error in its logs — the liveness probe is most likely " ++
    "failing (the transient Unhealthy events have already aged out)."
  suggestedFix := "Verify the liveness probe path/port matches where the app actually listens, " ++
    "and review initialDelaySeconds/failureThreshold. Confirm against current " ++
    "probe config since kubelet's Unhealthy events expire ~1h."
  evidence :=
    [{ source := "k8s"
       summary := "Repeated restarts + liveness probe configured + no app error in logs (Unhealthy events expired)"
       weight := 0.5 }]

def probeFailure (ctx : Context) : Option Hypothesis :=
  let unhealthy := ctx.events.filter fun e => e.reason == some "Unhealthy"
  match unhealthy with
  | first :: _ =>
    let msgs := joinedMessages unhealthy
    -- one word anywhere in the messages decides the kind for all of them
    let kind := if Py.contains msgs "liveness" then "Liveness"
      else if Py.contains msgs "readiness" then "Readiness" else "Probe"
    let kindLower := Py.lower kind
    let h : Hypothesis :=
      { issue := s!"{kind} Probe Failure"
        confidence := 78
        rootCause := s!"{kind} probe is failing — app not responding healthy on the probe endpoint/port."
        suggestedFix := s!"Check the {kindLower} probe path/port and the app's startup time; consider a startupProbe or higher initialDelaySeconds."
        evidence :=
          [{ source := "events"
             summary := Py.slice first.message 200
             weight := 0.6
             timestamp := first.age }] }
    some (if kind = "Liveness" then
      h.cite { source := "k8s"
               summary := "Failing liveness probes cause restarts → possible restart loop"
               weight := 0.18 }
    else h)
  | [] =>
    let hasLiveness := ctx.describe.containers.any ContainerInfo.liveness
    -- a restart counts however it ended: `last_terminated` may say Completed
    let restarting := ctx.pods.any fun p =>
      p.reason == some "CrashLoopBackOff" || Py.truthy p.lastTerminated
    let appError := Py.containsAny (allLogs ctx) appErrorSignals
    if hasLiveness && restarting && !appError then some inferredProbeFailure else none

/-- No event is selected if none has the reason. -/
theorem withReason_eq_nil {events : List EventInfo} {reason : String} :
    events.filter (fun e => e.reason == some reason) = [] ↔
      ∀ e ∈ events, e.reason ≠ some reason := by
  simp only [List.filter_eq_nil_iff, beq_iff_eq]

/-- An event of a failing probe is believed. -/
theorem probeFailure_of_event {ctx : Context}
    (hevent : ¬ ∀ e ∈ ctx.events, e.reason ≠ some "Unhealthy") :
    ∃ h, probeFailure ctx = some h ∧ h.confidence = 78 ∧
      h.rootCause ≠ inferredProbeFailure.rootCause := by
  rw [← withReason_eq_nil] at hevent
  obtain ⟨first, rest, hevents⟩ := List.exists_cons_of_ne_nil hevent
  unfold probeFailure
  rw [hevents]
  refine ⟨_, rfl, ?_, ?_⟩
  · simp only [apply_ite Hypothesis.confidence, Hypothesis.cite, ite_self]
  · simp only [apply_ite Hypothesis.rootCause, Hypothesis.cite, ite_self]
    split
    · decide
    · split <;> decide

/-- Without one, a restart is taken for it. -/
theorem probeFailure_of_quiet {ctx : Context}
    (hquiet : ∀ e ∈ ctx.events, e.reason ≠ some "Unhealthy") :
    probeFailure ctx =
      if ctx.describe.containers.any ContainerInfo.liveness &&
          ctx.pods.any (fun p => p.reason == some "CrashLoopBackOff" || Py.truthy p.lastTerminated) &&
          !Py.containsAny (allLogs ctx) appErrorSignals then
        some inferredProbeFailure
      else none := by
  unfold probeFailure
  rw [withReason_eq_nil.mpr hquiet]

def pendingUnschedulable (ctx : Context) : Option Hypothesis :=
  let initFailing := ctx.pods.any PodInfo.initFailing
  let sched := ctx.events.filter fun e => e.reason == some "FailedScheduling"
  let pending := ctx.pods.filter fun p => p.phase == some "Pending"
  if initFailing && sched.isEmpty then none  -- a failing init container explains the Pending phase
  else if pending.isEmpty && sched.isEmpty then none
  else
    -- only the first event is read
    let first := (sched.head?.map EventInfo.message).getD ""
    let msg := Py.lower first
    let h : Hypothesis :=
      { issue := "Pending Pods"
        confidence := 80
        rootCause := "Scheduler cannot place the pod."
        evidence := if sched.isEmpty then []
          else [{ source := "events", summary := Py.slice first 200, weight := 0.6 }] }
    some (if Py.containsAny msg ["insufficient cpu", "insufficient memory"] then
      { h with
        rootCause := "No node has enough free CPU/memory for the pod's requests."
        suggestedFix := "Scale the node pool / cluster-autoscaler, lower pod requests, or evict lower-priority workloads." }
    else if Py.containsAny msg ["taint", "node(s) had untolerated taint"] then
      { h with
        rootCause := "Pod does not tolerate the taints on available nodes."
        suggestedFix := "Add the required toleration/nodeSelector, or untaint a node pool." }
    -- the rule on nodes comes before the one on volumes, and `volume node affinity` meets it
    else if (Py.contains msg "didn't match" && Py.contains msg "affinity") ||
        Py.contains msg "node affinity" then
      { h with
        rootCause := "Node affinity/selector matches no available node."
        suggestedFix := "Relax nodeAffinity/nodeSelector or add a matching node pool." }
    else if Py.containsAny msg ["persistentvolumeclaim", "pvc", "volume node affinity"] then
      { h with
        rootCause := "PVC cannot be bound/attached on a schedulable node (storage class / zone mismatch)."
        suggestedFix := "Check the PVC StorageClass, volume zone, and CSI driver health."
        issue := "Pending Pods (PVC)" }
    else h)

/-- `pending_unschedulable` is silent without an event, if an init container fails or no pod is
pending. -/
theorem pendingUnschedulable_eq_none {ctx : Context} : pendingUnschedulable ctx = none ↔
    (∀ e ∈ ctx.events, e.reason ≠ some "FailedScheduling") ∧
      ((∃ p ∈ ctx.pods, p.initFailing = true) ∨ ∀ p ∈ ctx.pods, p.phase ≠ some "Pending") := by
  have hpending : (ctx.pods.filter fun p => p.phase == some "Pending").isEmpty = true ↔
      ∀ p ∈ ctx.pods, p.phase ≠ some "Pending" := by
    simp only [List.isEmpty_iff, List.filter_eq_nil_iff, beq_iff_eq]
  -- the two early returns, in the words of the code
  rw [← withReason_eq_nil, ← hpending, ← List.any_eq_true, ← List.isEmpty_iff]
  unfold pendingUnschedulable
  dsimp only
  split
  · next hinit =>
    obtain ⟨hinit, hsched⟩ := Bool.and_eq_true_iff.mp hinit
    exact iff_of_true rfl ⟨hsched, .inl hinit⟩
  next hinit =>
  split
  · next hnone =>
    obtain ⟨hnone, hsched⟩ := Bool.and_eq_true_iff.mp hnone
    exact iff_of_true rfl ⟨hsched, .inr hnone⟩
  · next hnone =>
    apply iff_of_false (Option.some_ne_none _)
    rintro ⟨hsched, hcase | hcase⟩
    · exact hinit (Bool.and_eq_true_iff.mpr ⟨hcase, hsched⟩)
    · exact hnone (Bool.and_eq_true_iff.mpr ⟨hcase, hsched⟩)

/-- Its confidence is a constant. -/
theorem pendingUnschedulable_confidence {ctx : Context} {h : Hypothesis}
    (hd : pendingUnschedulable ctx = some h) : h.confidence = 80 := by
  unfold pendingUnschedulable at hd
  dsimp only at hd
  split at hd
  · cases hd
  split at hd
  · cases hd
  obtain rfl := Option.some.inj hd
  simp only [apply_ite Hypothesis.confidence, ite_self]

def storageEviction (ctx : Context) : Option Hypothesis :=
  let evicted := ctx.pods.filter fun p => p.reason == some "Evicted"
  match evicted with
  | [] => none
  | first :: _ =>
    -- the messages of all evicted pods, but the first pod is the one cited
    let msg := Py.lower (Py.join " " (evicted.map fun p => p.message.getD ""))
    let ephemeral := Py.containsAny msg ["ephemeral", "emptydir", "exceeds the limit", "local storage"]
    some
      { issue := if ephemeral then "Pod Evicted: Ephemeral Storage" else "Pod Evicted"
        confidence := if ephemeral then 88 else 80
        rootCause := if ephemeral then
          "Pod was evicted by kubelet for exceeding its ephemeral-storage limit " ++
            "(container writable layer / emptyDir disk usage over the limit)."
        else "Pod was evicted by kubelet under node resource pressure."
        suggestedFix := if ephemeral then
          "Raise the ephemeral-storage limit, write less to local disk/emptyDir, or use a " ++
            "PersistentVolume for large data."
        else "Investigate node disk/memory pressure driving evictions."
        evidence :=
          [{ source := "k8s"
             summary := "Evicted: " ++ Py.slice (first.message.getD "") 160
             weight := 0.6 }] }

/-! ## Scaling and disruption

The first object that shows the signature is reported, in the order of the list. -/

/-- The condition that makes an autoscaler unable to scale. -/
def HpaInfo.bad (h : HpaInfo) : Option Kube.Condition :=
  h.conditions.find? fun c =>
    (c.type == "ScalingActive" || c.type == "AbleToScale") && c.status == "False"

def hpaCannotScale (ctx : Context) : Option Hypothesis :=
  ctx.hpas.findSome? fun h => h.bad.map fun bad =>  -- the loop returns from inside
    { issue := "HPA Cannot Scale"
      confidence := 85
      rootCause := s!"HorizontalPodAutoscaler '{h.name}' cannot scale: {Py.showOpt bad.reason} — " ++
        Py.slice (bad.message.getD "") 120
      suggestedFix := "Install/repair metrics-server and ensure the target's containers declare resource requests so the HPA can compute utilization."
      evidence :=
        [{ source := "k8s"
           summary := s!"HPA {h.name}: {bad.type}=False ({Py.showOpt bad.reason})"
           weight := 0.7 }] }

def pdbBlocking (ctx : Context) : Option Hypothesis :=
  (ctx.pdbs.find? fun p => p.disruptionsAllowed == 0).map fun p =>
    { issue := "PodDisruptionBudget Blocking"
      confidence := 80
      rootCause := s!"PodDisruptionBudget '{p.name}' allows 0 voluntary disruptions " ++
        s!"(healthy {p.currentHealthy}, required {p.desiredHealthy}) — node drains, " ++
        "upgrades and rollouts will block indefinitely."
      suggestedFix := "Add replicas, or relax the PDB (lower minAvailable / raise maxUnavailable) so ≥1 disruption is allowed."
      evidence :=
        [{ source := "k8s", summary := s!"PDB {p.name}: disruptionsAllowed=0", weight := 0.6 }] }

/-! ## Node issues

A node is bad if it is not ready or under pressure. What is said about it depends on its first
pressure. -/

/-- The pressures a node reports, by key. -/
def NodeInfo.pressures (n : NodeInfo) : List String :=
  ([("disk_pressure", n.diskPressure), ("memory_pressure", n.memoryPressure),
    ("pid_pressure", n.pidPressure)].filter fun kv => kv.2 == some "True").map Prod.fst

def NodeInfo.bad (n : NodeInfo) : Bool := n.ready != some "True" || !n.pressures.isEmpty

/-- `key.split("_")[0].title()`, for the keys of `pressures`. -/
def pressureLabel (key : String) : String :=
  if key = "disk_pressure" then "Disk"
  else if key = "memory_pressure" then "Memory"
  else "Pid"

def pressureFix (label : String) : String :=
  if label = "Disk" then "Free disk / increase volume / prune images & logs."
  else if label = "Memory" then "Reduce memory pressure: evict, add capacity, fix leaks."
  else "Lower process count or raise PID limits."

def nodePressure (ctx : Context) : Option Hypothesis :=
  (ctx.nodes.find? NodeInfo.bad).map fun n =>  -- `bad[0]`, in the order of the listing
    let label := pressureLabel (n.pressures.headD "")
    let listed := if n.pressures.isEmpty then "none" else Py.reprList n.pressures
    -- not ready hides whatever pressure there is
    let notReady := n.ready != some "True"
    { issue := if notReady then "NodeNotReady" else s!"Node {label}Pressure"
      confidence := 85
      rootCause := if notReady then
        s!"Node {n.name} is NotReady (kubelet/network/runtime problem)."
      else s!"Node {n.name} reports Node {label}Pressure — kubelet will evict pods."
      suggestedFix := if notReady then
        "Check kubelet + container runtime on the node; cordon/drain and replace if it stays NotReady."
      else pressureFix label
      evidence :=
        [{ source := "k8s"
           summary := s!"Node {n.name}: ready={Py.showOpt n.ready} pressures={listed}"
           weight := 0.7 }] }

/-! ## Service mesh

Only the sidecar of the described pod is looked at. -/

def istioSidecarNotReady (ctx : Context) : Option Hypothesis :=
  match ctx.describe.containers.find? fun c => c.name == "istio-proxy" with
  | none => none
  | some proxy =>
    if proxy.ready = some true then none  -- a proxy without a status is not ready either
    else
      let h : Hypothesis :=
        { issue := "Istio Sidecar Not Ready"
          confidence := 80
          rootCause := "The istio-proxy sidecar is not Ready — the pod cannot serve mesh traffic."
          suggestedFix := "Check the istio-proxy container logs and its connectivity to istiod; verify injection and proxy resource limits."
          evidence :=
            [{ source := "k8s"
               summary := "istio-proxy not ready (waiting=" ++ Py.showOpt proxy.waitingReason ++
                 ", last_terminated=" ++ Py.showOpt proxy.lastTerminatedReason ++ ")"
               weight := 0.6 }] }
      some (if proxy.lastTerminatedReason = some "OOMKilled" then
        { h with
          confidence := 91
          rootCause := "The istio-proxy sidecar is OOMKilled — its memory limit is too low for the proxy."
          suggestedFix := "Raise the proxy memory limit (sidecar.istio.io/proxyMemoryLimit) or the mesh default; confirm with the proxy's memory trend." }
      else if proxy.waitingReason = some "ImagePullBackOff" ∨
          proxy.waitingReason = some "ErrImagePull" then
        { h with
          confidence := 88
          rootCause := "The istio-proxy image cannot be pulled — wrong proxy image/tag or registry access." }
      else h)

/-! ## Application and platform issues

Phrases in the logs, and nothing else. -/

/-- The `signals` of `tls_certificate`. -/
def tlsSignals : List String :=
  ["x509", "certificate has expired", "certificate verify failed", "tls handshake",
   "unable to verify the first certificate"]

def tlsCertificate (ctx : Context) : Option Hypothesis :=
  if !Py.containsAny (allLogs ctx) tlsSignals then none
  else some
    { issue := "TLS Certificate Issue"
      confidence := 75
      rootCause := "TLS verification failing (expired/invalid cert or missing CA in trust store)."
      suggestedFix := "Check cert-manager Certificate/Order status and the mounted CA bundle; renew or fix the trust chain."
      evidence :=
        [{ source := "logs", summary := "x509/TLS verification error in logs", weight := 0.7 }] }

/-- `strong` and `weak` of `dns_failure`. -/
def dnsStrong : List String := ["no such host", "name or service not known", "could not resolve"]

def dnsWeak : List String := ["temporary failure in name resolution", "server misbehaving"]

def dnsFailure (ctx : Context) : Option Hypothesis :=
  let logs := allLogs ctx
  if !Py.containsAny logs (dnsStrong ++ dnsWeak) then none
  else some
    { issue := "DNS Resolution Failure"
      confidence := if Py.containsAny logs dnsStrong then 85 else 72
      rootCause := "In-cluster DNS resolution is failing (CoreDNS unhealthy, NetworkPolicy blocking :53, or bad Service/host name)."
      suggestedFix := "Check CoreDNS pods/logs, NetworkPolicies allowing UDP/TCP 53, and that the target Service/FQDN exists."
      evidence := [{ source := "logs", summary := "DNS resolution error in logs", weight := 0.7 }] }

/-! ## Evaluation

The order of registration is that of the source file, and the sort is stable, so it decides among
hypotheses of one confidence. -/

/-- `all_detectors()`, in the order of their registration. -/
def allDetectors : List (Context → Option Hypothesis) :=
  [crashloopDbConnection, imagePull, containerConfigError, oomKilled, initContainerFailure,
   jobFailure, probeFailure, pendingUnschedulable, storageEviction, hpaCannotScale, pdbBlocking,
   nodePressure, istioSidecarNotReady, tlsCertificate, dnsFailure]

/-- `evaluate`: highest confidence first, in order of registration among equals. -/
def evaluate (ctx : Context) : List Hypothesis :=
  (allDetectors.filterMap fun d => d ctx).insertionSort fun a b => b.confidence ≤ a.confidence

/-- What is reported is what some detector returned. -/
theorem mem_evaluate {ctx : Context} {h : Hypothesis} :
    h ∈ evaluate ctx ↔ ∃ d ∈ allDetectors, d ctx = some h := by
  rw [evaluate, List.mem_insertionSort, List.mem_filterMap]

end SreAgent.Rca
