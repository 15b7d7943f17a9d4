import SreAgent.Clusters.Basic
import SreAgent.Rca.Detectors

/-!
# Collecting the context

`collect_context` of `rca/engine.py`, in the order of the source: resolve the subject, list the
pods, fan out the reads, and put the bundle together. The nine reads of the fan-out run
concurrently in the code; they do not depend on one another, so their order does not matter.

Nothing is decided here about what a context means. The module is the source's function cut into its
parts, and the next one, `Rca.Collected`, says once when it returns and what.
-/

namespace SreAgent.Rca

open Kube (Client Read Labels Pod Timestamp)

/-! ## Resolving the subject

A name may be that of a pod, a Deployment, a StatefulSet or a Job. The first attempt that comes
through decides; one that raises in the middle leaves behind what it has assigned up to there. -/

/-- The variables the four attempts assign. An attempt that raises keeps what it assigned before. -/
structure Resolution where
  podNames       : List String := []
  selectorLabels : Labels := []
  job            : Option JobInfo := none
  deriving DecidableEq

/-- One attempt, as `_try` runs it: whether it came through, and the variables afterwards. -/
abbrev Attempt := Resolution → Bool × Resolution

/-- `_pod`. -/
def tryPod (cl : Client) (ns subject : String) : Attempt := fun r =>
  match cl.readPod .resolvePod ns subject with
  | .error _ => (false, r)
  | .ok _    => (true, { r with podNames := [subject] })

/-- `_deploy` and `_sts`: read a workload, then list the pods that match its `match_labels`. -/
def tryWorkload (cl : Client) (readAt podsAt : Read) (workloads : List Kube.Workload)
    (ns subject : String) : Attempt := fun r =>
  match cl.attempt readAt (Kube.byName Kube.Workload.name workloads subject) with
  | .error _ => (false, r)
  | .ok w    =>
    let labels := w.selector.matchLabels
    match cl.listPods podsAt ns (Kube.encodeLabels labels) with
    -- the labels were assigned before the listing raised, and stay
    | .error _ => (false, { r with selectorLabels := labels })
    | .ok pods => (true, { r with selectorLabels := labels, podNames := pods.map Pod.name })

/-- `_deploy`. -/
def tryDeployment (cl : Client) (ns subject : String) : Attempt :=
  tryWorkload cl .resolveDeployment .deploymentPods (cl.namespaces ns).deployments ns subject

/-- `_sts`. -/
def tryStatefulSet (cl : Client) (ns subject : String) : Attempt :=
  tryWorkload cl .resolveStatefulSet .statefulSetPods (cl.namespaces ns).statefulSets ns subject

/-- `_job`. -/
def tryJob (cl : Client) (ns subject : String) : Attempt := fun r =>
  match cl.attempt .resolveJob (Kube.byName Kube.Job.name (cl.namespaces ns).jobs subject) with
  | .error _ => (false, r)
  | .ok job  =>
    let r := { r with
      job := some
        { name := subject
          failed := job.failed
          succeeded := job.succeeded
          conditions := job.conditions.map fun c => ⟨c.type, c.reason, c.message⟩ } }
    match cl.listPods .jobPods ns ("job-name=" ++ subject) with
    | .error _ => (false, r)  -- `ctx["job"]` is set by now
    | .ok pods => (true, { r with podNames := pods.map Pod.name })

/-- `a or b`: the second attempt runs if the first one failed. -/
def orTry (a b : Attempt) : Attempt := fun r =>
  match a r with
  | (true, r)  => (true, r)
  | (false, r) => b r

/-- The second attempt is not made if the first one came through, and otherwise goes on where that
one stopped. -/
theorem orTry_of_true {a b : Attempt} {r r' : Resolution} (h : a r = (true, r')) :
    orTry a b r = (true, r') := by
  rw [orTry, h]

theorem orTry_of_false {a b : Attempt} {r r' : Resolution} (h : a r = (false, r')) :
    orTry a b r = b r' := by
  rw [orTry, h]

/-- `_try(_pod) or _try(_deploy) or _try(_sts) or _try(_job)`. -/
def resolveSubject (cl : Client) (ns subject : String) : Bool × Resolution :=
  orTry (orTry (orTry (tryPod cl ns subject) (tryDeployment cl ns subject))
    (tryStatefulSet cl ns subject)) (tryJob cl ns subject) {}

/-! ## Summaries of what was read

The context has no API objects in it, only dictionaries with some of their fields. Each has its own
record here, with the fields that a detector reads. -/

/-- An entry of `ctx["pods"]`. -/
def podInfo (p : Pod) : PodInfo where
  name := p.name
  phase := p.phase
  -- `next` takes the first container that waits, even one that gives no reason
  reason := match p.containerStatuses.findSome? (·.waiting) with
    | some w => w.reason
    | none   => p.reason
  message := p.message
  lastTerminated := (p.containerStatuses.findSome? (·.lastTerminated)).bind (·.reason)
  initWaiting := (p.initContainerStatuses.findSome? (·.waiting)).bind (·.reason)
  -- an exit code of 0 is falsy, so only a failed run counts
  initTerminated := (p.initContainerStatuses.findSome? fun c =>
    c.lastTerminated.filter fun t => t.exitCode != 0).bind (·.reason)

/-- The status of a container by its name. -/
def statusOf (statuses : List Kube.ContainerStatus) (name : String) : Option Kube.ContainerStatus :=
  statuses.reverse.find? fun st => st.name == name

/-- `kubernetes_describe`, on the pod it reads. -/
def describePod (p : Pod) : Describe where
  containers := p.containers.map fun c =>
    -- statuses are looked up in a dictionary by name, where the last one of a name wins
    let st := statusOf p.containerStatuses c.name
    let term := st.bind (·.lastTerminated)
    { name := c.name
      image := c.image
      waitingReason := (st.bind (·.waiting)).bind (·.reason)
      lastTerminatedReason := term.bind (·.reason)
      lastExitCode := term.map (·.exitCode)
      liveness := c.livenessProbe
      readiness := c.readinessProbe
      restartCount := (st.map (·.restartCount)).getD 0
      ready := st.map (·.ready) }
  initContainers := p.initContainers.map fun c =>
    let st := statusOf p.initContainerStatuses c.name
    let term := st.bind (·.lastTerminated)
    { name := c.name
      image := c.image
      waitingReason := (st.bind (·.waiting)).bind (·.reason)
      lastTerminatedReason := term.bind (·.reason)
      lastExitCode := term.map (·.exitCode) }
  node := p.nodeName

def kubernetesDescribe (cl : Client) (ns pod : String) : Except Exc Describe :=
  (cl.readPod .describe ns pod).map describePod

/-- The log read behind `_read_logs`. -/
def readPodLog (cl : Client) (read : Read) (ns pod : String) (container : Option String)
    (previous : Bool) : Except Exc String :=
  cl.attempt read ((cl.namespaces ns).podLog pod container previous)

/-- `_read_logs`: a read that fails leaves no lines. -/
def readLogs (cl : Client) (read : Read) (ns pod : String) (container : Option String)
    (previous : Bool) : List String :=
  match readPodLog cl read ns pod container previous with
  | .ok text => Py.splitlines text
  | .error _ => []

/-- The later of two time stamps. -/
def later (a b : Timestamp) : Timestamp := if a.value.instant < b.value.instant then b else a

/-- The time `_secret_changes` notes for a secret, empty if there is none. -/
def lastChangeTime (s : Kube.Secret) : String :=
  let latest := match s.managedFieldTimes.filterMap id with
    | t :: ts => some (ts.foldl later t)
    | []      => s.creationTimestamp
  (latest.map Timestamp.isoformat).getD ""

/-- `_secret_changes`, on the secrets it lists. -/
def secretChangesOf (secrets : List Kube.Secret) : List SecretChange :=
  (secrets.filter fun s => lastChangeTime s != "").map fun s => ⟨some s.name, some (lastChangeTime s)⟩

/-- An entry of `ctx["hpas"]`. -/
def hpaInfo (h : Kube.HorizontalPodAutoscaler) : HpaInfo := ⟨h.name, h.targetName, h.conditions⟩

/-- An entry of `ctx["pdbs"]`. -/
def pdbInfo (p : Kube.PodDisruptionBudget) : PdbInfo :=
  ⟨p.name, p.disruptionsAllowed, p.currentHealthy, p.desiredHealthy⟩

/-- The list `ctx["pdbs"]`. A budget without a selector is dereferenced all the same. -/
def selectPdbs (selectorLabels : Labels) (pdbs : List Kube.PodDisruptionBudget) :
    Except Exc (List PdbInfo) :=
  if selectorLabels.isEmpty then .ok []  -- `and` stops here, and no selector is touched
  else if pdbs.any fun p => p.selector.isNone then
    .error (.attributeError "'NoneType' object has no attribute 'match_labels'")
  else .ok ((pdbs.filter fun p =>
    p.selector.any fun s => s.matchLabels.subset selectorLabels).map pdbInfo)

/-- The filter on events: about the subject, one of its pods, or something whose name is the
beginning of a pod's name, up to a dash. -/
def relevant (subject : String) (podNames : List String) (name : String) : Bool :=
  podNames.contains name || name == subject ||
    -- the owners of a pod are recognised by its name, and so is any other name that it continues
    podNames.any fun p => p == name || Py.startsWith p (name ++ "-")

/-- An entry of `ctx["events"]`. -/
def eventInfo (e : Kube.Event) : EventInfo where
  type := e.type
  reason := e.reason
  message := e.message.getD ""
  object := Py.showOpt e.involvedKind ++ "/" ++ Py.showOpt e.involvedName
  -- the last time it was seen; `first_timestamp` is not kept
  timestamp := ((e.lastTimestamp.or e.eventTime).map Timestamp.isoformat).getD ""

/-- The list `ctx["events"]`. -/
def selectEvents (subject : String) (podNames : List String) (events : List Kube.Event) :
    List EventInfo :=
  (events.filter fun e => relevant subject podNames (e.involvedName.getD "")).map eventInfo

/-- The status of the first condition of a type. -/
def conditionStatus (conditions : List Kube.Condition) (type : String) : Option String :=
  (conditions.find? fun c => c.type == type).map Kube.Condition.status

/-- An entry of `ctx["nodes"]`. -/
def nodeInfo (n : Kube.Node) : NodeInfo where
  name := n.name
  ready := conditionStatus n.conditions "Ready"
  diskPressure := conditionStatus n.conditions "DiskPressure"
  memoryPressure := conditionStatus n.conditions "MemoryPressure"
  pidPressure := conditionStatus n.conditions "PIDPressure"

/-- The first init container of the description that has failed or is failing. -/
def failingInit (d : Describe) : Option InitContainerInfo :=
  d.initContainers.find? fun c =>
    isCrashReason c.waitingReason || Py.truthy c.lastTerminatedReason

/-! ## The fan-out

Each read has a default. A failure is noted under the key of its future, except for logs, whose
reader catches everything itself. -/

/-- A read of the fan-out: its answer or the default, and its key if it failed. -/
def degrade {α : Type} (key : String) (default : α) : Except Exc α → α × List String
  | .ok a    => (a, [])
  | .error _ => (default, [key])

/-- `results` and `degraded`. -/
structure FanOut where
  events        : List Kube.Event
  nodes         : List Kube.Node
  secrets       : List SecretChange
  services      : List String
  hpas          : List Kube.HorizontalPodAutoscaler
  pdbs          : List Kube.PodDisruptionBudget
  describe      : Describe
  logs          : List String
  previousLogs  : List String
  degradedReads : List String

/-- The reads issued for every subject and, if it has a pod, those of its first pod. `_read_logs`
never raises, so the futures `logs` and `previous_logs` never degrade. -/
def fanOut (cl : Client) (ns : String) (target : Option String) : FanOut :=
  let n := cl.namespaces ns
  let events := degrade "events" [] (cl.attempt .events (.ok n.events))
  let nodes := degrade "nodes" [] (cl.attempt .nodes (.ok cl.nodes))
  let secrets := degrade "secrets" []
    ((cl.attempt .secrets (.ok n.secrets)).map secretChangesOf)
  let services := degrade "services" [] (cl.attempt .services (.ok n.services))
  let hpas := degrade "hpas" [] (cl.attempt .hpas (.ok n.hpas))
  let pdbs := degrade "pdbs" [] (cl.attempt .pdbs (.ok n.pdbs))
  -- without a target these three futures are not submitted
  let describe : Describe × List String := match target with
    | some pod => degrade "describe" {} (kubernetesDescribe cl ns pod)
    | none     => ({}, [])
  { events := events.1
    nodes := nodes.1
    secrets := secrets.1
    services := services.1
    hpas := hpas.1
    pdbs := pdbs.1
    describe := describe.1
    logs := target.elim [] fun pod => readLogs cl .logs ns pod none false
    previousLogs := target.elim [] fun pod => readLogs cl .previousLogs ns pod none true
    degradedReads := events.2 ++ nodes.2 ++ secrets.2 ++ services.2 ++ hpas.2 ++ pdbs.2 ++
      describe.2 }

/-! ## The bundle

What comes after the fan-out are computations on what was read. Three of them may raise, and they
are not inside of any `try`. -/

/-- Some pod of the subject crashes or has crashed. -/
def crashingSinceStart (pods : List PodInfo) : Bool :=
  pods.any fun p => isCrashReason p.reason || Py.truthy p.lastTerminated

/-- `ctx["first_failure_time"]`. -/
def failureAnchor (events : List EventInfo) (pods : List PodInfo) (podStart : Option Timestamp) :
    Except Exc (Option Py.DateTime) := do
  let eventFailure ← firstFailureTime events
  if crashingSinceStart pods then
    match podStart, eventFailure with
    | some start, some t => do
      let anchor ← earlier t start.value
      pure (some anchor)
    -- a crash with no warning left is dated by the start of the pod
    | some start, none   => pure (some start.value)
    | none, t            => pure t
  else pure eventFailure

/-- `pod_names[0] if pod_names else None`, where it is truthy. -/
def targetPod (podNames : List String) : Option String := nonEmpty podNames.head?

/-- The bundle but for `recent_change`, from the resolution of the subject, the pods listed, the
results of the fan-out and the two values whose computation may raise. -/
def bundle (cl : Client) (clusterName ns subject : String) (resolved : Bool) (r : Resolution)
    (allPods : List Pod) (results : FanOut) (pdbs : List PdbInfo) (anchor : Option Py.DateTime) :
    Context where
  cluster := clusterName
  namespace_ := ns
  subject := subject
  job := r.job
  resolved := resolved
  selectorLabels := r.selectorLabels
  -- in the order of the listing, not of `pod_names`
  pods := (allPods.filter fun p => r.podNames.contains p.name).map podInfo
  degradedReads := results.degradedReads
  hpas := (results.hpas.filter fun h => h.targetName == subject).map hpaInfo
  pdbs := pdbs
  describe := results.describe
  logs := results.logs
  previousLogs := results.previousLogs
  -- the failing init container of the description, if there is one
  initLogs := match targetPod r.podNames, failingInit results.describe with
    | some pod, some c => readLogs cl .initLogs ns pod (nonEmpty (some c.name)) false
    | _, _             => []
  failingInitContainer := (failingInit results.describe).map InitContainerInfo.name
  -- a read that failed leaves the empty list, which looks like a namespace without Services
  services := some results.services
  events := selectEvents subject r.podNames results.events
  firstFailureTime := anchor
  nodes := results.nodes.map nodeInfo
  secretChanges := results.secrets

/-- When the target pod was started. -/
def podStartTime (allPods : List Pod) (target : Option String) : Option Timestamp :=
  (target.bind fun t => allPods.find? fun p => p.name == t).bind (·.startTime)

/-- `collect_context` behind the namespace guard, with the clients of the cluster at hand: the
resolution, the nine reads side by side, the budgets, the anchor and the recent change. -/
def collectFrom (cl : Client) (clusterName ns subject : String) (now : Timestamp) :
    Except Exc Context := do
  let (resolved, r) := resolveSubject cl ns subject
  -- outside of every `try`: an identity that may not list pods gets no diagnosis
  let allPods ← cl.attempt .podList (.ok (cl.namespaces ns).pods)
  let results := fanOut cl ns (targetPod r.podNames)
  -- three computations that may raise, and are not caught either
  let pdbs ← selectPdbs r.selectorLabels results.pdbs
  let anchor ← failureAnchor (selectEvents subject r.podNames results.events)
    ((allPods.filter fun p => r.podNames.contains p.name).map podInfo)
    (podStartTime allPods (targetPod r.podNames))
  let ctx := bundle cl clusterName ns subject resolved r allPods results pdbs anchor
  let recent ← findRecentChange ctx now.value
  pure { ctx with recentChange := recent }

/-- Where the diagnosis runs: the registered clusters, the clients that `ClusterManager.clients`
answers for a registry entry, and the time it is asked for. -/
structure World where
  registry : ClusterRegistry
  clients  : ClusterConfig → Except Exc Client
  now      : Timestamp

/-- `collect_context`: the guard, the clients, and the collection. The guard's refusal and an
unknown cluster leave as exceptions, before anything is read. -/
def collectContext (w : World) (cluster : Option String) (ns subject : String) :
    Except Exc Context := do
  let cfg ← ClusterManager.guardNamespace { registry := w.registry } cluster ns
  let cl ← w.clients cfg
  collectFrom cl cfg.name ns subject w.now

end SreAgent.Rca
