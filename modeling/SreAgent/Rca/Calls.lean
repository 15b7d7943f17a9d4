import SreAgent.Rca.Engine
import SreAgent.Tools.Upstream

/-!
# The calls of a diagnosis

`collect_context` and `diagnose` once more, now as programs that ask for what they read, with the
arguments of every call. `Collect.lean` and `Engine.lean` look the answers up in the state of a
cluster, which says what a diagnosis finds; this says what it asks for, whatever is answered. The two
agree where a cluster answers (`run_diagnoseCalls`).

Bounds on what a diagnosis does to a cluster, and the confinement to a namespace, need the calls
themselves: they must hold for every answer, also for those that no cluster gives. So the programs
are walked through once for each of the two purposes.
-/

namespace SreAgent.Rca

open Interaction (Prog)
open Kube (Client Read)
open Tools (KubeCall Run Upstream Within)

/-! ## The programs

The same control flow as in `Collect.lean`, function by function, with a question in each place
where a client is called. An exception that `_try` or the fan-out catches is an answer here, not the
end of the program. -/

/-- A read whose exception is caught. -/
def read (place : Read) (c : KubeCall) : Run (Except Exc c.Reply) :=
  Prog.request (Upstream.kube c (some place))

/-- One attempt to resolve the subject, as `_try` runs it. -/
abbrev AttemptCalls := Resolution → Run (Bool × Resolution)

/-- `_pod`. -/
def podCalls (ns subject : String) : AttemptCalls := fun r => do
  match ← read .resolvePod (.readPod ns subject) with
  | .error _ => pure (false, r)
  | .ok _    => pure (true, { r with podNames := [subject] })

/-- What `_deploy` and `_sts` do with the workload they read. -/
def workloadCalls (podsAt : Read) (ns : String) (workload : Except Exc Kube.Workload) :
    AttemptCalls := fun r =>
  match workload with
  | .error _ => pure (false, r)
  | .ok w    => do
    let labels := w.selector.matchLabels
    match ← read podsAt (.listPods ns (some (Kube.encodeLabels labels))) with
    | .error _ => pure (false, { r with selectorLabels := labels })
    | .ok pods =>
      pure (true, { r with selectorLabels := labels, podNames := pods.map Kube.Pod.name })

/-- `_deploy`. -/
def deploymentCalls (ns subject : String) : AttemptCalls := fun r => do
  let workload ← read .resolveDeployment (.readDeployment ns subject)
  workloadCalls .deploymentPods ns workload r

/-- `_sts`. -/
def statefulSetCalls (ns subject : String) : AttemptCalls := fun r => do
  let workload ← read .resolveStatefulSet (.readStatefulSet ns subject)
  workloadCalls .statefulSetPods ns workload r

/-- What `_job` does with the job it reads. -/
def jobPodCalls (ns subject : String) (job : Except Exc Kube.Job) : AttemptCalls := fun r =>
  match job with
  | .error _ => pure (false, r)
  | .ok job  => do
    let r := { r with
      job := some
        { name := subject
          failed := job.failed
          succeeded := job.succeeded
          conditions := job.conditions.map fun c => ⟨c.type, c.reason, c.message⟩ } }
    match ← read .jobPods (.listPods ns (some ("job-name=" ++ subject))) with
    | .error _ => pure (false, r)
    | .ok pods => pure (true, { r with podNames := pods.map Kube.Pod.name })

/-- `_job`. -/
def jobCalls (ns subject : String) : AttemptCalls := fun r => do
  let job ← read .resolveJob (.readJob ns subject)
  jobPodCalls ns subject job r

/-- `a or b`. -/
def orCalls (a b : AttemptCalls) : AttemptCalls := fun r => do
  match ← a r with
  | (true, r)  => pure (true, r)
  | (false, r) => b r

/-- `_try(_pod) or _try(_deploy) or _try(_sts) or _try(_job)`. -/
def resolveCalls (ns subject : String) : Run (Bool × Resolution) :=
  orCalls (orCalls (orCalls (podCalls ns subject) (deploymentCalls ns subject))
    (statefulSetCalls ns subject)) (jobCalls ns subject) {}

/-- `_read_logs`. -/
def logCalls (place : Read) (ns pod : String) (container : Option String) (previous : Bool) :
    Run (List String) := do
  match ← read place (.readPodLog ns pod container 120 previous false) with
  | .ok text => pure (Py.splitlines text)
  | .error _ => pure []

/-- The reads issued for the first pod of the subject. -/
def podFanOutCalls (ns pod : String) :
    Run ((Describe × List String) × List String × List String) := do
  let describe ← read .describe (.readPod ns pod)
  let logs ← logCalls .logs ns pod none false
  let previousLogs ← logCalls .previousLogs ns pod none true
  pure (degrade "describe" {} (describe.map describePod), logs, previousLogs)

/-- The fan-out. The reads run concurrently in the code, none of them depends on another. -/
def fanOutCalls (ns : String) (target : Option String) : Run FanOut := do
  let events ← read .events (.listEvents ns none)
  let nodes ← read .nodes .listNodes
  let secrets ← read .secrets (.listSecrets ns)
  let services ← read .services (.listServices ns)
  let hpas ← read .hpas (.listHpas ns)
  let pdbs ← read .pdbs (.listPdbs ns)
  let (describe, logs, previousLogs) ← match target with
    | some pod => podFanOutCalls ns pod
    | none     => pure (({}, []), [], [])
  let events := degrade "events" [] events
  let nodes := degrade "nodes" [] nodes
  let secrets := degrade "secrets" [] (secrets.map secretChangesOf)
  let services := degrade "services" [] services
  let hpas := degrade "hpas" [] hpas
  let pdbs := degrade "pdbs" [] pdbs
  pure
    { events := events.1
      nodes := nodes.1
      secrets := secrets.1
      services := services.1
      hpas := hpas.1
      pdbs := pdbs.1
      describe := describe.1
      logs := logs
      previousLogs := previousLogs
      degradedReads := events.2 ++ nodes.2 ++ secrets.2 ++ services.2 ++ hpas.2 ++ pdbs.2 ++
        describe.2 }

/-- The logs of the init container that fails. -/
def initLogCalls (ns : String) (target : Option String) (describe : Describe) :
    Run (List String) :=
  match target, failingInit describe with
  | some pod, some c => logCalls .initLogs ns pod (nonEmpty (some c.name)) false
  | _, _             => pure []

def noObjects : Client where
  namespaces _ := { pods := [], pods_nodup := List.nodup_nil }

/-- `collect_context` behind the namespace guard, with the clients of the cluster at hand. -/
def collectFromCalls (clusterName ns subject : String) (now : Kube.Timestamp) : Run Context := do
  let (resolved, r) ← resolveCalls ns subject
  let allPods ← read .podList (.listPods ns none)
  let allPods ← Prog.lift allPods
  let results ← fanOutCalls ns (targetPod r.podNames)
  let pdbs ← Prog.lift (selectPdbs r.selectorLabels results.pdbs)
  let initLogs ← initLogCalls ns (targetPod r.podNames) results.describe
  let anchor ← Prog.lift (failureAnchor (selectEvents subject r.podNames results.events)
    ((allPods.filter fun p => r.podNames.contains p.name).map podInfo)
    (podStartTime allPods (targetPod r.podNames)))
  -- `bundle` looks up nothing but the init logs, which were read above
  let ctx := { bundle noObjects clusterName ns subject resolved r allPods results
    pdbs anchor with initLogs }
  let recent ← Prog.lift (findRecentChange ctx now.value)
  pure { ctx with recentChange := recent }

/-- `collect_context`. After the first one, `mgr.clients(cluster)` is a look into the cache. -/
def collectCalls (registry : ClusterRegistry) (now : Kube.Timestamp) (cluster : Option String)
    (ns subject : String) : Run Context := do
  let cfg ← Tools.guardNamespace registry cluster ns
  Tools.clients registry cluster
  collectFromCalls cfg.name ns subject now

def runbookCalls (ragEnabled : Bool) (top : Hypothesis) : Run Hypothesis :=
  if !ragEnabled then pure top
  else do
    let hits ← Prog.request (Upstream.knowledge (top.issue ++ " " ++ top.rootCause))
    pure (attachRunbook { enabled := true, lookup := fun _ => hits } top)

def diagnoseCalls (registry : ClusterRegistry) (now : Kube.Timestamp) (ragEnabled : Bool)
    (cluster : Option String) (ns subject : String) : Run RCAReport := do
  let ctx ← collectCalls registry now cluster ns subject
  match evaluate ctx with
  | [] => do
    let timeline ← Prog.lift (buildTimeline ctx)
    pure (noFindings ctx ns subject timeline)
  | top :: others => do
    let top ← runbookCalls ragEnabled { top with evidence := top.evidence ++ degradedEvidence ctx }
    let timeline ← Prog.lift (buildTimeline ctx)
    Prog.lift (reportOn ctx ns subject top others timeline)

/-! ## The answers of a cluster

A fixed cluster answers a question in the same way at any time, so a program is evaluated against it
like a function. Each program has an equation that says what it comes to; they are used from the
inside out. -/

/-- What a cluster answers at a place of `collect_context`. Events are listed there without a field
selector, and what follows the nodes is not asked for. -/
def kubeReply (cl : Client) (place : Read) : (c : KubeCall) → Except Exc c.Reply
  | .listPods ns selector => cl.listPods place ns (selector.getD "")
  | .readPod ns name => cl.readPod place ns name
  | .readPodLog ns pod container _ previous _ => readPodLog cl place ns pod container previous
  | .listEvents ns _ => cl.attempt place (.ok (cl.namespaces ns).events)
  | .readDeployment ns name =>
    cl.attempt place (Kube.byName Kube.Workload.name (cl.namespaces ns).deployments name)
  | .readStatefulSet ns name =>
    cl.attempt place (Kube.byName Kube.Workload.name (cl.namespaces ns).statefulSets name)
  | .readJob ns name =>
    cl.attempt place (Kube.byName Kube.Job.name (cl.namespaces ns).jobs name)
  | .listServices ns => cl.attempt place (.ok (cl.namespaces ns).services)
  | .listSecrets ns => cl.attempt place (.ok (cl.namespaces ns).secrets)
  | .listHpas ns => cl.attempt place (.ok (cl.namespaces ns).hpas)
  | .listPdbs ns => cl.attempt place (.ok (cl.namespaces ns).pdbs)
  | .listNodes => cl.attempt place (.ok cl.nodes)
  | .listDeployments _ => .error (.apiException 404)
  | .listDaemonSets _ => .error (.apiException 404)
  | .listIngresses _ => .error (.apiException 404)
  | .listConfigMaps _ => .error (.apiException 404)
  | .listCustomObjects .. => .error (.apiException 404)

/-- What the surroundings of a diagnosis answer. Nothing is asked over HTTP. -/
def worldReply (w : World) (rb : Runbooks) (cl : Client) : (q : Upstream) → q.Reply
  | .connect cfg          => (w.clients cfg).map fun _ => ()
  | .kube c (some place)  => kubeReply cl place c
  | .kube _ none          => .error (.apiException 404)
  | .get _                => .raised (.other "no backend")
  | .knowledge query      => rb.lookup query

section

variable {w : World} {rb : Runbooks} {cl : Client}

/-- Asking, and going on with the answer of the cluster. -/
theorem eval_read_bind {β : Type} (place : Read) (c : KubeCall)
    (f : Except Exc c.Reply → Run β) :
    (read place c >>= f).eval (worldReply w rb cl) =
      (f (kubeReply cl place c)).eval (worldReply w rb cl) := rfl

/-- The four attempts to resolve a subject, of which two read a workload first (a Deployment or a
StatefulSet), and one a job, whose pods carry its name in a label, one after the other, come to what
`resolveSubject` says. -/
theorem eval_podCalls (ns subject : String) (r : Resolution) :
    (podCalls ns subject r).eval (worldReply w rb cl) = .ok (tryPod cl ns subject r) := by
  unfold podCalls tryPod
  simp only [eval_read_bind, kubeReply]
  cases cl.readPod .resolvePod ns subject <;> rfl

theorem eval_workloadCalls {readAt podsAt : Read} {workloads : List Kube.Workload}
    (ns subject : String) (r : Resolution) :
    (workloadCalls podsAt ns
        (cl.attempt readAt (Kube.byName Kube.Workload.name workloads subject)) r).eval
      (worldReply w rb cl) = .ok (tryWorkload cl readAt podsAt workloads ns subject r) := by
  unfold workloadCalls tryWorkload
  cases cl.attempt readAt (Kube.byName Kube.Workload.name workloads subject) with
  | error e => rfl
  | ok workload =>
      simp only [eval_read_bind, kubeReply, Option.getD_some]
      cases cl.listPods podsAt ns (Kube.encodeLabels workload.selector.matchLabels) <;> rfl

theorem eval_deploymentCalls (ns subject : String) (r : Resolution) :
    (deploymentCalls ns subject r).eval (worldReply w rb cl) =
      .ok (tryDeployment cl ns subject r) := by
  unfold deploymentCalls
  rw [eval_read_bind]
  exact eval_workloadCalls ns subject r

theorem eval_statefulSetCalls (ns subject : String) (r : Resolution) :
    (statefulSetCalls ns subject r).eval (worldReply w rb cl) =
      .ok (tryStatefulSet cl ns subject r) := by
  unfold statefulSetCalls
  rw [eval_read_bind]
  exact eval_workloadCalls ns subject r

theorem eval_jobPodCalls (ns subject : String) (r : Resolution) :
    (jobPodCalls ns subject
        (cl.attempt .resolveJob (Kube.byName Kube.Job.name (cl.namespaces ns).jobs subject)) r).eval
      (worldReply w rb cl) = .ok (tryJob cl ns subject r) := by
  unfold jobPodCalls tryJob
  cases cl.attempt .resolveJob (Kube.byName Kube.Job.name (cl.namespaces ns).jobs subject) with
  | error e => rfl
  | ok job =>
      simp only [eval_read_bind, kubeReply, Option.getD_some]
      cases cl.listPods .jobPods ns ("job-name=" ++ subject) <;> rfl

theorem eval_jobCalls (ns subject : String) (r : Resolution) :
    (jobCalls ns subject r).eval (worldReply w rb cl) = .ok (tryJob cl ns subject r) := by
  unfold jobCalls
  rw [eval_read_bind]
  exact eval_jobPodCalls ns subject r

theorem eval_orCalls {a b : AttemptCalls} {a' b' : Attempt}
    (ha : ∀ r, (a r).eval (worldReply w rb cl) = .ok (a' r))
    (hb : ∀ r, (b r).eval (worldReply w rb cl) = .ok (b' r)) (r : Resolution) :
    (orCalls a b r).eval (worldReply w rb cl) = .ok (orTry a' b' r) := by
  unfold orCalls orTry
  rw [Prog.eval_bind, ha]
  obtain ⟨_ | _, r'⟩ := a' r
  · exact hb r'
  · rfl

theorem eval_resolveCalls (ns subject : String) :
    (resolveCalls ns subject).eval (worldReply w rb cl) = .ok (resolveSubject cl ns subject) := by
  apply eval_orCalls
  · apply eval_orCalls
    · exact eval_orCalls (eval_podCalls ns subject) (eval_deploymentCalls ns subject)
    · exact eval_statefulSetCalls ns subject
  · exact eval_jobCalls ns subject

/-- So do the reads of logs, the fan-out, the logs of an init container, and with them the whole
collection, behind the namespace guard as well. -/
theorem eval_logCalls (place : Read) (ns pod : String) (container : Option String)
    (previous : Bool) :
    (logCalls place ns pod container previous).eval (worldReply w rb cl) =
      .ok (readLogs cl place ns pod container previous) := by
  unfold logCalls readLogs
  simp only [eval_read_bind, kubeReply]
  cases readPodLog cl place ns pod container previous <;> rfl

theorem eval_fanOutCalls (ns : String) (target : Option String) :
    (fanOutCalls ns target).eval (worldReply w rb cl) = .ok (fanOut cl ns target) := by
  unfold fanOutCalls fanOut
  simp only [eval_read_bind, kubeReply]
  cases target with
  | none => rfl
  | some pod =>
      simp only [podFanOutCalls, Prog.eval_bind, eval_logCalls, Except.bind]
      rfl

theorem eval_initLogCalls (ns : String) (target : Option String) (describe : Describe) :
    (initLogCalls ns target describe).eval (worldReply w rb cl) =
      .ok (match target, failingInit describe with
        | some pod, some c => readLogs cl .initLogs ns pod (nonEmpty (some c.name)) false
        | _, _             => []) := by
  unfold initLogCalls
  cases target with
  | none => rfl
  | some pod =>
      cases failingInit describe with
      | none => rfl
      | some c => exact eval_logCalls ..

theorem eval_collectFromCalls (clusterName ns subject : String) (now : Kube.Timestamp) :
    (collectFromCalls clusterName ns subject now).eval (worldReply w rb cl) =
      collectFrom cl clusterName ns subject now := by
  -- the list of all pods is asked for without a selector
  have hlist : cl.listPods .podList ns ((none : Option String).getD "") =
      cl.attempt .podList (.ok (cl.namespaces ns).pods) := by
    unfold Client.listPods
    have hall : (cl.namespaces ns).pods.filter (fun p => Kube.selects "" p.labels) =
        (cl.namespaces ns).pods := List.filter_eq_self.mpr fun p _ => rfl
    exact congrArg (fun pods => cl.attempt .podList (.ok pods)) hall
  unfold collectFromCalls collectFrom
  rw [Prog.eval_bind, eval_resolveCalls]
  obtain ⟨resolved, r⟩ := resolveSubject cl ns subject
  show Prog.eval _ (read .podList (.listPods ns none) >>= _) = _
  rw [eval_read_bind, kubeReply, hlist]
  cases cl.attempt .podList (.ok (cl.namespaces ns).pods) with
  | error e => rfl
  | ok allPods =>
      simp only [Prog.eval_bind, Prog.eval_lift, eval_fanOutCalls, eval_initLogCalls]
      rfl

theorem eval_collectCalls {cluster : Option String} {cfg : ClusterConfig}
    (hcfg : w.registry.get cluster = .ok cfg) (hcl : w.clients cfg = .ok cl) (ns subject : String) :
    (collectCalls w.registry w.now cluster ns subject).eval (worldReply w rb cl) =
      collectContext w cluster ns subject := by
  unfold collectCalls collectContext
  cases hallowed : cfg.namespaceAllowed ns with
  | false =>  -- the guard ends both before anything is asked
      obtain ⟨msg, hdenied⟩ := guardNamespace_denied hcfg hallowed
      rw [Tools.guardNamespace, hdenied]
      rfl
  | true =>
      have hclients : (Tools.clients w.registry cluster).eval (worldReply w rb cl) = .ok () := by
        rw [Tools.clients, hcfg]
        show Prog.eval _ (Prog.lift ((w.clients cfg).map fun _ => ())) = _
        rw [hcl]
        rfl
      rw [Tools.guardNamespace, guardNamespace_allowed hcfg hallowed]
      show Prog.eval _ (Tools.clients w.registry cluster >>= _) = w.clients cfg >>= _
      rw [Prog.eval_bind, hclients, hcl]
      exact eval_collectFromCalls cfg.name ns subject w.now

/-- The runbook is looked up at most once. -/
theorem eval_runbookCalls (top : Hypothesis) :
    (runbookCalls rb.enabled top).eval (worldReply w rb cl) = .ok (attachRunbook rb top) := by
  unfold runbookCalls attachRunbook
  cases rb.enabled with
  | false => rfl
  | true => rfl

/-- The calls find what a diagnosis finds. -/
theorem eval_diagnoseCalls {cluster : Option String} {cfg : ClusterConfig}
    (hcfg : w.registry.get cluster = .ok cfg) (hcl : w.clients cfg = .ok cl) (ns subject : String) :
    (diagnoseCalls w.registry w.now rb.enabled cluster ns subject).eval (worldReply w rb cl) =
      diagnose w rb cluster ns subject := by
  unfold diagnoseCalls diagnose
  rw [Prog.eval_bind, eval_collectCalls hcfg hcl]
  cases collectContext w cluster ns subject with
  | error e => rfl
  | ok ctx =>
      show Prog.eval _ (match evaluate ctx with
        | []            => _
        | top :: others => _) = diagnoseContext rb ctx ns subject
      unfold diagnoseContext
      cases evaluate ctx with
      | nil =>  -- without findings there is no runbook to look for
          dsimp only
          rw [Prog.eval_bind, Prog.eval_lift]
          rfl
      | cons top others =>
          dsimp only
          rw [Prog.eval_bind, eval_runbookCalls]
          show Prog.eval _ (Prog.lift (buildTimeline ctx) >>= _) = _
          rw [Prog.eval_bind, Prog.eval_lift]
          cases buildTimeline ctx with
          | error e => rfl
          | ok timeline => exact Prog.eval_lift _

/-- **A run against a cluster** ends with the diagnosis: the program that asks comes to what the
function of the cluster's state says. -/
theorem run_diagnoseCalls {cluster : Option String} {cfg : ClusterConfig}
    (hcfg : w.registry.get cluster = .ok cfg) (hcl : w.clients cfg = .ok cl) (ns subject : String) :
    ((diagnoseCalls w.registry w.now rb.enabled cluster ns subject).run
      (fun _ => worldReply w rb cl) []).2 = diagnose w rb cluster ns subject := by
  rw [Prog.run_eval]
  exact eval_diagnoseCalls hcfg hcl ns subject

end

/-! ## Confinement

By the same walk: every question names the namespace of the diagnosis, or is about nodes. What is
answered plays no part, so it holds however the cluster behaves. -/

section

variable {ns : String}

theorem read_within {place : Read} {c : KubeCall}
    (h : c.namespace_ = none ∨ c.namespace_ = some ns) : (read place c).All (Within ns) :=
  Prog.All.request h

/-- The attempts to resolve the subject, for each kind of workload and for a job, one or the other,
stay in the namespace. -/
theorem podCalls_within (subject : String) (r : Resolution) :
    (podCalls ns subject r).All (Within ns) := by
  apply Prog.All.bind (read_within (.inr rfl))
  rintro (e | pod) <;> exact Prog.All.pure _

theorem workloadCalls_within (podsAt : Read) (workload : Except Exc Kube.Workload)
    (r : Resolution) : (workloadCalls podsAt ns workload r).All (Within ns) := by
  cases workload with
  | error e => exact Prog.All.pure _
  | ok w =>
      apply Prog.All.bind (read_within (.inr rfl))
      rintro (e | pods) <;> exact Prog.All.pure _

theorem jobPodCalls_within (subject : String) (job : Except Exc Kube.Job) (r : Resolution) :
    (jobPodCalls ns subject job r).All (Within ns) := by
  cases job with
  | error e => exact Prog.All.pure _
  | ok job =>
      apply Prog.All.bind (read_within (.inr rfl))
      rintro (e | pods) <;> exact Prog.All.pure _

theorem orCalls_within {a b : AttemptCalls} (ha : ∀ r, (a r).All (Within ns))
    (hb : ∀ r, (b r).All (Within ns)) (r : Resolution) : (orCalls a b r).All (Within ns) := by
  apply Prog.All.bind (ha r)
  rintro ⟨_ | _, r'⟩
  · exact hb r'
  · exact Prog.All.pure _

theorem resolveCalls_within (subject : String) : (resolveCalls ns subject).All (Within ns) := by
  have hdeployment : ∀ r, (deploymentCalls ns subject r).All (Within ns) := fun r =>
    Prog.All.bind (read_within (.inr rfl)) fun w => workloadCalls_within _ w r
  have hstatefulSet : ∀ r, (statefulSetCalls ns subject r).All (Within ns) := fun r =>
    Prog.All.bind (read_within (.inr rfl)) fun w => workloadCalls_within _ w r
  have hjob : ∀ r, (jobCalls ns subject r).All (Within ns) := fun r =>
    Prog.All.bind (read_within (.inr rfl)) fun job => jobPodCalls_within subject job r
  apply orCalls_within
  · exact orCalls_within (orCalls_within (podCalls_within subject) hdeployment) hstatefulSet
  · exact hjob

/-- So do the reads of logs, what is read of the first pod, the fan-out, the logs of an init
container and the collection as a whole. -/
theorem logCalls_within (place : Read) (pod : String) (container : Option String)
    (previous : Bool) : (logCalls place ns pod container previous).All (Within ns) := by
  apply Prog.All.bind (read_within (.inr rfl))
  rintro (e | text) <;> exact Prog.All.pure _

theorem podFanOutCalls_within (pod : String) : (podFanOutCalls ns pod).All (Within ns) := by
  apply Prog.All.bind (read_within (.inr rfl))
  intro describe
  apply Prog.All.bind (logCalls_within _ pod none false)
  intro logs
  apply Prog.All.bind (logCalls_within _ pod none true)
  intro previousLogs
  exact Prog.All.pure _

theorem fanOutCalls_within (target : Option String) : (fanOutCalls ns target).All (Within ns) := by
  apply Prog.All.bind (read_within (.inr rfl))
  intro events
  apply Prog.All.bind (read_within (.inl rfl))  -- nodes are of no namespace
  intro nodes
  apply Prog.All.bind (read_within (.inr rfl))
  intro secrets
  apply Prog.All.bind (read_within (.inr rfl))
  intro services
  apply Prog.All.bind (read_within (.inr rfl))
  intro hpas
  apply Prog.All.bind (read_within (.inr rfl))
  intro pdbs
  cases target with
  | none => exact Prog.All.pure _
  | some pod => exact Prog.All.bind (podFanOutCalls_within pod) fun x => Prog.All.pure _

theorem initLogCalls_within (target : Option String) (describe : Describe) :
    (initLogCalls ns target describe).All (Within ns) := by
  unfold initLogCalls
  split
  · exact logCalls_within ..
  · exact Prog.All.pure _

theorem collectFromCalls_within (clusterName subject : String) (now : Kube.Timestamp) :
    (collectFromCalls clusterName ns subject now).All (Within ns) := by
  -- the calls of the collector in its order; what is computed in between asks nothing
  apply Prog.All.bind (resolveCalls_within subject)
  rintro ⟨resolved, r⟩
  apply Prog.All.bind (read_within (.inr rfl))
  intro allPods
  apply Prog.All.bind (Prog.All.lift _)
  intro allPods
  apply Prog.All.bind (fanOutCalls_within _)
  intro results
  apply Prog.All.bind (Prog.All.lift _)
  intro pdbs
  apply Prog.All.bind (initLogCalls_within _ _)
  intro initLogs
  apply Prog.All.bind (Prog.All.lift _)
  intro anchor
  exact Prog.All.bind (Prog.All.lift _) fun recent => Prog.All.pure _

/-- The knowledge base is no cluster. -/
theorem runbookCalls_within (ragEnabled : Bool) (top : Hypothesis) :
    (runbookCalls ragEnabled top).All (Within ns) := by
  cases ragEnabled with
  | false => exact Prog.All.pure _
  | true => exact Prog.All.bind (Prog.All.request trivial) fun hits => Prog.All.pure _

/-- **A diagnosis asks about its namespace only**, whatever it is answered: the subject may be any
text, and events and pods may be of any name. -/
theorem diagnoseCalls_within (registry : ClusterRegistry) (now : Kube.Timestamp)
    (ragEnabled : Bool) (cluster : Option String) (subject : String) :
    (diagnoseCalls registry now ragEnabled cluster ns subject).All (Within ns) := by
  -- asking for a client is within every namespace
  have hcollect : (collectCalls registry now cluster ns subject).All (Within ns) := by
    apply Prog.All.bind (Prog.All.lift _)
    intro cfg
    apply Prog.All.bind (Tools.clients_all fun _ => trivial)
    intro
    exact collectFromCalls_within cfg.name subject now
  apply Prog.All.bind hcollect
  intro ctx
  cases evaluate ctx with
  | nil => exact Prog.All.bind (Prog.All.lift _) fun timeline => Prog.All.pure _
  | cons top others =>
      apply Prog.All.bind (runbookCalls_within ragEnabled _)
      intro top
      exact Prog.All.bind (Prog.All.lift _) fun timeline => Prog.All.lift _

end

end SreAgent.Rca
