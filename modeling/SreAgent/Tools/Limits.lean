import SreAgent.Lib.SideBySide
import SreAgent.Tools.Namespaced

/-!
# How much a tool asks for

A tool with a namespace asks at most twenty questions, however large the cluster is and whatever is
answered: there is no loop over pods or events that asks anything. None of its requests to an HTTP
backend carries a header (`ToolCall.program_limited`).

The bound is found by adding up: each call of a program counts once, an alternative counts as both
of its sides where it may try one after the other, and the retry of a request counts three times.
Loops over what was answered make no calls, so their length does not matter. The largest tool is the
diagnosis, with eighteen reads of the cluster, a client and a search.
-/

namespace SreAgent.Tools

open Interaction (Prog)
open Interaction.Prog (Limited)

/-- A question that carries no header. -/
def Quiet : Upstream → Prop
  | .get request => request.headers = []
  | _            => True

variable {P : Upstream → Prop} {ns : String} {n : ℕ}

/-! ## A diagnosis

The reads of the resolver, of the fan-out and of the logs, in the order of the collector. Some
depend on answers: whether the name is a pod, a workload or a job decides how many attempts are
made, and the bound is that of the longest way. -/

section

variable {r : Rca.Resolution}

/-- One read is one call: looking for a pod, finding the pods of a workload, or finding those of a
job. -/
theorem read_limited (place : Kube.Read) (c : KubeCall) : (Rca.read place c).Limited Quiet 1 :=
  Limited.request trivial

theorem podCalls_limited (subject : String) : (Rca.podCalls ns subject r).Limited Quiet 1 := by
  apply Limited.last (read_limited ..)
  rintro (e | pod) <;> exact Limited.pure _

theorem workloadCalls_limited (podsAt : Kube.Read) (workload : Except Exc Kube.Workload) :
    (Rca.workloadCalls podsAt ns workload r).Limited Quiet 1 := by
  cases workload with
  | error e => exact Limited.pure _
  | ok w =>
      apply Limited.last (read_limited ..)
      rintro (e | pods) <;> exact Limited.pure _

theorem jobPodCalls_limited (subject : String) (job : Except Exc Kube.Job) :
    (Rca.jobPodCalls ns subject job r).Limited Quiet 1 := by
  cases job with
  | error e => exact Limited.pure _
  | ok job =>
      apply Limited.last (read_limited ..)
      rintro (e | pods) <;> exact Limited.pure _

/-- The second attempt comes on top of the first. -/
theorem orCalls_limited {a b : Rca.AttemptCalls} {m : ℕ} (ha : ∀ r, (a r).Limited Quiet m)
    (hb : ∀ r, (b r).Limited Quiet n) : (Rca.orCalls a b r).Limited Quiet (m + n) := by
  apply Limited.bind (ha r)
  rintro ⟨_ | _, r'⟩
  · exact hb r'
  · exact Limited.pure _

/-- All attempts at a name count together. A log is one call, a pod takes three, the fan-out nine,
and the log of an init container one, if one failed. -/
theorem resolveCalls_limited (subject : String) :
    (Rca.resolveCalls ns subject).Limited Quiet 7 := by
  have hdeployment : ∀ r, (Rca.deploymentCalls ns subject r).Limited Quiet 2 := by
    intro r
    apply Limited.first (read_limited ..)
    exact fun w => workloadCalls_limited _ w
  have hstatefulSet : ∀ r, (Rca.statefulSetCalls ns subject r).Limited Quiet 2 := by
    intro r
    apply Limited.first (read_limited ..)
    exact fun w => workloadCalls_limited _ w
  have hjob : ∀ r, (Rca.jobCalls ns subject r).Limited Quiet 2 := by
    intro r
    apply Limited.first (read_limited ..)
    exact fun job => jobPodCalls_limited subject job
  -- one read for a pod by its name, and two for every owner tried after it
  have hpod : ∀ r, (Rca.podCalls ns subject r).Limited Quiet 1 := fun r => podCalls_limited subject
  exact orCalls_limited (fun r => orCalls_limited (fun r => orCalls_limited hpod hdeployment)
    hstatefulSet) hjob

theorem logCalls_limited (place : Kube.Read) (pod : String) (container : Option String)
    (previous : Bool) : (Rca.logCalls place ns pod container previous).Limited Quiet 1 := by
  apply Limited.last (read_limited ..)
  rintro (e | text) <;> exact Limited.pure _

theorem podFanOutCalls_limited (pod : String) : (Rca.podFanOutCalls ns pod).Limited Quiet 3 := by
  apply Limited.first (read_limited ..)
  intro describe
  apply Limited.first (logCalls_limited ..)
  intro logs
  apply Limited.last (logCalls_limited ..)
  exact fun previousLogs => Limited.pure _

theorem fanOutCalls_limited (target : Option String) :
    (Rca.fanOutCalls ns target).Limited Quiet 9 := by
  apply Limited.first (read_limited ..)  -- six reads of the namespace, then three of the chosen pod
  intro events
  apply Limited.first (read_limited ..)
  intro nodes
  apply Limited.first (read_limited ..)
  intro secrets
  apply Limited.first (read_limited ..)
  intro services
  apply Limited.first (read_limited ..)
  intro hpas
  apply Limited.first (read_limited ..)
  intro pdbs
  cases target with
  | none => exact Limited.pure _
  | some pod =>
      exact Limited.last (podFanOutCalls_limited pod) fun x => Limited.pure _

theorem initLogCalls_limited (target : Option String) (describe : Rca.Describe) :
    (Rca.initLogCalls ns target describe).Limited Quiet 1 := by
  unfold Rca.initLogCalls
  split
  · exact logCalls_limited ..
  · exact Limited.pure _

/-- These are the reads of a context. -/
theorem collectFromCalls_limited (clusterName subject : String) (now : Kube.Timestamp) :
    (Rca.collectFromCalls clusterName ns subject now).Limited Quiet 18 := by
  -- 7 to resolve the subject, the list of pods, 9 side by side, and the log of an init container
  apply Limited.bind_le (n := 11) (by omega) (resolveCalls_limited subject)
  rintro ⟨resolved, r⟩
  apply Limited.first (read_limited ..)
  intro allPods
  apply Limited.lift_bind
  intro allPods _
  apply Limited.bind_le (n := 1) (by omega) (fanOutCalls_limited _)
  intro results
  apply Limited.lift_bind
  intro pdbs _
  apply Limited.last (initLogCalls_limited _ _)
  intro initLogs
  apply Limited.lift_bind
  intro anchor _
  apply Limited.lift_bind
  exact fun recent _ => Limited.pure _

/-- The runbook is searched for once, or not at all, and a client is asked for once. -/
theorem runbookCalls_limited (ragEnabled : Bool) (top : Rca.Hypothesis) :
    (Rca.runbookCalls ragEnabled top).Limited Quiet 1 := by
  cases ragEnabled with
  | false => exact Limited.pure _
  | true =>
      exact Limited.last (Limited.request trivial) fun hits => Limited.pure _

theorem clients_limited (h : ∀ cfg, P (.connect cfg)) (registry : ClusterRegistry)
    (cluster : Option String) : (clients registry cluster).Limited P 1 := by
  apply Limited.lift_bind
  intro cfg _
  apply Limited.last (Limited.request (h cfg))
  exact fun reply => Limited.lift _

/-- **A diagnosis** asks at most twenty times: for a client, for the eighteen reads of the
collection, and for a runbook. -/
theorem diagnoseCalls_limited (registry : ClusterRegistry) (now : Kube.Timestamp)
    (ragEnabled : Bool) (cluster : Option String) (subject : String) :
    (Rca.diagnoseCalls registry now ragEnabled cluster ns subject).Limited Quiet 20 := by
  -- the connection, what is collected, and at the end one search for a runbook
  have hcollect : (Rca.collectCalls registry now cluster ns subject).Limited Quiet 19 := by
    apply Limited.lift_bind
    intro cfg _
    apply Limited.first (clients_limited (fun _ => trivial) registry cluster)
    exact fun _ => collectFromCalls_limited cfg.name subject now
  apply Limited.bind_le (n := 1) (by omega) hcollect
  intro ctx
  cases Rca.evaluate ctx with
  | nil =>
      apply Limited.lift_bind
      exact fun timeline _ => Limited.pure _
  | cons top others =>
      apply Limited.last (runbookCalls_limited ragEnabled _)
      intro top
      apply Limited.lift_bind
      exact fun timeline _ => Limited.lift _

end

/-! ## The other tools

One client and one call for those of Kubernetes, eight for the mesh analysis, and three attempts for
those that ask Prometheus. -/

section

variable {site : Site} {cluster : Option String}

/-- A request is made three times at most, so a query is, and a metric tool asks nothing else. -/
theorem getJson_limited {request : GetRequest} (h : P (.get request)) :
    (getJson request).Limited P 3 := by
  -- every retry is one request more, and the last attempt's error is final
  have hwithin : ∀ more, (getJsonWithin request more).Limited P (more + 1) := by
    intro more
    induction more with
    | zero =>
        exact Limited.last (Limited.request h) fun answer => Limited.lift _
    | succ more ih =>
        apply Limited.first (Limited.request h)
        intro answer
        show (if retryable (Answer.toJson answer) then getJsonWithin request more
          else Prog.lift (Answer.toJson answer)).Limited P (more + 1)
        split
        · exact ih
        · exact Limited.lift _
  exact hwithin 2

theorem query_limited (h : ∀ request : GetRequest, request.headers = [] → P (.get request))
    (promql range : String) : (query site cluster promql range).Limited P 3 := by
  apply Limited.lift_bind
  intro cfg _
  apply Limited.lift_bind
  intro request hrequest
  -- Prometheus is asked without any header, so no credential leaves with the query
  have hquiet : request.headers = [] := by
    unfold queryRequest at hrequest
    split at hrequest
    · rw [← Except.ok.inj hrequest]
    · obtain ⟨times, -, hrequest⟩ := bind_ok hrequest
      rw [← Except.ok.inj hrequest]
  apply Limited.last (getJson_limited (h request hquiet))
  intro data
  apply Limited.lift_bind
  intro data _
  apply Limited.lift_bind
  exact fun result _ => Limited.pure _

theorem metric_limited (t : Template) (pod range : String) :
    (metric t site ns pod cluster range).Limited Quiet 3 := by
  apply Limited.lift_bind
  exact fun cfg _ => query_limited (fun _ hquiet => hquiet) ..

/-- The guard asks nothing; the client and the call are two. -/
theorem guarded_limited (c : KubeCall) : (guarded site cluster ns c).Limited Quiet 2 := by
  apply Limited.lift_bind
  intro cfg _
  apply Limited.first (clients_limited (fun _ => trivial) ..)
  intro
  exact Limited.last (Limited.request trivial) fun reply => Limited.lift _

/-- A list of Istio objects is such a call, the log of a pod is another, and the mesh analysis is
four of the former. -/
theorem listIstio_limited (plural group : String) :
    (listIstio site cluster ns plural group).Limited Quiet 2 :=
  Limited.last (guarded_limited _) fun _ => Limited.lift _

theorem logsPod_limited (pod container : String) (tail : ℤ) (previous : Bool) (grep : String) :
    (logsPod site ns pod cluster container tail previous grep).Limited Quiet 2 :=
  Limited.last (guarded_limited _) fun _ => Limited.pure _

theorem istioMeshAnalyze_limited : (istioMeshAnalyze site ns cluster).Limited Quiet 8 := by
  apply Limited.bind_le (n := 6) (by omega) (listIstio_limited ..)
  intro vs
  apply Limited.bind_le (n := 4) (by omega) (listIstio_limited ..)
  intro dr
  apply Limited.bind_le (n := 2) (by omega) (listIstio_limited ..)
  intro pa
  exact Limited.last (listIstio_limited ..) fun gw => Limited.pure _

/-- The most a tool asks for. -/
def askLimit : ℕ := 20

/-- As limited as any tool is. -/
theorem tool_limited {α : Type} {p : Run α} (hn : n ≤ askLimit) (h : p.Limited P n) :
    Limited P askLimit (discard p : Run Unit) := h.discard.mono (fun _ hq => hq) hn

/-- **A tool with a namespace** asks little, and without headers. -/
theorem ToolCall.program_limited (call : ToolCall) :
    (call.program site ns cluster).Limited Quiet askLimit := by
  cases call with
  | metricCpu | metricMemory | metricNetwork | metricRestarts =>
      exact tool_limited (by decide) (metric_limited ..)
  | logsPod | logsContainer => exact tool_limited (by decide) (logsPod_limited ..)
  | istioGetVirtualservices | istioGetDestinationrules | istioGetGateways
  | istioGetPeerauthentications => exact tool_limited (by decide) (listIstio_limited ..)
  | istioMeshAnalyze => exact tool_limited (by decide) istioMeshAnalyze_limited
  | rcaDiagnose => exact tool_limited (by decide) (diagnoseCalls_limited ..)
  | _ => exact tool_limited (by decide) (guarded_limited _)

end

end SreAgent.Tools
