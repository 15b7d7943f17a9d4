import SreAgent.Tools.Confinement
import SreAgent.Tools.Outlines

/-!
# What is read of a cluster

Whatever a tool of the server is called with and whatever it is answered, a question to the API of a
cluster that names a namespace names one that the registry allows (`ServerCall.program_permitted`). The
tools with a namespace look at the list first; the others ask no such question.

This is the guard seen from the outside, without saying which tool was called with what. The
permission is one the registry gives: some cluster of it has the namespace on its list. For a tool
with a namespace it is the cluster the tool was called with.
-/

namespace SreAgent.Tools

open Interaction (Prog)

/-- A question about a namespace is about one that a cluster of the registry allows. -/
def Permitted (registry : ClusterRegistry) : Upstream → Prop
  | .kube call _ => ∀ ns, call.namespace_ = some ns →
      ∃ cluster cfg, registry.get cluster = .ok cfg ∧ cfg.namespaceAllowed ns = true
  | _ => True

/-- An effect that, if it is a question, is permitted. -/
def Effect.Permitted (registry : ClusterRegistry) : Effect → Prop
  | .ask q => Tools.Permitted registry q
  | _      => True

/-! ## The tools with a namespace

The guard either fails, and then the tool ends without a question, or it returns the cluster it
looked at. In the second case `SreAgent.Tools.Confinement` says that the tool stays within the
namespace, or that its query is no question to the cluster. -/

section

variable {site : Site} {cluster : Option String} {ns : String}

/-- What the guard ends with ends every tool. -/
theorem program_refused {e : Exc}
    (hguard : guardNamespace site.registry cluster ns = .fail e) (call : ToolCall) :
    call.program site ns cluster = .fail e := by
  -- every tool asks the guard first; only how deep the guard stands in the program differs
  cases call with
  | metricCpu | metricMemory | metricNetwork | metricRestarts =>
      exact Prog.bind_of_fail (Prog.bind_of_fail hguard _) _
  | logsPod | logsContainer | rcaDiagnose =>
      exact Prog.bind_of_fail (Prog.bind_of_fail (Prog.bind_of_fail hguard _) _) _
  | istioGetVirtualservices | istioGetDestinationrules | istioGetGateways
  | istioGetPeerauthentications =>
      exact Prog.bind_of_fail (Prog.bind_of_fail (Prog.bind_of_fail hguard _) _) _
  | istioMeshAnalyze =>
      exact Prog.bind_of_fail
        (Prog.bind_of_fail (Prog.bind_of_fail (Prog.bind_of_fail hguard _) _) _) _
  | _ => exact Prog.bind_of_fail (Prog.bind_of_fail hguard _) _

/-- The guard passes an allowed namespace of a known cluster only. -/
theorem guardNamespace_ok {registry : ClusterRegistry} {cfg : ClusterConfig}
    (h : ClusterManager.guardNamespace { registry } cluster ns = .ok cfg) :
    registry.get cluster = .ok cfg ∧ cfg.namespaceAllowed ns = true := by
  -- an unknown cluster is an error of the registry, a foreign namespace one of the guard
  cases hget : registry.get cluster with
  | error e =>
      rw [ClusterManager.guardNamespace, ClusterManager.resolve, hget] at h
      cases h
  | ok found =>
      cases hallowed : found.namespaceAllowed ns with
      | false =>
          obtain ⟨msg, hdenied⟩ := guardNamespace_denied hget hallowed
          rw [hdenied] at h
          cases h
      | true =>
          rw [guardNamespace_allowed hget hallowed] at h
          rw [← Except.ok.inj h]
          exact ⟨rfl, hallowed⟩

/-- What stays within an allowed namespace is permitted. -/
theorem permitted_of_within {registry : ClusterRegistry} {cfg : ClusterConfig}
    (hcfg : registry.get cluster = .ok cfg) (hallowed : cfg.namespaceAllowed ns = true)
    {q : Upstream} (h : Within ns q) : Permitted registry q := by
  cases q with
  | kube call place =>
      intro ns' hns'
      rcases h with hnone | hsome
      · rw [hnone] at hns'
        cases hns'
      · rw [hsome] at hns'
        rw [← Option.some.inj hns']
        exact ⟨cluster, cfg, hcfg, hallowed⟩
  | _ => trivial

/-- **A tool with a namespace** reads what is permitted: the guard fails, or the tool stays within the
namespace the guard has passed. -/
theorem ToolCall.program_permitted (call : ToolCall) :
    (call.program site ns cluster).All (Permitted site.registry) := by
  cases hguard : ClusterManager.guardNamespace { registry := site.registry } cluster ns with
  | error e =>
      have hfail : guardNamespace site.registry cluster ns = .fail e := by
        rw [guardNamespace, hguard]
        rfl
      rw [program_refused hfail]  -- refused calls ask nothing at all
      trivial
  | ok cfg =>
      obtain ⟨hcfg, hallowed⟩ := guardNamespace_ok hguard
      cases hmetric : call.metric? with
      | none =>
          apply (program_within hmetric).mono
          exact fun q hq => permitted_of_within hcfg hallowed hq
      | some parts =>
          obtain ⟨t, pod, range⟩ := parts
          rw [(ToolCall.metric_cases hmetric).2]
          have hquery : ∀ promql range, (query site cluster promql range).All (Permitted site.registry) :=
            fun promql range => (query_limited (fun _ _ => trivial) promql range).all
          exact discard_all (Prog.All.bind (Prog.All.lift _) fun _ => hquery ..)

end

/-! ## Every tool

The remaining tools ask HTTP backends or list the nodes. Neither is about a namespace. -/

/-- What holds of the questions holds of the effects. -/
theorem asking_permitted {registry : ClusterRegistry} {α : Type} {p : Run α} {n : ℕ}
    (h : p.Limited (Permitted registry) n) :
    (asking (discard p : Run Unit)).All (Effect.Permitted registry) :=
  Prog.All.reask (discard_all h.all)

/-- A request to an HTTP backend is no question to a cluster. -/
theorem get_permitted {registry : ClusterRegistry} (request : GetRequest) :
    Permitted registry (.get request) := trivial

/-- The list of the nodes names no namespace. -/
theorem listNodes_permitted {registry : ClusterRegistry} :
    Permitted registry (.kube .listNodes none) := by
  intro ns hns
  cases hns

/-- **A tool** reads what is permitted, whatever it is called with and whatever it is answered. -/
theorem ServerCall.program_permitted (server : Server) (call : ServerCall) :
    (call.program server).All (Effect.Permitted server.site.registry) := by
  cases call with
  | namespaced ns cluster call => exact Prog.All.reask call.program_permitted
  | k8sGetNodes =>
      exact asking_permitted (k8sGetNodes_limited (fun _ => trivial) listNodes_permitted)
  | logsNode => exact asking_permitted (logsNode_limited (fun _ _ _ => get_permitted _) ..)
  | lokiQuery => exact asking_permitted (lokiQuery_limited (fun _ _ => get_permitted _) _)
  | grafanaPanel => exact asking_permitted (grafanaPanel_limited (fun _ _ => get_permitted _) ..)
  | promQuery | metricDisk =>
      exact asking_permitted (query_limited (fun request _ => get_permitted request) ..)
  | argocdApp => exact asking_permitted (argocdApp_limited fun _ _ => get_permitted _)
  | argocdSyncStatus => exact asking_permitted (argocdSyncStatus_limited fun _ _ => get_permitted _)
  | argocdHistory => exact asking_permitted (argocdHistory_limited (fun _ _ => get_permitted _) _)
  | argocdRollbackInfo =>
      exact asking_permitted (rollbackInfoCalls_limited fun _ _ => get_permitted _)
  | gitlabPipelines => exact asking_permitted (gitlabPipelines_limited (fun _ => get_permitted _) ..)
  | githubActionsRuns =>
      exact asking_permitted (githubActionsRuns_limited (fun _ _ => get_permitted _) ..)
  | recentDeployments =>
      exact asking_permitted (recentDeployments_limited (fun _ _ => get_permitted _) ..)
  | compareDeployments =>
      exact asking_permitted (compareDeployments_limited (fun _ _ => get_permitted _) ..)
  | jiraSearch => exact asking_permitted (jiraSearch_limited (fun _ => get_permitted _) ..)
  | servicenowSearch =>
      exact asking_permitted (servicenowSearch_limited (fun _ => get_permitted _) ..)
  | slackPost => exact (discard_limited (by decide) (slackPostCalls_limited fun _ _ => trivial)).all
  | teamsPost => exact (discard_limited (by decide) (teamsPostCalls_limited fun _ _ => trivial)).all
  | kbSearch => exact (discard_limited (by decide) (kbSearch_limited (fun _ => trivial) _)).all
  | listClusters => exact (discard_limited (Nat.zero_le _) listClusters_limited).all

end SreAgent.Tools
