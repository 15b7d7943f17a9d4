import SreAgent.Tools.Catalogue
import SreAgent.Webapp.LiveChat

/-!
# The registered functions

The functions that `build_server` registers, with the modules they are defined in and with how a call
of them is read from keyword arguments. A `Signature` carries the proof that what it reads is a call
of the tool of its name, so the table `signatures` needs no lemma for each of its 41 rows.

`collect_tools` captures eight of these modules, and thus 39 of the functions; it leaves out two more
because they post (`offered_signatures`).
-/

namespace SreAgent.Webapp.Chat

open Interaction (Prog)
open Py (Json)
open Tools (ServerCall ToolCall)

abbrev Arguments := List (String × Json)

/-! ## Reading arguments

An argument that is missing has its default, if there is one; without one the call is a `TypeError`.
A value of another type than the annotated one is treated alike. -/

section

variable (input : Arguments) (name : String)

/-- A `str`. -/
def textArg : Option String :=
  match Py.member input name with
  | some (.str s) => some s
  | _             => none

/-- A `str` with a default. -/
def textOr (default : String) : Option String :=
  match Py.member input name with
  | some _ => textArg input name
  | none   => some default

/-- `str | None = None`. -/
def optionalText : Option (Option String) :=
  match Py.member input name with
  | none | some .null => some none
  | some _            => (textArg input name).map some

/-- An `int`: no fraction and no exponent. -/
def intArg : Option ℤ :=
  match Py.member input name with
  | some (.num ⟨negative, whole, [], none⟩) => some (if negative then -whole else whole)
  | _                                       => none

def intOr (default : ℤ) : Option ℤ :=
  match Py.member input name with
  | some _ => intArg input name
  | none   => some default

def boolOr (default : Bool) : Option Bool :=
  match Py.member input name with
  | none           => some default
  | some (.bool b) => some b
  | some _         => none

end

/-! ## Signatures

The table is long because there are many functions, but a row has no more in it than the source: the
name, the parameters with their defaults, and the call they make. -/

/-- A function of the server. Its arguments are read before anything else, and make a call of the
tool of its name whatever they are. -/
structure Signature where
  name      : String
  definedIn : ToolModule
  {Args     : Type}
  args      : Arguments → Option Args
  build     : Args → ServerCall
  named     : ∀ a, (build a).name = name

/-- `fn(**input)`, up to where the function begins. -/
def Signature.call (s : Signature) (input : Arguments) : Option ServerCall :=
  (s.args input).map s.build

/-- What is read is a call of the tool of that name. -/
theorem Signature.call_name {s : Signature} {input : Arguments} {c : ServerCall}
    (h : s.call input = some c) : c.name = s.name := by
  obtain ⟨a, -, rfl⟩ := Option.map_eq_some_iff.mp h
  exact s.named a

/-- A function of a namespace and a cluster, with further arguments. -/
def Signature.inNamespace (name : String) (definedIn : ToolModule) {Args : Type}
    (args : Arguments → Option Args) (build : Args → ToolCall) (named : ∀ a, (build a).name = name) :
    Signature where
  name
  definedIn
  args input := do
    return (← textArg input "namespace", ← optionalText input "cluster", ← args input)
  build a := .namespaced a.1 a.2.1 (build a.2.2)
  named a := named a.2.2

def Signature.ofNamespace (name : String) (definedIn : ToolModule) (call : ToolCall)
    (named : call.name = name) : Signature :=
  .inNamespace name definedIn (fun _ => some ()) (fun _ => call) fun _ => named

def kubernetesTools : List Signature :=
  [.inNamespace "k8s_get_pods" .kubernetes (fun i => textOr i "label_selector" "")
     (fun selector => .k8sGetPods selector) fun _ => rfl,
   .inNamespace "k8s_describe_pod" .kubernetes (fun i => textArg i "name")
     (fun name => .k8sDescribePod name) fun _ => rfl,
   .inNamespace "k8s_get_events" .kubernetes (fun i => textOr i "involved_object" "")
     (fun object => .k8sGetEvents object) fun _ => rfl,
   .ofNamespace "k8s_get_deployments" .kubernetes .k8sGetDeployments rfl,
   .ofNamespace "k8s_get_daemonsets" .kubernetes .k8sGetDaemonsets rfl,
   ⟨"k8s_get_nodes", .kubernetes, fun i => optionalText i "cluster", fun cluster =>
     .k8sGetNodes cluster, fun _ => rfl⟩,
   .ofNamespace "k8s_get_services" .kubernetes .k8sGetServices rfl,
   .ofNamespace "k8s_get_ingress" .kubernetes .k8sGetIngress rfl,
   .ofNamespace "k8s_get_configmaps" .kubernetes .k8sGetConfigmaps rfl,
   .ofNamespace "k8s_get_secrets_metadata" .kubernetes .k8sGetSecretsMetadata rfl]

def logsTools : List Signature :=
  [.inNamespace "logs_pod" .logs
     (fun i => do return (← textArg i "pod", ← textOr i "container" "", ← intOr i "tail" 200,
       ← boolOr i "previous" false, ← textOr i "grep" ""))
     (fun (pod, container, tail, previous, grep) => .logsPod pod container tail previous grep)
     fun _ => rfl,
   .inNamespace "logs_container" .logs
     (fun i => do return (← textArg i "pod", ← textArg i "container", ← intOr i "tail" 200))
     (fun (pod, container, tail) => .logsContainer pod container tail) fun _ => rfl,
   ⟨"logs_node", .logs, fun i => do
       return (← textArg i "node", ← optionalText i "cluster", ← textOr i "since" "1h",
         ← textOr i "grep" "kubelet"),
     fun (node, cluster, since, grep) => .logsNode node cluster since grep, fun _ => rfl⟩,
   ⟨"loki_query", .logs, fun i => do
       return (← textArg i "query", ← optionalText i "cluster", ← textOr i "since" "1h",
         ← intOr i "limit" 200),
     fun (query, cluster, since, limit) => .lokiQuery query cluster since limit, fun _ => rfl⟩,
   ⟨"grafana_panel", .logs, fun i => do
       return (← textArg i "dashboard_uid", ← intArg i "panel_id", ← optionalText i "cluster",
         ← textOr i "time_range" "1h"),
     fun (uid, panelId, cluster, timeRange) => .grafanaPanel uid panelId cluster timeRange,
     fun _ => rfl⟩]

def metricsTools : List Signature :=
  [⟨"prom_query", .metrics, fun i => do
       return (← textArg i "promql", ← optionalText i "cluster", ← textOr i "range" ""),
     fun (promql, cluster, range) => .promQuery promql cluster range, fun _ => rfl⟩,
   .inNamespace "metric_cpu" .metrics
     (fun i => do return (← textOr i "pod" "", ← textOr i "range" "30m"))
     (fun (pod, range) => .metricCpu pod range) fun _ => rfl,
   .inNamespace "metric_memory" .metrics
     (fun i => do return (← textOr i "pod" "", ← textOr i "range" "30m"))
     (fun (pod, range) => .metricMemory pod range) fun _ => rfl,
   ⟨"metric_disk", .metrics, fun i => do
       return (← textOr i "node" "", ← optionalText i "cluster", ← textOr i "range" "30m"),
     fun (node, cluster, range) => .metricDisk node cluster range, fun _ => rfl⟩,
   .inNamespace "metric_network" .metrics
     (fun i => do return (← textOr i "pod" "", ← textOr i "range" "30m"))
     (fun (pod, range) => .metricNetwork pod range) fun _ => rfl,
   .inNamespace "metric_restarts" .metrics (fun i => textOr i "range" "1h")
     (fun range => .metricRestarts range) fun _ => rfl]

def gitopsTools : List Signature :=
  [⟨"argocd_app", .gitops, fun i => do return (← textArg i "app", ← optionalText i "cluster"),
     fun (app, cluster) => .argocdApp app cluster, fun _ => rfl⟩,
   ⟨"argocd_sync_status", .gitops, fun i => do
       return (← textArg i "app", ← optionalText i "cluster"),
     fun (app, cluster) => .argocdSyncStatus app cluster, fun _ => rfl⟩,
   ⟨"argocd_history", .gitops, fun i => do
       return (← textArg i "app", ← optionalText i "cluster", ← intOr i "limit" 10),
     fun (app, cluster, limit) => .argocdHistory app cluster limit, fun _ => rfl⟩,
   ⟨"argocd_rollback_info", .gitops, fun i => do
       return (← textArg i "app", ← optionalText i "cluster"),
     fun (app, cluster) => .argocdRollbackInfo app cluster, fun _ => rfl⟩]

def cicdTools : List Signature :=
  [⟨"gitlab_pipelines", .cicd, fun i => do
       return (← textArg i "project", ← textOr i "ref" "", ← textOr i "status" "",
         ← intOr i "limit" 10),
     fun (project, ref, status, limit) => .gitlabPipelines project ref status limit,
     fun _ => rfl⟩,
   ⟨"github_actions_runs", .cicd, fun i => do
       return (← textArg i "repo", ← textOr i "workflow" "", ← textOr i "branch" "",
         ← intOr i "limit" 10),
     fun (repo, workflow, branch, limit) => .githubActionsRuns repo workflow branch limit,
     fun _ => rfl⟩,
   ⟨"recent_deployments", .cicd, fun i => do
       return (← textArg i "repo", ← textOr i "environment" "", ← intOr i "limit" 10),
     fun (repo, environment, limit) => .recentDeployments repo environment limit, fun _ => rfl⟩,
   ⟨"compare_deployments", .cicd, fun i => do
       return (← textArg i "repo", ← textArg i "base_sha", ← textArg i "head_sha"),
     fun (repo, base, head) => .compareDeployments repo base head, fun _ => rfl⟩]

def incidentsTools : List Signature :=
  [⟨"jira_search", .incidents, fun i => do return (← textArg i "jql", ← intOr i "limit" 10),
     fun (jql, limit) => .jiraSearch jql limit, fun _ => rfl⟩,
   ⟨"servicenow_search", .incidents, fun i => do
       return (← textArg i "query", ← textOr i "table" "incident", ← intOr i "limit" 10),
     fun (query, table, limit) => .servicenowSearch query table limit, fun _ => rfl⟩,
   ⟨"slack_post", .incidents, fun i => do return (← textArg i "channel", ← textArg i "text"),
     fun (channel, text) => .slackPost channel text, fun _ => rfl⟩,
   ⟨"teams_post", .incidents, fun i => textArg i "text", fun text => .teamsPost text,
     fun _ => rfl⟩]

def istioTools : List Signature :=
  [.ofNamespace "istio_get_virtualservices" .istio .istioGetVirtualservices rfl,
   .ofNamespace "istio_get_destinationrules" .istio .istioGetDestinationrules rfl,
   .ofNamespace "istio_get_gateways" .istio .istioGetGateways rfl,
   .ofNamespace "istio_get_peerauthentications" .istio .istioGetPeerauthentications rfl,
   .ofNamespace "istio_mesh_analyze" .istio .istioMeshAnalyze rfl]

def rcaTools : List Signature :=
  [.inNamespace "rca_diagnose" .rcaEngine (fun i => textArg i "subject")
     (fun subject => .rcaDiagnose subject) fun _ => rfl]

/-- The search of the knowledge base, registered where `rag_enabled` is set, and `list_clusters`. -/
def otherTools : List Signature :=
  [⟨"kb_search", .ragRetrieve, fun i => do
       return (← textArg i "query", ← optionalText i "cluster", ← textOr i "service" "",
         ← intOr i "top_k" 4),
     fun (query, cluster, service, topK) => .kbSearch query cluster service topK, fun _ => rfl⟩,
   ⟨"list_clusters", .server, fun _ => some (), fun _ => .listClusters, fun _ => rfl⟩]

/-- Everything `build_server` registers, in its order. -/
def signatures : List Signature :=
  kubernetesTools ++ logsTools ++ metricsTools ++ gitopsTools ++ cicdTools ++ incidentsTools ++
    istioTools ++ rcaTools ++ otherTools

/-- No two functions share a name, so nothing is overwritten in the dict of `collect_tools`. -/
theorem signatures_nodup : (signatures.map Signature.name).Nodup := by decide

/-- **What the dashboard offers**: all but the two that post and the two that are not captured. -/
theorem offered_signatures (s : Signature) (hs : s ∈ signatures) :
    offered s.name s.definedIn = false ↔
      s.name ∈ ["slack_post", "teams_post", "kb_search", "list_clusters"] := by
  have hall : ∀ row ∈ signatures.map (fun s => (s.name, s.definedIn)),
      offered row.1 row.2 = false ↔
        row.1 ∈ ["slack_post", "teams_post", "kb_search", "list_clusters"] := by decide
  exact hall (s.name, s.definedIn) (List.mem_map.mpr ⟨s, hs, rfl⟩)

/-! ## The functions at work

A function fails if its arguments do, and otherwise is the program of the call it has read. -/

/-- A registered function of this server. What it returns is not looked at. -/
def Signature.tool (server : Tools.Server) (s : Signature) : LiveTool where
  name := s.name
  definedIn := s.definedIn
  run input :=
    match s.call input with
    | some call => (call.program server).recast (fun _ => .null) fun e =>
      { name := reprStr e, text := "" }
    | none      => .fail { name := "TypeError", text := "missing a required argument" }

/-- It raises at once, or is the tool of its name at work. -/
theorem Signature.tool_genuine (server : Tools.Server) (s : Signature) (input : Arguments) :
    (∃ e, (s.tool server).run input = .fail e) ∨
      ∃ c : ServerCall, c.name = s.name ∧
        ((s.tool server).run input).outline = (c.program server).outline := by
  dsimp only [Signature.tool]
  cases hcall : s.call input with
  -- arguments that do not fit the signature: the call raises before anything is asked
  | none   => exact .inl ⟨_, rfl⟩
  | some c => exact .inr ⟨c, s.call_name hcall, Prog.outline_recast _ _ _⟩

end SreAgent.Webapp.Chat
