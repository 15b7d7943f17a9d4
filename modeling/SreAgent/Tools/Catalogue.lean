import SreAgent.Lib.SideBySide
import SreAgent.Tools.Applications
import SreAgent.Tools.Cicd
import SreAgent.Tools.Incidents
import SreAgent.Tools.Namespaced
import SreAgent.Tools.Observed
import SreAgent.Tools.Tickets

/-!
# The tools of the server

Every tool `build_server` registers, as a program over everything a tool does outside: the questions of
`Upstream.lean`, the search of `kb_search` and the posts of `slack_post` and `teams_post`. Clients call
them at the same time and in any number, so what a server does is what these programs do side by side.

The tools of a namespace have their own type, `ToolCall`, since what is proved of them is about the
namespace. Here the rest is added, and the effects that are no questions. The type of calls is what
a client may write: every argument, with the defaults of the signature, and nothing about whether
they make sense.
-/

namespace SreAgent.Tools

open Interaction (Prog)
open Py (Json)

/-! ## Effects

A search is not a question to a cluster and a post is no question at all, so a tool of the server is
a program over a larger set of effects. The tools that only ask are carried over as they are. -/

/-- What a tool does outside. -/
inductive Effect where
  | ask (q : Upstream)
  | search (query : String) (tenants : List String) (service : Option String) (topK : ℤ)
  | post (request : Request)

def Effect.Reply : Effect → Type
  | .ask q     => q.Reply
  | .search .. => Except Exc (List Rag.Hit)
  | .post _    => Answer

abbrev Act (α : Type) := Prog Effect.Reply Exc α

def asking {α : Type} (p : Run α) : Act α := p.reask Effect.ask fun _ reply => reply

/-! ## Posting

The retry is the same as for questions: up to three attempts, and the last one decides. A post that
was accepted and whose answer was lost looks like one that failed, and is made again. -/

/-- An attempt at the post, and at most `more` further ones. -/
def postJsonWithin (request : Request) : (more : Nat) → Act Json
  | 0 => do
    let answer ← Prog.request (Effect.post request)
    Prog.lift (Answer.toResult answer)
  | more + 1 => do
    let answer ← Prog.request (Effect.post request)
    if retryable (Answer.toResult answer) then postJsonWithin request more
    else Prog.lift (Answer.toResult answer)

def postJsonCalls (request : Request) : Act Json := postJsonWithin request (maxAttempts - 1)

def slackRequest (settings : Settings) (channel text : String) : Request where
  url := "https://slack.com/api/chat.postMessage"
  json := .obj [("channel", .str channel), ("text", .str text)]
  headers := [("Authorization", "Bearer " ++ settings.slackBotToken)]

def teamsRequest (settings : Settings) (text : String) : Request where
  url := settings.teamsWebhookUrl
  json := .obj [("text", .str text)]
  headers := []

/-- `{"ok": False, "error": msg}`. -/
def refused (msg : String) : Act Json :=
  pure (.obj [("ok", .bool false), ("error", .str msg)])

def slackPostCalls (settings : Settings) (channel text : String) : Act Json :=
  if !settings.allowNotifications then refused notificationsDisabled
  else if !settings.allowedSlackChannels.contains channel then
    refused ("channel " ++ Py.repr channel ++ " not allow-listed")
  else postJsonCalls (slackRequest settings channel text)

def teamsPostCalls (settings : Settings) (text : String) : Act Json :=
  if !settings.allowNotifications then refused notificationsDisabled
  else if settings.teamsWebhookUrl = "" then refused "TEAMS_WEBHOOK_URL not configured"
  else do
    let _ ← postJsonCalls (teamsRequest settings text)
    return .obj [("ok", .bool true)]

/-! ## The knowledge base and the registry

The two tools that ask no backend. A search is confined to the tenant of the cluster it is made for,
and the list of clusters tells their names and not their credentials. -/

/-- `round(x, 3)`, to the even neighbour from the middle. -/
def round3 (x : ℚ) : ℚ :=
  let n := (x * 1000).floor
  let rest := x * 1000 - n
  if rest < 1 / 2 ∨ rest = 1 / 2 ∧ n % 2 = 0 then n / 1000 else (n + 1) / 1000

structure KbRow where
  title    : String
  source   : String
  url      : Option String
  severity : Option String
  excerpt  : String
  score    : ℚ

def kbRow (h : Rag.Hit) : KbRow :=
  ⟨h.title, h.source, h.url, h.severity, Py.slice h.content 600, round3 h.score⟩

def kbSearch (server : Server) (query : String) (cluster : Option String) (service : String)
    (topK : ℤ) : Act (List KbRow) := do
  let cfg ← Prog.lift (server.registry.get cluster)
  let hits ← Prog.request (Effect.search query [cfg.tenant] (orNone service) topK)
  let hits ← Prog.lift hits
  return hits.map kbRow

structure ClusterRow where
  name       : String
  tenant     : String
  provider   : String
  region     : String
  namespaces : List String
  deriving DecidableEq, Repr

def listClusters (server : Server) : Act (List ClusterRow) :=
  pure (server.registry.clusters.map fun c =>
    ⟨c.name, c.tenant, c.provider, c.region, c.allowedNamespaces⟩)

def k8sGetNodes (server : Server) (cluster : Option String) : Run (List Kube.Node) := do
  clients server.site.registry cluster
  call .listNodes

/-! ## Calls

A call is data, so that a statement may range over all of them, over a list of them that run side by
side, or over those of one name. The name is what a client writes, and what decides which tools the
dashboard is given. -/

/-- A call of a tool, with the defaults of its signature. -/
inductive ServerCall where
  | namespaced (ns : String) (cluster : Option String) (call : ToolCall)
  | k8sGetNodes (cluster : Option String := none)
  | logsNode (node : String) (cluster : Option String := none) (since : String := "1h")
      (grep : String := "kubelet")
  | lokiQuery (query : String) (cluster : Option String := none) (since : String := "1h")
      (limit : ℤ := 200)
  | grafanaPanel (uid : String) (panelId : ℤ) (cluster : Option String := none)
      (timeRange : String := "1h")
  | promQuery (promql : String) (cluster : Option String := none) (range : String := "")
  | metricDisk (node : String := "") (cluster : Option String := none) (range : String := "30m")
  | argocdApp (app : String) (cluster : Option String := none)
  | argocdSyncStatus (app : String) (cluster : Option String := none)
  | argocdHistory (app : String) (cluster : Option String := none) (limit : ℤ := 10)
  | argocdRollbackInfo (app : String) (cluster : Option String := none)
  | gitlabPipelines (project : String) (ref status : String := "") (limit : ℤ := 10)
  | githubActionsRuns (repo : String) (workflow branch : String := "") (limit : ℤ := 10)
  | recentDeployments (repo : String) (environment : String := "") (limit : ℤ := 10)
  | compareDeployments (repo baseSha headSha : String)
  | jiraSearch (jql : String) (limit : ℤ := 10)
  | servicenowSearch (query : String) (table : String := "incident") (limit : ℤ := 10)
  | slackPost (channel text : String)
  | teamsPost (text : String)
  | kbSearch (query : String) (cluster : Option String := none) (service : String := "")
      (topK : ℤ := 4)
  | listClusters
  deriving DecidableEq, Repr

/-- The name a namespaced tool is registered under. -/
def ToolCall.name : ToolCall → String
  | .k8sGetPods ..               => "k8s_get_pods"
  | .k8sDescribePod ..           => "k8s_describe_pod"
  | .k8sGetEvents ..             => "k8s_get_events"
  | .k8sGetDeployments           => "k8s_get_deployments"
  | .k8sGetDaemonsets            => "k8s_get_daemonsets"
  | .k8sGetServices              => "k8s_get_services"
  | .k8sGetIngress               => "k8s_get_ingress"
  | .k8sGetConfigmaps            => "k8s_get_configmaps"
  | .k8sGetSecretsMetadata       => "k8s_get_secrets_metadata"
  | .logsPod ..                  => "logs_pod"
  | .logsContainer ..            => "logs_container"
  | .metricCpu ..                => "metric_cpu"
  | .metricMemory ..             => "metric_memory"
  | .metricNetwork ..            => "metric_network"
  | .metricRestarts ..           => "metric_restarts"
  | .istioGetVirtualservices     => "istio_get_virtualservices"
  | .istioGetDestinationrules    => "istio_get_destinationrules"
  | .istioGetGateways            => "istio_get_gateways"
  | .istioGetPeerauthentications => "istio_get_peerauthentications"
  | .istioMeshAnalyze            => "istio_mesh_analyze"
  | .rcaDiagnose ..              => "rca_diagnose"

/-- The name a tool is registered under. -/
def ServerCall.name : ServerCall → String
  | .namespaced _ _ call   => call.name
  | .k8sGetNodes ..        => "k8s_get_nodes"
  | .logsNode ..           => "logs_node"
  | .lokiQuery ..          => "loki_query"
  | .grafanaPanel ..       => "grafana_panel"
  | .promQuery ..          => "prom_query"
  | .metricDisk ..         => "metric_disk"
  | .argocdApp ..          => "argocd_app"
  | .argocdSyncStatus ..   => "argocd_sync_status"
  | .argocdHistory ..      => "argocd_history"
  | .argocdRollbackInfo .. => "argocd_rollback_info"
  | .gitlabPipelines ..    => "gitlab_pipelines"
  | .githubActionsRuns ..  => "github_actions_runs"
  | .recentDeployments ..  => "recent_deployments"
  | .compareDeployments .. => "compare_deployments"
  | .jiraSearch ..         => "jira_search"
  | .servicenowSearch ..   => "servicenow_search"
  | .slackPost ..          => "slack_post"
  | .teamsPost ..          => "teams_post"
  | .kbSearch ..           => "kb_search"
  | .listClusters          => "list_clusters"

/-- A tool at work, whatever it returns. -/
def ServerCall.program (server : Server) : ServerCall → Act Unit
  | .namespaced ns cluster call => asking (call.program server.site ns cluster)
  | .k8sGetNodes cluster => asking (discard (Tools.k8sGetNodes server cluster))
  | .logsNode node cluster since grep =>
    asking (discard (Tools.logsNode server node cluster since grep))
  | .lokiQuery query cluster since limit =>
    asking (discard (Tools.lokiQuery server query cluster since limit))
  | .grafanaPanel uid panelId cluster timeRange =>
    asking (discard (Tools.grafanaPanel server uid panelId cluster timeRange))
  | .promQuery promql cluster range =>
    asking (discard (Tools.promQuery server promql cluster range))
  | .metricDisk node cluster range =>
    asking (discard (Tools.metricDisk server node cluster range))
  | .argocdApp app cluster => asking (discard (Tools.argocdApp server app cluster))
  | .argocdSyncStatus app cluster => asking (discard (Tools.argocdSyncStatus server app cluster))
  | .argocdHistory app cluster limit =>
    asking (discard (Tools.argocdHistory server app cluster limit))
  | .argocdRollbackInfo app cluster => asking (discard (rollbackInfoCalls server app cluster))
  | .gitlabPipelines project ref status limit =>
    asking (discard (Tools.gitlabPipelines server project ref status limit))
  | .githubActionsRuns repo workflow branch limit =>
    asking (discard (Tools.githubActionsRuns server repo workflow branch limit))
  | .recentDeployments repo environment limit =>
    asking (discard (Tools.recentDeployments server repo environment limit))
  | .compareDeployments repo baseSha headSha =>
    asking (discard (Tools.compareDeployments server repo baseSha headSha))
  | .jiraSearch jql limit => asking (discard (Tools.jiraSearch server jql limit))
  | .servicenowSearch query table limit =>
    asking (discard (Tools.servicenowSearch server query table limit))
  | .slackPost channel text => discard (slackPostCalls server.settings.toSettings channel text)
  | .teamsPost text => discard (teamsPostCalls server.settings.toSettings text)
  | .kbSearch query cluster service topK =>
    discard (Tools.kbSearch server query cluster service topK)
  | .listClusters => discard (Tools.listClusters server)

end SreAgent.Tools
