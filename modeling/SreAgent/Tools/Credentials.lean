import SreAgent.Lib.Origin
import SreAgent.Tools.Posts

/-!
# Where credentials go

The tools send seven credentials in the headers of their requests, and the strings of their arguments go
into the URLs of the same requests. Whatever these are, and whatever is answered, a credential is sent
to the backend it is for (`credentials_stay`): no argument changes the scheme or the authority of a URL.

A URL is put together from a base, which is a setting, and a path, which has arguments in it. The
origin of such a URL is that of the base as soon as the path begins with a slash and another
character. With two slashes it could be an authority of its own. So the proof is about the shape of
URLs, and the arguments may be anything.
-/

namespace SreAgent.Tools

open Interaction (Prog)
open Interaction.Prog (Limited)

/-! ## Bases

The base is trimmed of its slashes. What is left ends in none, and a path put behind it cannot run
into its authority. -/

/-- What is trimmed does not end in what it is trimmed of. -/
theorem getLast?_rstrip (c : Char) (cs : List Char) : (Py.rstrip c cs).getLast? ≠ some c := by
  intro h
  rw [Py.rstrip, List.getLast?_reverse] at h
  have hnot := List.head?_dropWhile_not (· == c) cs.reverse
  rw [h] at hnot
  simp at hnot

def origin (url : String) : Option (List Char × List Char) := Url.origin url.toList

/-- A path behind a base is at the origin of the base. -/
theorem origin_trimmed (base : String) {c : Char} (hc : c ≠ '/') {path : String} {rest : List Char}
    (hpath : path.toList = '/' :: c :: rest) : origin (trimmed base ++ path) = origin (trimmed base) := by
  unfold origin
  rw [String.toList_append, hpath]
  apply Url.origin_append _ hc
  rw [trimmed, String.toList_ofList]
  exact getLast?_rstrip '/' base.toList

/-! ## Credentials

Each credential is listed with the call that may send it and the base it is for. GitHub's is a
constant, that of Slack is a constant too, and the others are settings, some of which a cluster of
the registry may override. -/

/-- The headers that are no secret. -/
def plainHeaders : List (String × String) :=
  [("Accept", "application/vnd.github+json"), ("X-GitHub-Api-Version", "2022-11-28"),
   ("Accept", "application/json")]

/-- Whether a call goes to GitHub. -/
def ServerCall.toGithub : ServerCall → Bool
  | .githubActionsRuns ..  => true
  | .recentDeployments ..  => true
  | .compareDeployments .. => true
  | _                      => false

/-- The cluster of a call that goes to ArgoCD. -/
def ServerCall.toArgocd : ServerCall → Option (Option String)
  | .argocdApp _ cluster          => some cluster
  | .argocdSyncStatus _ cluster   => some cluster
  | .argocdHistory _ cluster _    => some cluster
  | .argocdRollbackInfo _ cluster => some cluster
  | _                             => none

/-- The header with a credential a call may send, and the backend it is for. -/
inductive ServerCall.Spends (server : Server) : ServerCall → String × String → String → Prop
  | github {call : ServerCall} (h : call.toGithub = true) :
    Spends server call ("Authorization", "Bearer " ++ server.settings.githubToken) githubApi
  | gitlab {project ref status : String} {limit : ℤ} :
    Spends server (.gitlabPipelines project ref status limit)
      ("PRIVATE-TOKEN", server.settings.gitlabToken) (trimmed server.settings.gitlabUrl)
  | jira {jql : String} {limit : ℤ} :
    Spends server (.jiraSearch jql limit)
      (basic server.settings.jiraEmail server.settings.jiraToken) (trimmed server.settings.jiraUrl)
  | servicenow {query table : String} {limit : ℤ} :
    Spends server (.servicenowSearch query table limit)
      (basic server.settings.servicenowUser server.settings.servicenowPassword)
      (trimmed server.settings.servicenowUrl)
  | grafana {uid timeRange : String} {panelId : ℤ} {cluster : Option String} {cfg : ClusterEntry}
    (found : server.registry.get cluster = .ok cfg) :
    Spends server (.grafanaPanel uid panelId cluster timeRange)
      ("Authorization", "Bearer " ++ server.settings.grafanaToken)
      (trimmed (orDefault cfg.grafana server.settings.grafanaUrl))
  | argocd {call : ServerCall} {cluster : Option String} {cfg : ClusterEntry}
    (h : call.toArgocd = some cluster) (found : server.registry.get cluster = .ok cfg) :
    Spends server call ("Authorization", "Bearer " ++ server.settings.argocdToken)
      (argocd server.settings.toSettings cfg.toClusterConfig).1
  | slack {channel text : String} :
    Spends server (.slackPost channel text)
      ("Authorization", "Bearer " ++ server.settings.slackBotToken) "https://slack.com"

/-- The headers of a request of the call that goes to `url`: no secret, or a credential for where it
goes. -/
def ServerCall.Carries (server : Server) (call : ServerCall) (url : String)
    (headers : List (String × String)) : Prop :=
  ∀ header ∈ headers, header ∈ plainHeaders ∨
    ∃ base, call.Spends server header base ∧ origin url = origin base

/-- An effect of the call sends credentials where they belong. -/
def ServerCall.Keeps (server : Server) (call : ServerCall) : Effect → Prop
  | .ask (.get request) => call.Carries server request.url request.headers
  | .post request       => call.Carries server request.url request.headers
  | _                   => True

variable {server : Server} {call : ServerCall}

/-- One header that is a credential. -/
theorem carries_one {url base : String} {header : String × String}
    (hspends : call.Spends server header base) (horigin : origin url = origin base) :
    call.Carries server url [header] := by
  intro h hh
  rw [List.mem_singleton.mp hh]
  exact .inr ⟨base, hspends, horigin⟩

/-- A bearer header is carried with a token or without one, and so are several headers together. -/
theorem carries_bearer {url base token : String}
    (hspends : call.Spends server ("Authorization", "Bearer " ++ token) base)
    (horigin : origin url = origin base) : call.Carries server url (bearer token) := by
  unfold bearer
  split
  · exact fun h hh => absurd hh List.not_mem_nil
  · exact carries_one hspends horigin

theorem carries_append {url : String} {hs hs' : List (String × String)}
    (h : call.Carries server url hs) (h' : call.Carries server url hs') :
    call.Carries server url (hs ++ hs') := by
  intro header hheader
  rcases List.mem_append.mp hheader with hheader | hheader
  · exact h header hheader
  · exact h' header hheader

/-- Headers that are no secret may go anywhere. -/
theorem carries_plain {url : String} {hs : List (String × String)} (h : hs ⊆ plainHeaders) :
    call.Carries server url hs := fun _ hheader => .inl (h hheader)

/-- A request without headers carries nothing. -/
theorem keeps_of_quiet {q : Upstream} (h : Quiet q) : call.Keeps server (.ask q) := by
  cases q with
  | get request =>
      show call.Carries server request.url request.headers
      rw [show request.headers = [] from h]
      exact fun header hheader => absurd hheader List.not_mem_nil
  | _ => trivial

/-! ## The requests of each backend

One lemma for each: the headers are those of the backend, and the URL is at its base. -/

/-- A request without headers, to any backend, such as one to Loki, which is not given a credential.
-/
theorem quiet_keeps (request : GetRequest) (h : request.headers = []) :
    call.Keeps server (.ask (.get request)) := keeps_of_quiet h

theorem loki_keeps (cfg : ClusterEntry) (query since limit : String) :
    call.Keeps server (.ask (.get (lokiRequest server.settings cfg query since limit))) :=
  keeps_of_quiet (q := .get _) rfl

/-- A panel is asked for at the Grafana of the cluster, with the token for Grafana. -/
theorem grafana_carries {uid timeRange : String} {panelId : ℤ} {cluster : Option String}
    (cfg : ClusterEntry) (hcfg : server.registry.get cluster = .ok cfg) :
    ServerCall.Carries server (.grafanaPanel uid panelId cluster timeRange)
      (dashboardRequest server.settings cfg uid).url
      (dashboardRequest server.settings cfg uid).headers := by
  apply carries_bearer (.grafana hcfg)
  unfold dashboardRequest
  rw [String.append_assoc]
  exact origin_trimmed _ (c := 'a') (by decide) (by rw [String.toList_append]; rfl)

/-- What the tools with a namespace see of a cluster is part of its entry. -/
theorem entry_of_config {cluster : Option String} {cfg : ClusterConfig}
    (h : server.site.registry.get cluster = .ok cfg) :
    ∃ entry, server.registry.get cluster = .ok entry ∧ entry.toClusterConfig = cfg := by
  have hget : server.site.registry.get cluster = _ := server.registry.get_toClusterRegistry cluster
  rw [hget] at h
  -- the registry of the diagnosis is read off the full one, entry by entry
  cases hentry : server.registry.get cluster with
  | error e =>
      rw [hentry] at h
      cases h
  | ok entry =>
      rw [hentry] at h
      exact ⟨entry, rfl, Except.ok.inj h⟩

/-- The document of an application is asked for at the ArgoCD server of the cluster. -/
theorem argocd_carries {app : String} {cluster : Option String} (hcall : call.toArgocd = some cluster)
    (cfg : ClusterConfig) (hcfg : server.site.registry.get cluster = .ok cfg) :
    call.Carries server (applicationRequest server.settings.toSettings cfg app).url
      (applicationRequest server.settings.toSettings cfg app).headers := by
  obtain ⟨entry, hentry, rfl⟩ := entry_of_config hcfg
  -- the path is appended behind the origin, and cannot change it
  have hurl : origin (applicationRequest server.settings.toSettings entry.toClusterConfig app).url =
      origin (argocd server.settings.toSettings entry.toClusterConfig).1 := by
    unfold applicationRequest
    rw [String.append_assoc]
    exact origin_trimmed _ (c := 'a') (by decide) (by rw [String.toList_append]; rfl)
  exact carries_bearer (.argocd hcall hentry) hurl

/-- A path of a repository is at GitHub. -/
theorem origin_repoUrl (repo path : String) : origin (repoUrl repo path) = origin githubApi := by
  unfold repoUrl origin
  rw [String.append_assoc, String.append_assoc, String.append_assoc, String.toList_append,
    String.toList_append]
  exact Url.origin_append (by decide) (c := 'r') (by decide)

/-- The runs of a repository are asked for at GitHub, the pipelines of a project at GitLab, issues
at Jira and a table at ServiceNow, and a message goes to Slack, whose address is no setting. -/
theorem github_carries (hcall : call.toGithub = true) (repo path : String) :
    call.Carries server (repoUrl repo path) (ghHeaders server.settings) := by
  apply carries_append (carries_plain (by decide))
  exact carries_bearer (.github hcall) (origin_repoUrl repo path)

theorem gitlab_carries {project ref status : String} {limit : ℤ} :
    ServerCall.Carries server (.gitlabPipelines project ref status limit)
      (pipelinesUrl server.settings project) (glHeaders server.settings) := by
  unfold glHeaders given
  split
  · -- no token, no header
    exact carries_plain (List.nil_subset _)
  · apply carries_one .gitlab
    unfold pipelinesUrl
    rw [String.append_assoc, String.append_assoc]
    exact origin_trimmed _ (c := 'a') (by decide) (by rw [String.toList_append]; rfl)

theorem jira_carries {jql : String} {limit : ℤ} :
    ServerCall.Carries server (.jiraSearch jql limit)
      (trimmed server.settings.jiraUrl ++ "/rest/api/3/search")
      [basic server.settings.jiraEmail server.settings.jiraToken] :=
  carries_one .jira (origin_trimmed _ (c := 'r') (by decide) rfl)

theorem servicenow_carries {query table : String} {limit : ℤ} :
    ServerCall.Carries server (.servicenowSearch query table limit)
      (trimmed server.settings.servicenowUrl ++ "/api/now/table/" ++ table)
      [basic server.settings.servicenowUser server.settings.servicenowPassword,
        ("Accept", "application/json")] := by
  refine carries_append (carries_one .servicenow ?_) (carries_plain (by decide))
  rw [String.append_assoc]
  exact origin_trimmed _ (c := 'a') (by decide) (by rw [String.toList_append]; rfl)

theorem slack_carries {channel text : String} :
    ServerCall.Carries server (.slackPost channel text)
      (slackRequest server.settings.toSettings channel text).url
      (slackRequest server.settings.toSettings channel text).headers := by
  have hslack : origin "https://slack.com/api/chat.postMessage" = origin "https://slack.com" := by
    decide
  exact carries_one .slack hslack

/-! ## Every tool

What each tool may ask for is in `SreAgent.Tools.Outlines`. Here it is only said that these requests
keep to the rule. -/

/-- **A tool** asks at most twenty times, and spends its credentials where they belong. -/
theorem ServerCall.program_limited (server : Server) (call : ServerCall) :
    (call.program server).Limited (call.Keeps server) askLimit := by
  cases call with
  | namespaced ns cluster call =>
      apply Limited.reask
      exact call.program_limited.mono (fun _ => keeps_of_quiet) (Nat.le_refl _)
  | k8sGetNodes =>
      exact asking_limited (by decide) (k8sGetNodes_limited (fun _ => trivial) trivial)
  | logsNode =>
      exact asking_limited (by decide) (logsNode_limited (fun _ _ _ => loki_keeps _ _ _ _) ..)
  | lokiQuery =>
      exact asking_limited (by decide) (lokiQuery_limited (fun _ _ => loki_keeps _ _ _ _) _)
  | grafanaPanel => exact asking_limited (by decide) (grafanaPanel_limited grafana_carries ..)
  | promQuery | metricDisk => exact asking_limited (by decide) (query_limited quiet_keeps ..)
  | argocdApp => exact asking_limited (by decide) (argocdApp_limited (argocd_carries rfl))
  | argocdSyncStatus =>
      exact asking_limited (by decide) (argocdSyncStatus_limited (argocd_carries rfl))
  | argocdHistory =>
      exact asking_limited (by decide) (argocdHistory_limited (argocd_carries rfl) _)
  | argocdRollbackInfo =>
      exact asking_limited (by decide) (rollbackInfoCalls_limited (argocd_carries rfl))
  | gitlabPipelines =>
      exact asking_limited (by decide) (gitlabPipelines_limited (fun _ => gitlab_carries) ..)
  | githubActionsRuns repo =>
      exact asking_limited (by decide) (githubActionsRuns_limited (fun path _ => github_carries rfl repo path) ..)
  | recentDeployments repo =>
      exact asking_limited (by decide) (recentDeployments_limited (fun path _ => github_carries rfl repo path) ..)
  | compareDeployments repo =>
      exact asking_limited (by decide) (compareDeployments_limited (fun path _ => github_carries rfl repo path) ..)
  | jiraSearch => exact asking_limited (by decide) (jiraSearch_limited (fun _ => jira_carries) ..)
  | servicenowSearch =>
      exact asking_limited (by decide) (servicenowSearch_limited (fun _ => servicenow_carries) ..)
  | slackPost => exact discard_limited (by decide) (slackPostCalls_limited fun _ _ => slack_carries)
  | teamsPost =>
      -- the address of the webhook is the secret, and there is no header
      exact discard_limited (by decide)
        (teamsPostCalls_limited fun _ _ => carries_plain (List.nil_subset _))
  | kbSearch => exact discard_limited (by decide) (kbSearch_limited (fun _ => trivial) _)
  | listClusters => exact discard_limited (Nat.zero_le _) listClusters_limited

/-! ## All of them together

Tools run side by side, and their effects come in any order. Whatever the order, each effect is one
of some call, and each call has twenty at most. -/

variable {calls : List ServerCall} {effects : List Effect}

/-- **Credentials stay where they belong**, whatever is called at the same time and whatever is
answered. -/
theorem credentials_stay (server : Server)
    (h : Prog.Asks (calls.map (ServerCall.program server)) effects) :
    ∀ e ∈ effects, ∃ call ∈ calls, call.Keeps server e := by
  refine Prog.All.asks (P := fun e => ∃ call ∈ calls, call.Keeps server e) ?_ h
  intro p hp
  obtain ⟨call, hcall, rfl⟩ := List.mem_map.mp hp
  exact (call.program_limited server).all.mono fun e he => ⟨call, hcall, he⟩

/-- A server with a token for GitHub. -/
def withGithub : Server where
  settings := { githubToken := "ghp" }
  registry := { clusters := [] }
  now := paymentsSite.now

/-- A comparison that names another host is still made at GitHub. -/
def elsewhere : List ServerCall := [.compareDeployments "../../@evil.example" "v1" "v2"]

/-- Its request, and a retry of it. -/
def comparisons : List Effect :=
  List.replicate 2 (.ask (.get
    { url := "https://api.github.com/repos/../../@evil.example/compare/v1...v2"
      headers := ghHeaders withGithub.settings }))

theorem asks_comparisons : Prog.Asks (elsewhere.map (ServerCall.program withGithub)) comparisons :=
  .step (.ask [] [] _ _ (.raised (.transportError "ConnectError")))
    (.step (.ask [] [] _ _ (.raised (.transportError "ConnectError"))) (.nothing _))

theorem credentials_stay_github :
    Prog.Asks (elsewhere.map (ServerCall.program withGithub)) comparisons ∧
      ∀ e ∈ comparisons, ∃ call ∈ elsewhere, call.Keeps withGithub e :=
  ⟨asks_comparisons, credentials_stay withGithub asks_comparisons⟩

end SreAgent.Tools
