import SreAgent.Tools.Catalogue
import SreAgent.Tools.Limits

/-!
# What each tool asks for

There is one lemma for each tool that has no namespace (those that have one are in
`SreAgent.Tools.Limits`): how often the tool asks, and what. `P` is anything there is to say of a
question or an effect. The hypotheses of a lemma list the requests the tool may make, with their
parameters left open where these do not matter, and nothing is said about the answers.

So whatever holds of the requests of a tool holds of all it does. Where credentials go and what is read
of a cluster are two such properties, and neither looks into a tool again.
-/

namespace SreAgent.Tools

open Interaction (Prog)
open Interaction.Prog (Limited)

/-! ## Tools that ask

Each of them is a lookup in the registry, a request and a function of the answer. The lookup asks
nothing, the request counts three times, and the function counts for nothing. -/

section

variable {P : Upstream → Prop} {server : Server} {cluster : Option String}

/-- A request, of which the rest of a tool makes what it returns. -/
theorem fetch_limited {α : Type} {request : GetRequest} {f : Py.Json → Run α} (h : P (.get request))
    (hf : ∀ data, (f data).Limited P 0) : (getJson request >>= f).Limited P 3 :=
  Limited.last (getJson_limited h) hf

theorem k8sGetNodes_limited (hconnect : ∀ cfg, P (.connect cfg)) (hnodes : P (.kube .listNodes none)) :
    (k8sGetNodes server cluster).Limited P 2 := by
  apply Limited.first (clients_limited hconnect ..)
  intro
  apply Limited.last (Limited.request hnodes)
  exact fun reply => Limited.lift _

/-! ### Loki, Grafana and Prometheus -/

theorem lokiResult_limited {request : GetRequest} (h : P (.get request)) :
    (lokiResult request).Limited P 3 := by
  apply fetch_limited h
  intro data
  apply Limited.lift_bind
  exact fun data _ => Limited.lift _

theorem logsNode_limited {since : String}
    (h : ∀ cfg query limit, P (.get (lokiRequest server.settings cfg query since limit)))
    (node grep : String) : (logsNode server node cluster since grep).Limited P 3 := by
  apply Limited.lift_bind
  intro cfg _
  exact Limited.last (lokiResult_limited (h ..)) fun result => Limited.pure _

theorem lokiQuery_limited {query since : String}
    (h : ∀ cfg limit, P (.get (lokiRequest server.settings cfg query since limit))) (limit : ℤ) :
    (lokiQuery server query cluster since limit).Limited P 3 := by
  apply Limited.lift_bind
  intro cfg _
  apply Limited.lift_bind
  intro limit _
  exact Limited.last (lokiResult_limited (h ..)) fun result => Limited.pure _

theorem grafanaPanel_limited {uid : String}
    (h : ∀ cfg, server.registry.get cluster = .ok cfg →
      P (.get (dashboardRequest server.settings cfg uid))) (panelId : ℤ) (timeRange : String) :
    (grafanaPanel server uid panelId cluster timeRange).Limited P 3 := by
  apply Limited.lift_bind
  intro cfg hcfg
  exact fetch_limited (h cfg hcfg) fun dash => Limited.lift _

/-! ### ArgoCD -/

section

variable {app : String} (h : ∀ cfg, server.site.registry.get cluster = .ok cfg →
  P (.get (applicationRequest server.settings.toSettings cfg app)))

include h

theorem application_limited : (application server app cluster).Limited P 3 := by
  apply Limited.lift_bind
  intro cfg hcfg
  exact getJson_limited (h cfg hcfg)

theorem argocdApp_limited : (argocdApp server app cluster).Limited P 3 :=
  Limited.last (application_limited h) fun data => Limited.lift _

theorem argocdSyncStatus_limited : (argocdSyncStatus server app cluster).Limited P 3 :=
  Limited.last (application_limited h) fun data => Limited.lift _

theorem argocdHistory_limited (limit : ℤ) : (argocdHistory server app cluster limit).Limited P 3 :=
  Limited.last (application_limited h) fun data => Limited.lift _

theorem rollbackInfoCalls_limited : (rollbackInfoCalls server app cluster).Limited P 3 :=
  Limited.last (application_limited h) fun data => Limited.lift _

end

/-! ### GitLab and GitHub -/

theorem gitlabPipelines_limited {project : String}
    (h : ∀ params, P (.get
      { url := pipelinesUrl server.settings project, params, headers := glHeaders server.settings }))
    (ref status : String) (limit : ℤ) :
    (gitlabPipelines server project ref status limit).Limited P 3 := by
  apply Limited.lift_bind
  intro perPage _
  exact fetch_limited (h _) fun data => Limited.lift _

section

variable {repo : String} (h : ∀ path params, P (.get
  { url := repoUrl repo path, params, headers := ghHeaders server.settings }))

include h

theorem githubActionsRuns_limited (workflow branch : String) (limit : ℤ) :
    (githubActionsRuns server repo workflow branch limit).Limited P 3 := by
  apply Limited.lift_bind
  intro perPage _
  apply fetch_limited (h ..)
  intro data
  apply Limited.lift_bind
  intro runs _
  apply Limited.lift_bind
  exact fun runs _ => Limited.lift _

theorem recentDeployments_limited (environment : String) (limit : ℤ) :
    (recentDeployments server repo environment limit).Limited P 3 := by
  apply Limited.lift_bind
  intro perPage _
  exact fetch_limited (h ..) fun data => Limited.lift _

theorem compareDeployments_limited (baseSha headSha : String) :
    (compareDeployments server repo baseSha headSha).Limited P 3 :=
  fetch_limited (h ..) fun data => Limited.lift _

end

/-! ### Jira and ServiceNow -/

theorem jiraSearch_limited
    (h : ∀ params, P (.get
      { url := trimmed server.settings.jiraUrl ++ "/rest/api/3/search", params
        headers := [basic server.settings.jiraEmail server.settings.jiraToken] }))
    (jql : String) (limit : ℤ) : (jiraSearch server jql limit).Limited P 3 := by
  apply Limited.lift_bind
  intro maxResults _
  apply fetch_limited (h _)
  intro data
  apply Limited.lift_bind
  intro issues _
  apply Limited.lift_bind
  exact fun issues _ => Limited.lift _

theorem servicenowSearch_limited {table : String}
    (h : ∀ params, P (.get
      { url := trimmed server.settings.servicenowUrl ++ "/api/now/table/" ++ table, params
        headers := [basic server.settings.servicenowUser server.settings.servicenowPassword,
          ("Accept", "application/json")] }))
    (query : String) (limit : ℤ) : (servicenowSearch server query table limit).Limited P 3 := by
  apply Limited.lift_bind
  intro limit _
  apply fetch_limited (h _)
  intro data
  apply Limited.lift_bind
  intro rows _
  apply Limited.lift_bind
  exact fun rows _ => Limited.lift _

end

/-! ## Tools with effects of their own

The posts count like requests, a search counts once, and the list of the clusters has no effect at
all. -/

section

variable {P : Effect → Prop} {server : Server}

/-- A tool that only asks, within the limit of all tools. -/
theorem asking_limited {α : Type} {p : Run α} {n : ℕ} (hn : n ≤ askLimit)
    (h : p.Limited (fun q => P (.ask q)) n) :
    (asking (discard p : Run Unit)).Limited P askLimit := Limited.reask (tool_limited hn h)

/-- A post is the same in every attempt. -/
theorem postJsonWithin_limited {request : Request} (h : P (.post request)) (more : ℕ) :
    (postJsonWithin request more).Limited P (more + 1) := by
  induction more with
  | zero => exact Limited.last (Limited.request h) fun answer => Limited.lift _
  | succ more ih =>
      -- one question for this attempt, the rest for those after it
      apply Limited.first (Limited.request h)
      intro answer
      show (if retryable (Answer.toResult answer) then postJsonWithin request more
        else Prog.lift (Answer.toResult answer)).Limited P (more + 1)
      split
      · exact ih
      · exact Limited.lift _

theorem slackPostCalls_limited {settings : Settings} {channel text : String}
    (h : settings.allowNotifications = true → channel ∈ settings.allowedSlackChannels →
      P (.post (slackRequest settings channel text))) :
    (slackPostCalls settings channel text).Limited P 3 := by
  unfold slackPostCalls
  split
  · exact Limited.pure _
  · -- past both checks the one request is the message itself
    next henabled =>
    split
    · exact Limited.pure _
    · next hlisted =>
      exact postJsonWithin_limited (h (by simpa using henabled) (by simpa using hlisted)) 2

theorem teamsPostCalls_limited {settings : Settings} {text : String}
    (h : settings.allowNotifications = true → settings.teamsWebhookUrl ≠ "" →
      P (.post (teamsRequest settings text))) :
    (teamsPostCalls settings text).Limited P 3 := by
  unfold teamsPostCalls
  split
  · exact Limited.pure _
  · next henabled =>
    split
    · exact Limited.pure _
    · next hurl =>
      exact Limited.last (postJsonWithin_limited (h (by simpa using henabled) hurl) 2)
        fun _ => Limited.pure _

theorem kbSearch_limited {query service : String} {topK : ℤ}
    (h : ∀ tenants, P (.search query tenants (orNone service) topK)) (cluster : Option String) :
    (kbSearch server query cluster service topK).Limited P 1 := by
  apply Limited.lift_bind
  intro cfg _
  -- the search is the only question; the hits are cut down afterwards
  apply Limited.last (Limited.request (h _))
  intro hits
  apply Limited.lift_bind
  exact fun hits _ => Limited.pure _

theorem listClusters_limited : (listClusters server).Limited P 0 := Limited.pure _

/-- A tool whose result is dropped, within the limit of all tools. -/
theorem discard_limited {α : Type} {p : Act α} {n : ℕ} (hn : n ≤ askLimit) (h : p.Limited P n) :
    Limited P askLimit (discard p : Act Unit) := h.discard.mono (fun _ hq => hq) hn

end

end SreAgent.Tools
