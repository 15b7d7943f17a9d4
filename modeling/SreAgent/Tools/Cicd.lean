import SreAgent.Tools.Server

/-!
# CI/CD

`tools/cicd.py`: GitLab pipelines, GitHub Actions runs and deployments. A GitLab project is one segment
of the path, whatever is in its name; the name of a GitHub repository is written into the path as it
stands.

Both hosts authenticate by a header. Without a token the header is left out, and the request is made
anyway: a public repository can be read without one.
-/

namespace SreAgent.Tools

open Interaction (Prog)
open Py (Json)

/-! ## Headers -/

def ghHeaders (settings : ServerSettings) : List (String × String) :=
  [("Accept", "application/vnd.github+json"), ("X-GitHub-Api-Version", "2022-11-28")] ++
    bearer settings.githubToken

def glHeaders (settings : ServerSettings) : List (String × String) :=
  given "PRIVATE-TOKEN" settings.gitlabToken

/-! ## GitLab

A pipeline is read with subscripts, so a document without one of the keys ends the tool. -/

structure Pipeline where
  id        : Json
  status    : Json
  ref       : Json
  sha       : Json
  createdAt : Json
  webUrl    : Json

def pipelineRow (p : Json) : Except Exc Pipeline := do
  let id ← item p "id"
  let status ← item p "status"
  let ref ← item p "ref"
  let sha ← firstOf 8 (← item p "sha")
  let createdAt ← item p "created_at"
  let webUrl ← item p "web_url"
  return ⟨id, status, ref, sha, createdAt, webUrl⟩

/-- The path of a project's pipelines. -/
def pipelinesUrl (settings : ServerSettings) (project : String) : String :=
  trimmed settings.gitlabUrl ++ "/api/v4/projects/" ++ quote project ++ "/pipelines"

def gitlabPipelines (server : Server) (project ref status : String) (limit : ℤ) :
    Run (List Pipeline) := do
  let perPage ← Prog.lift (showInt limit)
  let data ← getJson
    { url := pipelinesUrl server.settings project
      params := ("per_page", perPage) :: (given "ref" ref ++ given "status" status)
      headers := glHeaders server.settings }
  Prog.lift ((asList data).mapM pipelineRow)

/-! ## GitHub

The repository goes into the path without being quoted. What a name with dot segments then means is
up to the client and to GitHub. That it is still GitHub is shown in `SreAgent.Tools.Credentials`. -/

/-- `https://api.github.com`. -/
def githubApi : String := "https://api.github.com"

def repoUrl (repo path : String) : String := githubApi ++ "/repos/" ++ repo ++ "/" ++ path

structure WorkflowRun where
  id         : Json
  name       : Json
  status     : Json
  conclusion : Json
  headSha    : Json
  createdAt  : Json
  url        : Json

def workflowRunRow (r : Json) : Except Exc WorkflowRun := do
  let id ← item r "id"
  let name ← item r "name"
  let status ← item r "status"
  let conclusion ← item r "conclusion"
  let headSha ← firstOf 8 (← item r "head_sha")
  let createdAt ← item r "created_at"
  let url ← item r "html_url"
  return ⟨id, name, status, conclusion, headSha, createdAt, url⟩

def githubActionsRuns (server : Server) (repo workflow branch : String) (limit : ℤ) :
    Run (List WorkflowRun) := do
  let path := if workflow = "" then "actions/runs" else "actions/workflows/" ++ workflow ++ "/runs"
  let perPage ← Prog.lift (showInt limit)
  let data ← getJson
    { url := repoUrl repo path
      params := ("per_page", perPage) :: given "branch" branch
      headers := ghHeaders server.settings }
  let runs ← Prog.lift (getKey data "workflow_runs" (.arr []))
  let runs ← Prog.lift (iterate runs)
  Prog.lift (runs.mapM workflowRunRow)

structure DeploymentRow where
  id          : Json
  environment : Json
  ref         : Json
  sha         : Json
  createdAt   : Json

def deploymentRow (d : Json) : Except Exc DeploymentRow := do
  let id ← item d "id"
  let environment ← item d "environment"
  let ref ← item d "ref"
  let sha ← firstOf 8 (← item d "sha")
  let createdAt ← item d "created_at"
  return ⟨id, environment, ref, sha, createdAt⟩

def recentDeployments (server : Server) (repo environment : String) (limit : ℤ) :
    Run (List DeploymentRow) := do
  let perPage ← Prog.lift (showInt limit)
  let data ← getJson
    { url := repoUrl repo "deployments"
      params := ("per_page", perPage) :: given "environment" environment
      headers := ghHeaders server.settings }
  Prog.lift ((asList data).mapM deploymentRow)

structure Comparison where
  aheadBy      : Json
  commits      : List (Json × String)
  changedFiles : List Json

def commitRow (c : Json) : Except Exc (Json × String) := do
  let sha ← firstOf 8 (← item c "sha")
  let message ← firstLine (← item (← item c "commit") "message")
  return (sha, message)

/-- What `compare_deployments` makes of the answer. -/
def comparison (data : Json) : Except Exc Comparison := do
  let aheadBy ← getKey data "ahead_by" .null
  let commits ← iterate (← getKey data "commits" (.arr []))
  let commits ← commits.mapM commitRow
  let files ← iterate (← getKey data "files" (.arr []))
  let files ← files.mapM fun f => item f "filename"
  return ⟨aheadBy, commits, files.take 50⟩

def compareDeployments (server : Server) (repo baseSha headSha : String) : Run Comparison := do
  let data ← getJson
    { url := repoUrl repo ("compare/" ++ baseSha ++ "..." ++ headSha)
      headers := ghHeaders server.settings }
  Prog.lift (comparison data)

/-! ## One project, one path

Percent encoding leaves nothing in a segment that separates anything, and it can be undone. What
remains are the two dot segments, which are made of unreserved characters and so are left as they
are: they stand for themselves, and no other project becomes one. -/

def projectSegment (project : String) : List Char := (quote project).toList

/-- Nothing in a segment means something in a path. -/
theorem projectSegment_plain {project : String} {c : Char} (h : c ∈ projectSegment project) :
    c ≠ '/' ∧ c ≠ '?' ∧ c ≠ '#' := by
  have hplain : PercentEncoding.IsPlain false c := by
    rw [projectSegment, quote, String.toList_ofList] at h
    exact PercentEncoding.plain_of_mem_encode h
  refine ⟨?_, ?_, ?_⟩ <;> rintro rfl <;> revert hplain <;> unfold PercentEncoding.IsPlain <;> decide

/-- A dot segment is a project of that name. -/
theorem projectSegment_eq_iff {project name : String} (hname : quote name = name) :
    projectSegment project = name.toList ↔ project = name := by
  constructor
  · intro h
    -- quoting is injective, and the name quotes to itself
    have hquote : quote project = quote name := by
      rw [hname]
      exact String.toList_inj.mp h
    exact quote_inj hquote
  · rintro rfl
    rw [projectSegment, hname]

/-- **A project is one segment of the path**, from which it is read back, whatever its name is: neither
a group nor a query of its own. -/
theorem pipelinesUrl_path (settings : ServerSettings) (project : String) :
    Py.splitOn '/' (pipelinesUrl settings project).toList =
        Py.splitOn '/' (trimmed settings.gitlabUrl).toList ++
          ["api".toList, "v4".toList, "projects".toList, projectSegment project,
            "pipelines".toList] ∧
      unquote (String.ofList (projectSegment project)) = some project ∧
      (∀ c ∈ projectSegment project, c ≠ '?' ∧ c ≠ '#') ∧
      (projectSegment project = ".".toList ↔ project = ".") ∧
      (projectSegment project = "..".toList ↔ project = "..") := by
  refine ⟨?_, ?_, ?_, projectSegment_eq_iff (by decide), projectSegment_eq_iff (by decide)⟩
  · have hurl : (pipelinesUrl settings project).toList =
        (trimmed settings.gitlabUrl).toList ++ '/' :: ("api".toList ++ '/' :: ("v4".toList ++ '/' ::
          ("projects".toList ++ '/' :: (projectSegment project ++ '/' :: "pipelines".toList)))) := by
      simp [pipelinesUrl, projectSegment]
    -- a quoted project has no slash, so it is one segment whatever the project is called
    have hwhole : '/' ∉ projectSegment project := fun h => (projectSegment_plain h).1 rfl
    rw [hurl]
    simp only [Py.splitOn_append_sep]
    rw [Py.splitOn_of_notMem hwhole]
    rfl
  · rw [projectSegment, String.ofList_toList]
    exact unquote_quote project
  · -- neither does it end the path: no `?` and no `#` is left
    exact fun c hc => (projectSegment_plain hc).2

end SreAgent.Tools
