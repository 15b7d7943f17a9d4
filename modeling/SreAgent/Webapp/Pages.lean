import Mathlib.Data.List.Basic
import SreAgent.Webapp.Markdown

/-!
# The pages of the dashboard

The templates of `static/app.js` that are assigned to elements: clusters, tools, the drill-down into a
namespace, and what stands around the text of a chat. They make no difference between a text
that is absent and one that is empty.

The templates are kept with their white space and in the order of the source, so that a reader can
lay the two side by side. Which escape stands where is the point of them: one that is missing would
be a hole in the page.
-/

namespace SreAgent.Webapp.Pages

open Markdown (Text unit lit escapeHtml)

/-! ## Data

Only the fields that a template shows are there. A text that is absent is empty, which the templates
cannot tell apart. -/

/-- A cluster of `/api/clusters`. -/
structure Cluster where
  name         : Text
  namespaces   : List Text := []
  provider     : Text := []
  tenant       : Text := []
  region       : Text := []
  reachable    : Bool
  statusDetail : Text := []

/-- A row of `k8s_get_pods`. -/
structure Pod where
  name           : Text
  phase          : Text := []
  reason         : Text := []
  lastTerminated : Text := []
  restarts       : ℕ := 0
  ready          : Text := []
  node           : Text := []

/-- A row of `k8s_get_deployments`. -/
structure Deployment where
  name  : Text
  ready : Text := []
  image : Text := []

/-- A row of `k8s_get_events`. -/
structure Event where
  type    : Text := []
  reason  : Text := []
  object  : Text := []
  message : Text := []
  age     : Text := []

/-- A section of the overview: rows, or what has an `error`. -/
inductive Section (ρ : Type) where
  | rows (rows : List ρ)
  | other (error : Text)

/-- `s || default`. -/
def orElse (s default : Text) : Text := if s = [] then default else s

/-- `s ? html : ""`. -/
def ifGiven {α : Type} (s : Text) (html : List α) : List α := if s = [] then [] else html

def number (n : ℕ) : Text := (Nat.toDigits 10 n).map unit

/-! ## Clusters and tools

A card for each cluster, a note if there is none, and the list of the tools. -/

/-- `<div class="empty">..</div>`. -/
def emptyNote (html : Text) : Text := lit "<div class=\"empty\">" ++ html ++ lit "</div>"

def clusterCard (c : Cluster) : Text :=
  let ns := orElse ((lit ", ").intercalate c.namespaces) (lit "—")
  lit "<div class=\"card\" data-name=\"" ++ escapeHtml c.name ++
    lit "\" title=\"Click to drill in\">\n    <div class=\"card-top\">\n      <span class=\"card-name\">" ++
    escapeHtml c.name ++ lit "</span>\n      <span class=\"status\"><span class=\"dot " ++
    (if c.reachable then lit "ok" else lit "bad") ++ lit "\"></span>" ++
    (if c.reachable then lit "reachable" else escapeHtml (orElse c.statusDetail (lit "unreachable"))) ++
    lit "</span>\n    </div>\n    <div class=\"chips\">\n      " ++
    ifGiven c.provider
      (lit "<span class=\"chip prov\">" ++ escapeHtml c.provider ++ lit "</span>") ++ lit "\n      " ++
    ifGiven c.tenant
      (lit "<span class=\"chip\">tenant: " ++ escapeHtml c.tenant ++ lit "</span>") ++ lit "\n      " ++
    ifGiven c.region (lit "<span class=\"chip\">" ++ escapeHtml c.region ++ lit "</span>") ++
    lit "\n    </div>\n    <div class=\"ns\">namespaces: " ++ escapeHtml ns ++ lit "</div>\n  </div>"

/-- `box.innerHTML` of `loadClusters`. -/
def clustersHtml (clusters : List Cluster) (error : Text) : Text :=
  if clusters.isEmpty then
    emptyNote (lit "No clusters configured." ++ ifGiven error (lit "<br>" ++ escapeHtml error))
  else clusters.flatMap clusterCard

/-- `loadTools`. -/
def toolsHtml (tools : List (Text × Text)) : Text :=
  tools.flatMap fun (name, summary) =>
    lit "<li><code>" ++ escapeHtml name ++ lit "</code> — " ++ escapeHtml summary ++ lit "</li>"

/-! ## Drill-down

Three sections, each a table, a note that there is nothing, or an error. The colours of the pills
follow from the rows. -/

def noteSection (title : String) (html : Text) : Text :=
  lit "<div><h3>" ++ lit title ++ lit "</h3><div class=\"mono\">" ++ html ++ lit "</div></div>"

/-- A section that is no list, shown by `arrOrErr`. -/
def errorSection (title : String) (error : Text) : Text :=
  noteSection title (escapeHtml (orElse error (lit "unavailable")))

/-- `r === t`, of `const [r, t] = (ready || "0/0").split("/")`. -/
def allReady (ready : Text) : Bool :=
  match (orElse ready (lit "0/0")).splitOn (unit '/') with
  | r :: t :: _ => r == t
  | _           => false

/-- `r === t ? "ok" : "warn"`. -/
def readyCls (ready : Text) : Text := if allReady ready then lit "ok" else lit "warn"

def badReasons : List Text :=
  [lit "CrashLoopBackOff", lit "Error", lit "ImagePullBackOff", lit "OOMKilled", lit "Evicted"]

/-- A row of `podsSection`. -/
def podRow (p : Pod) : Text :=
  let bad := badReasons.contains (orElse p.reason p.lastTerminated)
  lit "<tr><td>" ++ escapeHtml p.name ++ lit "</td><td>" ++ escapeHtml p.phase ++
    lit "</td>\n      <td>" ++
    (if p.reason = [] then lit "—"
      else lit "<span class=\"pill " ++ (if bad then lit "bad" else []) ++ lit "\">" ++
        escapeHtml p.reason ++ lit "</span>") ++
    lit "</td>\n      <td>" ++ number p.restarts ++ lit "</td><td><span class=\"pill " ++
    readyCls p.ready ++ lit "\">" ++ escapeHtml p.ready ++
    lit "</span></td>\n      <td class=\"mono\">" ++ escapeHtml (orElse p.node (lit "—")) ++
    lit "</td></tr>"

/-- How a pod ended the last time decides nothing: the pill it would colour is there only if there is a
reason, and then the reason decides. -/
theorem podRow_lastTerminated (p : Pod) (ended : Text) :
    podRow { p with lastTerminated := ended } = podRow p := by
  by_cases hreason : p.reason = []
  · simp only [podRow, hreason, if_true]
  · simp only [podRow, orElse, hreason, if_false]

def podsSection : Section Pod → Text
  | .other error => errorSection "Pods" error
  | .rows []     => noteSection "Pods" (lit "no pods")
  | .rows pods   =>
    lit "<div><h3>Pods (" ++ number pods.length ++ lit ")</h3><table class=\"grid\"><tr>" ++
      lit "<th>Name</th><th>Phase</th><th>Reason</th><th>Restarts</th><th>Ready</th><th>Node</th></tr>" ++
      pods.flatMap podRow ++ lit "</table></div>"

/-- A row of `depsSection`. -/
def deploymentRow (cluster ns : Text) (d : Deployment) : Text :=
  lit "<tr><td>" ++ escapeHtml d.name ++ lit "</td><td><span class=\"pill " ++ readyCls d.ready ++
    lit "\">" ++ escapeHtml d.ready ++ lit "</span></td>\n      <td class=\"mono\">" ++
    escapeHtml (orElse d.image (lit "—")) ++
    lit "</td>\n      <td><button class=\"diag-btn\" data-cluster=\"" ++ escapeHtml cluster ++
    lit "\" data-ns=\"" ++ escapeHtml ns ++ lit "\" data-name=\"" ++ escapeHtml d.name ++
    lit "\">Diagnose</button></td></tr>"

def depsSection (cluster ns : Text) : Section Deployment → Text
  | .other error => errorSection "Deployments" error
  | .rows []     => noteSection "Deployments" (lit "no deployments")
  | .rows deps   =>
    lit "<div><h3>Deployments (" ++ number deps.length ++ lit ")</h3><table class=\"grid\"><tr>" ++
      lit "<th>Name</th><th>Ready</th><th>Image</th><th></th></tr>" ++
      deps.flatMap (deploymentRow cluster ns) ++ lit "</table></div>"

/-- A row of `eventsSection`. -/
def eventRow (e : Event) : Text :=
  lit "<tr>\n    <td><span class=\"pill " ++ (if e.type = lit "Warning" then lit "warn" else []) ++
    lit "\">" ++ escapeHtml e.type ++ lit "</span></td>\n    <td>" ++ escapeHtml e.reason ++
    lit "</td><td class=\"mono\">" ++ escapeHtml e.object ++ lit "</td>\n    <td>" ++
    escapeHtml (e.message.take 100) ++ lit "</td><td class=\"mono\">" ++ escapeHtml e.age ++
    lit "</td></tr>"

def eventsSection : Section Event → Text
  | .other error => errorSection "Recent events" error
  | .rows []     => noteSection "Recent events" (lit "no recent events")
  | .rows events =>
    lit "<div><h3>Recent events</h3><table class=\"grid\"><tr>" ++
      lit "<th>Type</th><th>Reason</th><th>Object</th><th>Message</th><th>Age</th></tr>" ++
      (events.take 15).flatMap eventRow ++ lit "</table></div>"

/-- The drill-down into a namespace of a cluster. -/
structure Detail where
  cluster     : Text
  ns          : Text
  pods        : Section Pod
  deployments : Section Deployment
  events      : Section Event

/-- `body.innerHTML` of `loadNamespace`. -/
def Detail.html (d : Detail) : Text :=
  podsSection d.pods ++ depsSection d.cluster d.ns d.deployments ++ eventsSection d.events

/-! ## Pages

All assignments to `innerHTML`, but for the rendered text of a reply, which is the matter of
`SreAgent.Webapp.Markdown`. -/

/-- What is assigned to an element, but for the text of a chat. An exception comes as `String(e)`. -/
inductive Page where
  | clusters (clusters : List Cluster) (error : Text)
  | clustersFailed (exc : Text)
  | tools (tools : List (Text × Text))
  | namespaces (namespaces : List Text)
  | loading (ns : Text)
  | detail (detail : Detail)
  | detailFailed (exc : Text)
  | userMessage (text : Text)
  | investigating
  | trace (tools : List Text)
  | chatFailed (exc : Text)
  | me (name sub : Text)

def traceHtml (tools : List Text) : Text :=
  if tools.isEmpty then []
  else
    lit "<div class=\"trace\">" ++
      -- a symbol of two units
      (tools.flatMap fun tool => lit "<span class=\"chip\">" ++ [0xD83D, 0xDD27] ++ lit " " ++
        escapeHtml tool ++ lit "</span>") ++ lit "</div>"

/-- `wrap.innerHTML` of `addMessage`. -/
def bubble (html : Text) : Text := lit "<div class=\"bubble\">" ++ html ++ lit "</div>"

def Page.html : Page → Text
  | .clusters list error => clustersHtml list error
  | .clustersFailed exc  => emptyNote (lit "Failed to load clusters: " ++ escapeHtml exc)
  | .tools list          => toolsHtml list
  | .namespaces list     =>
    list.flatMap fun ns => lit "<option>" ++ escapeHtml ns ++ lit "</option>"
  | .loading ns          => emptyNote (lit "loading " ++ escapeHtml ns ++ lit "…")
  | .detail d            => d.html
  | .detailFailed exc    => emptyNote (escapeHtml exc)
  | .userMessage text    => bubble (escapeHtml text)
  | .investigating       => bubble (lit "<span class=\"typing\">investigating…</span>")
  | .trace list          => traceHtml list
  | .chatFailed exc      => lit "Error: " ++ escapeHtml exc
  | .me name sub         =>
    escapeHtml (orElse name sub) ++ lit " <a href=\"/auth/logout\">log out</a>"

end SreAgent.Webapp.Pages
