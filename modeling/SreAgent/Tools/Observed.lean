import SreAgent.Tools.Server

/-!
# Logs and metrics without a namespace

The tools of `tools/logs.py` and `tools/metrics.py` that `guard_namespace` does not look at: Loki, Grafana,
and PromQL as it is given or about the disks of the nodes.

None of these takes a namespace, so there is nothing to guard. What they read is decided by the text
of the query, which is the caller's, and by the backend's own permissions.
-/

namespace SreAgent.Tools

open Interaction (Prog)
open Py (Json)

/-! ## Loki

The query for the logs of a node is put together from two arguments, in quotes and in backticks,
without escaping. It goes to the Loki of the cluster or to the default one. -/

def resolveLoki (settings : ServerSettings) (cfg : ClusterEntry) : String :=
  orDefault cfg.loki settings.lokiUrl

def lokiRequest (settings : ServerSettings) (cfg : ClusterEntry) (query since limit : String) :
    GetRequest :=
  { url := trimmed (resolveLoki settings cfg) ++ "/loki/api/v1/query_range"
    params := [("query", query), ("since", since), ("limit", limit)] }

/-- The request, and `data.get("data", {}).get("result", [])`. -/
def lokiResult (request : GetRequest) : Run Json := do
  let data ← getJson request
  let data ← Prog.lift (getKey data "data" (.obj []))
  Prog.lift (getKey data "result" (.arr []))

structure NodeLog where
  node   : String
  result : Json

def logsNode (server : Server) (node : String) (cluster : Option String) (since grep : String) :
    Run NodeLog := do
  let cfg ← Prog.lift (server.registry.get cluster)
  -- neither argument is escaped: a quote or a backtick ends its literal
  let query := "\x7bjob=\"systemd-journal\", node=\"" ++ node ++ "\"\x7d |~ `(?i)" ++ grep ++ "`"
  let result ← lokiResult (lokiRequest server.settings cfg query since "300")
  return ⟨node, result⟩

def lokiQuery (server : Server) (query : String) (cluster : Option String) (since : String)
    (limit : ℤ) : Run QueryResult := do
  let cfg ← Prog.lift (server.registry.get cluster)
  let limit ← Prog.lift (showInt limit)
  let result ← lokiResult (lokiRequest server.settings cfg query since limit)
  return ⟨query, result⟩

/-! ## Grafana

A dashboard is asked for by its identifier, and a panel is looked for in it. `==` between what JSON
has and a number follows Python, to which `True` is one. -/

structure Panel where
  title     : Json
  targets   : Json
  timeRange : String

/-- `p.get("id") == panel_id`. A number equals an integer of its value, and so do `True` and `False`. -/
def hasId (panelId : ℤ) (p : Json) : Except Exc Bool := do
  match ← getKey p "id" .null with
  | .num n  => return n.value == panelId
  | .bool b => return (if b then 1 else 0) == panelId
  | _       => return false

/-- `next((p for p in panels if ..), None)`. -/
def findPanel (panelId : ℤ) : List Json → Except Exc (Option Json)
  | []          => return none
  | p :: panels => do if ← hasId panelId p then return some p else findPanel panelId panels

/-- What `grafana_panel` makes of a dashboard. -/
def panelOf (dash : Json) (panelId : ℤ) (timeRange : String) : Except Exc Panel := do
  let dashboard ← getKey dash "dashboard" (.obj [])
  let panels ← iterate (← getKey dashboard "panels" (.arr []))
  match ← findPanel panelId panels with
  | none       => return ⟨.null, .null, timeRange⟩  -- `panel.get(..) if panel else None`
  | some panel =>
    let title ← getKey panel "title" .null
    let targets ← getKey panel "targets" .null
    return ⟨title, targets, timeRange⟩

def dashboardRequest (settings : ServerSettings) (cfg : ClusterEntry) (uid : String) : GetRequest :=
  { url := trimmed (orDefault cfg.grafana settings.grafanaUrl) ++ "/api/dashboards/uid/" ++ uid
    headers := bearer settings.grafanaToken }

def grafanaPanel (server : Server) (uid : String) (panelId : ℤ) (cluster : Option String)
    (timeRange : String) : Run Panel := do
  let cfg ← Prog.lift (server.registry.get cluster)
  let dash ← getJson (dashboardRequest server.settings cfg uid)
  Prog.lift (panelOf dash panelId timeRange)

/-! ## Prometheus

A query as it was given, and one about disks, whose node is a regular expression of the caller's. -/

def promQuery (server : Server) (promql : String) (cluster : Option String) (range : String) :
    Run QueryResult := query server.site cluster promql range

/-- The text of `metric_disk`. -/
def diskPromql (node : String) : String :=
  let sel := if node = "" then "" else ",instance=~\"" ++ node ++ ".*\""
  "max by (instance) (100 - (node_filesystem_avail_bytes\x7bfstype=~\"ext4|xfs\"" ++ sel ++ "\x7d " ++
    "/ node_filesystem_size_bytes\x7bfstype=~\"ext4|xfs\"" ++ sel ++ "\x7d * 100))"

def metricDisk (server : Server) (node : String) (cluster : Option String) (range : String) :
    Run QueryResult := query server.site cluster (diskPromql node) range

end SreAgent.Tools
