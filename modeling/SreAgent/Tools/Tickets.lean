import SreAgent.Lib.Base64
import SreAgent.Tools.Server

/-!
# Tickets

The two searches of `tools/incidents.py`. Unlike the other tools they send a credential even if none is
configured.

Rows of Jira are read with subscripts and raise on a missing key. Rows of ServiceNow are read with
`.get` and have an empty column instead.
-/

namespace SreAgent.Tools

open Interaction (Prog)
open Py (Json)

/-- `base64.b64encode(s.encode()).decode()`, of which the URL-safe form is a translation. -/
def b64encode (s : String) : String :=
  String.ofList ((Base64.urlsafeEncode (utf8 s)).map fun c =>
    if c = '-' then '+' else if c = '_' then '/' else c)

def basic (user password : String) : String × String :=
  ("Authorization", "Basic " ++ b64encode (user ++ ":" ++ password))

structure Issue where
  key      : Json
  summary  : Json
  status   : Json
  priority : Json

def issueRow (i : Json) : Except Exc Issue := do
  let key ← item i "key"
  let fields ← item i "fields"
  let summary ← item fields "summary"
  let status ← item (← item fields "status") "name"
  let priority ← getKey (orEmpty (← getKey fields "priority" .null)) "name" .null
  return ⟨key, summary, status, priority⟩

def jiraSearch (server : Server) (jql : String) (limit : ℤ) : Run (List Issue) := do
  let settings := server.settings
  let maxResults ← Prog.lift (showInt limit)
  let data ← getJson
    { url := trimmed settings.jiraUrl ++ "/rest/api/3/search"
      params := [("jql", jql), ("maxResults", maxResults)]
      headers := [basic settings.jiraEmail settings.jiraToken] }
  let issues ← Prog.lift (getKey data "issues" (.arr []))
  let issues ← Prog.lift (iterate issues)
  Prog.lift (issues.mapM issueRow)

structure TableRow where
  number           : Json
  shortDescription : Json
  state            : Json
  priority         : Json

def tableRow (r : Json) : Except Exc TableRow := do
  let number ← getKey r "number" .null
  let shortDescription ← getKey r "short_description" .null
  let state ← getKey r "state" .null
  let priority ← getKey r "priority" .null
  return ⟨number, shortDescription, state, priority⟩

def servicenowSearch (server : Server) (query table : String) (limit : ℤ) :
    Run (List TableRow) := do
  let settings := server.settings
  let limit ← Prog.lift (showInt limit)
  let data ← getJson
    { url := trimmed settings.servicenowUrl ++ "/api/now/table/" ++ table
      params := [("sysparm_query", query), ("sysparm_limit", limit)]
      headers := [basic settings.servicenowUser settings.servicenowPassword,
        ("Accept", "application/json")] }
  let rows ← Prog.lift (getKey data "result" (.arr []))
  let rows ← Prog.lift (iterate rows)
  Prog.lift (rows.mapM tableRow)

end SreAgent.Tools
