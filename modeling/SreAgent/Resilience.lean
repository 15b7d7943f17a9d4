import SreAgent.Lib.Json

/-!
# Tool failures as results

`resilience.py`: `tool_guard` turns whatever a tool raises into a structured result, with a kind and
a message that `_classify` chooses. `GuardedMCP` wraps every tool the MCP server registers in it.

The guard is where the text of an exception stops. `_classify` looks at the class, at two status
codes and, for the classes that are made for the purpose, at the text; from everything else it takes
a fixed sentence. So two failures that agree in the first three are told to the model in the same
words (`classify_alike`), and that is the whole of what the claim about leaking details needs to
know of the guard.
-/

namespace SreAgent

open Py (Json)

/-- What is looked at of an exception: `type(exc).__name__`, `str(exc)`, the `kind` of a `ToolError`,
`exc.status` and `exc.response.status_code`. -/
structure Raised where
  name         : String
  text         : String
  toolKind     : Option String := none
  status       : Option ℤ := none
  responseCode : Option ℤ := none
  deriving DecidableEq, Repr

/-- The modules whose `register` hands functions to the MCP server; `list_clusters` is a function of
`server.py` itself. -/
inductive ToolModule where
  | kubernetes | logs | metrics | gitops | cicd | incidents | istio | rcaEngine | ragRetrieve | server
  deriving DecidableEq, Repr

/-- A registered function. What a call of it ends with is the tool's own matter. -/
structure Tool where
  name      : String
  definedIn : ToolModule
  run       : List (String × Json) → Except Raised Json

/-- `f"{code}"` of an optional number. -/
def showCode : Option ℤ → String
  | some code => toString code
  | none      => "None"

/-- `code and 500 <= int(code) < 600`. -/
def isServerError (code : Option ℤ) : Bool :=
  match code with
  | some n => 500 ≤ n && n < 600
  | none   => false

/-- `_classify`: the kind of a failure and the message for the model. -/
def classify (exc : Raised) : String × String :=
  if exc.name = "TenantIsolationError" then
    ("forbidden", exc.text)
  else if exc.toolKind.isSome then
    (exc.toolKind.getD "", exc.text)
  -- `kubernetes.client.ApiException`
  else if exc.status = some 401 then
    ("unauthenticated", "credentials rejected by the upstream API")
  else if exc.status = some 403 then
    ("forbidden", "read access denied by RBAC for this resource")
  else if exc.status = some 404 then
    ("not_found", "resource not found")
  else if isServerError exc.status then
    ("upstream_error", "upstream returned " ++ showCode exc.status)
  -- httpx and the network
  else if Py.contains exc.name "Timeout" then
    ("timeout", "upstream timed out")
  else if Py.containsAny exc.name ["ConnectError", "ConnectionError", "TransportError"] then
    ("unreachable", "upstream unreachable (check endpoint/network policy)")
  else if Py.contains exc.name "HTTPStatusError" then
    if exc.responseCode = some 401 then
      ("unauthenticated", "upstream rejected the credentials (401)")
    else if exc.responseCode = some 403 then
      ("forbidden",
        "access denied by the upstream (403) — check the token's scope/permissions")
    else if exc.responseCode = some 404 then
      ("not_found", "resource not found (404)")
    else if isServerError exc.responseCode then
      ("upstream_error", "upstream returned " ++ showCode exc.responseCode)
    else
      ("upstream_error", "upstream returned HTTP " ++ showCode exc.responseCode)
  else
    ("error", "unexpected tool failure")

/-- `tool_guard`, which never raises: an exception becomes an object with its kind, a safe message
and the name of the tool. -/
def toolGuard (tool : Tool) (input : List (String × Json)) : Json :=
  match tool.run input with
  | .ok result => result
  | .error exc =>
    let (kind, safe) := classify exc
    .obj [("error", .str kind), ("message", .str safe), ("tool", .str tool.name)]

/-! ## What the guard looks at

Two exceptions are alike if they differ in nothing that `_classify` reads. The two classes whose
text is passed on are excluded: a tenant violation and a `ToolError` name what the caller did, on
purpose. -/

/-- Two exceptions of one class with the same codes, of a class whose text is not meant for the
model. -/
structure Alike (exc exc' : Raised) : Prop where
  name         : exc.name = exc'.name
  status       : exc.status = exc'.status
  responseCode : exc.responseCode = exc'.responseCode
  notTool      : exc.toolKind = none
  notTool'     : exc'.toolKind = none
  notTenant    : exc.name ≠ "TenantIsolationError"

/-- **The text is not among what the guard looks at**: of two alike exceptions kind and message are
the same. Each branch of `_classify` is decided by a field the two share. -/
theorem classify_alike {exc exc' : Raised} (h : Alike exc exc') : classify exc = classify exc' := by
  -- past the two branches that show the text, every condition is about a shared field
  have htenant := h.notTenant
  have htenant' : exc'.name ≠ "TenantIsolationError" := h.name ▸ h.notTenant
  unfold classify
  rw [if_neg htenant, if_neg htenant', h.notTool, h.notTool', h.name, h.status, h.responseCode]
  rfl

/-- A tool that raises one of two alike exceptions looks the same from behind the guard. -/
theorem toolGuard_alike {tool tool' : Tool} {input : List (String × Json)} {exc exc' : Raised}
    (hname : tool.name = tool'.name) (h : Alike exc exc') (hrun : tool.run input = .error exc)
    (hrun' : tool'.run input = .error exc') : toolGuard tool input = toolGuard tool' input := by
  unfold toolGuard
  rw [hrun, hrun', hname]
  show Json.obj [("error", .str (classify exc).1), ("message", .str (classify exc).2), _] = _
  rw [classify_alike h]

end SreAgent
