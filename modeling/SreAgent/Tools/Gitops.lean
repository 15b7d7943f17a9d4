import SreAgent.Config
import SreAgent.Lib.Json

/-!
# ArgoCD

`argocd_rollback_info` of `tools/gitops.py`. The application comes from the ArgoCD API as JSON.

A document of a backend is JSON of any shape. The source reads it with `.get` and a default, which
works on objects only, and in one place with a slice from the end, which works on lists and strings.
What each of the two does on the other shapes is spelled out, since a tool that raises is a tool
that answers its caller with the text of the exception.
-/

namespace SreAgent.Tools

open Py (Json)

/-- `v.get(key, default)`. -/
def getKey (v : Json) (key : String) (default : Json) : Except Exc Json :=
  match v with
  | .obj members => .ok ((Py.member members key).getD default)
  | _            => .error (.attributeError "object has no attribute 'get'")

/-- `v or {}`. -/
def orEmpty (v : Json) : Json := if v.truthy then v else .obj []

structure RollbackInfo where
  currentRevision    : Json
  rollbackCandidate  : Json
  rollbackDeployedAt : Json

/-- `history[-2] if len(history) >= 2 else None`. A string has letters and an object keys, neither of
which is an entry with a revision. -/
def lastButOne : Json → Except Exc Json
  | .arr items   => .ok (if items.length ≥ 2 then items.getD (items.length - 2) .null else .null)
  | .str s       => if s.length ≥ 2 then .error (.attributeError "'str' object has no attribute 'get'")
    else .ok .null
  | .obj members => if (members.map Prod.fst).dedup.length ≥ 2 then .error (.keyError "-2")
    else .ok .null
  | .null | .bool _ | .num _ => .error .typeError

/-- What `argocd_rollback_info` makes of the application. -/
def rollbackInfo (data : Json) : Except Exc RollbackInfo := do
  let status ← getKey data "status" (.obj [])
  let history ← getKey status "history" (.arr [])
  let sync ← getKey (← getKey data "status" (.obj [])) "sync" (.obj [])
  let current ← getKey sync "revision" .null
  let previous ← lastButOne history
  let candidate ← getKey (orEmpty previous) "revision" .null
  let deployedAt ← getKey (orEmpty previous) "deployedAt" .null
  return ⟨current, candidate, deployedAt⟩

/-- `_argocd`: the server of the cluster or the default one, and the headers. -/
def argocd (settings : Settings) (cfg : ClusterConfig) : String × List (String × String) :=
  let base := if cfg.backends.argocd = "" then settings.argocdServer else cfg.backends.argocd
  (String.ofList (Py.rstrip '/' base.toList),
    if settings.argocdToken = "" then []
    else [("Authorization", "Bearer " ++ settings.argocdToken)])

def argocdRollbackInfo (getJson : String → List (String × String) → Except Exc Json)
    (settings : Settings) (registry : ClusterRegistry) (app : String) (cluster : Option String) :
    Except Exc RollbackInfo := do
  let (base, headers) := argocd settings (← registry.get cluster)
  rollbackInfo (← getJson (base ++ "/api/v1/applications/" ++ app) headers)

end SreAgent.Tools
