import SreAgent.Rca.Calls
import SreAgent.Tools.Metrics

/-!
# The tools that take a namespace

Every tool of the server with a `namespace` argument, as a program over what it asks upstream:
`tools/kubernetes.py`, `tools/logs.py`, `tools/metrics.py`, `tools/istio.py` and `rca_diagnose`. Each is
guarded on its own, since `guard_namespace` is a call at the top of its body and no decorator. What a
tool makes of the objects of an answer it asks no further question about; it is left out where no
string of an argument goes into it.

The tools are near copies of each other, and so are their models. Each keeps its own definition
under the source's name, applied to what makes it different, and what they share is `guarded`.
-/

namespace SreAgent.Tools

open Interaction (Prog)
open Py (Json)

/-! ## Kubernetes and Istio

The guard, a client, and one call. The names of the arguments are those of the source, and an empty
string stands for an argument that is not given. -/

/-- `mgr.guard_namespace(cluster, namespace)`, then one call of `mgr.clients(cluster)`. -/
def guarded (site : Site) (cluster : Option String) (ns : String) (c : KubeCall) : Run c.Reply := do
  let _ ← guardNamespace site.registry cluster ns
  clients site.registry cluster
  call c

/-- `s or None`. -/
def orNone (s : String) : Option String := if s = "" then none else some s

def k8sGetPods (site : Site) (ns : String) (cluster : Option String) (labelSelector : String) :=
  guarded site cluster ns (.listPods ns (orNone labelSelector))

def k8sDescribePod (site : Site) (ns name : String) (cluster : Option String) :=
  guarded site cluster ns (.readPod ns name)

def k8sGetEvents (site : Site) (ns : String) (cluster : Option String) (involvedObject : String) :=
  guarded site cluster ns (.listEvents ns
    (if involvedObject = "" then none else some ("involvedObject.name=" ++ involvedObject)))

def k8sGetDeployments (site : Site) (ns : String) (cluster : Option String) :=
  guarded site cluster ns (.listDeployments ns)

def k8sGetDaemonsets (site : Site) (ns : String) (cluster : Option String) :=
  guarded site cluster ns (.listDaemonSets ns)

def k8sGetServices (site : Site) (ns : String) (cluster : Option String) :=
  guarded site cluster ns (.listServices ns)

def k8sGetIngress (site : Site) (ns : String) (cluster : Option String) :=
  guarded site cluster ns (.listIngresses ns)

def k8sGetConfigmaps (site : Site) (ns : String) (cluster : Option String) :=
  guarded site cluster ns (.listConfigMaps ns)

def k8sGetSecretsMetadata (site : Site) (ns : String) (cluster : Option String) :=
  guarded site cluster ns (.listSecrets ns)

def net : String := "networking.istio.io"

def sec : String := "security.istio.io"

/-- `_list` of `tools/istio.py`. -/
def listIstio (site : Site) (cluster : Option String) (ns plural group : String) : Run Json := do
  let reply ← guarded site cluster ns (.listCustomObjects group "v1beta1" ns plural)
  Prog.lift (getKey reply "items" (.arr []))  -- `.get("items", [])` of what the API answered

def istioGetVirtualservices (site : Site) (ns : String) (cluster : Option String) :=
  listIstio site cluster ns "virtualservices" net

def istioGetDestinationrules (site : Site) (ns : String) (cluster : Option String) :=
  listIstio site cluster ns "destinationrules" net

def istioGetGateways (site : Site) (ns : String) (cluster : Option String) :=
  listIstio site cluster ns "gateways" net

def istioGetPeerauthentications (site : Site) (ns : String) (cluster : Option String) :=
  listIstio site cluster ns "peerauthentications" sec

/-- What `istio_mesh_analyze` reads: virtual services, destination rules, peer authentications and
gateways. -/
def istioMeshAnalyze (site : Site) (ns : String) (cluster : Option String) :
    Run (Json × Json × Json × Json) := do
  -- each list is guarded and asked for by itself
  let vs ← listIstio site cluster ns "virtualservices" net
  let dr ← listIstio site cluster ns "destinationrules" net
  let pa ← listIstio site cluster ns "peerauthentications" sec
  let gw ← listIstio site cluster ns "gateways" net
  return (vs, dr, pa, gw)

/-! ## Logs

A log is a text. It is split into lines, filtered by a phrase in any case, and cut again to the
number of lines asked for, which the API has already done. -/

structure PodLog where
  pod       : String
  container : String
  previous  : Bool
  lines     : List String
  deriving DecidableEq, Repr

/-- `lines[-tail:]`. -/
def lastLines (tail : ℤ) (lines : List String) : List String :=
  -- `lines[-0:]` is the whole list, and a negative tail cuts from the front
  if 0 < tail then lines.drop (lines.length - tail.toNat) else lines.drop (-tail).toNat

def logsPod (site : Site) (ns pod : String) (cluster : Option String) (container : String)
    (tail : ℤ) (previous : Bool) (grep : String) : Run PodLog := do
  let text ← guarded site cluster ns (.readPodLog ns pod (orNone container) tail previous true)
  let lines := Py.splitlines text
  -- the filter is a text, not a pattern, in any case
  let lines := if grep = "" then lines
    else lines.filter fun line => Py.contains (Py.lower line) (Py.lower grep)
  return ⟨pod, if container = "" then "(default)" else container, previous, lastLines tail lines⟩

def logsContainer (site : Site) (ns pod container : String) (cluster : Option String) (tail : ℤ) :
    Run PodLog := logsPod site ns pod cluster container tail false ""

/-! ## The calls of a client

A call is one of the tools with its own arguments. Which namespace and which cluster is kept apart,
since the guard looks at these two and at nothing else. -/

/-- A call of a tool with a `namespace` argument, with the defaults of its signature. The namespace and
the cluster, which all of them take, stand apart. -/
inductive ToolCall where
  | k8sGetPods (labelSelector : String := "")
  | k8sDescribePod (name : String)
  | k8sGetEvents (involvedObject : String := "")
  | k8sGetDeployments
  | k8sGetDaemonsets
  | k8sGetServices
  | k8sGetIngress
  | k8sGetConfigmaps
  | k8sGetSecretsMetadata
  | logsPod (pod : String) (container : String := "") (tail : ℤ := 200) (previous : Bool := false)
      (grep : String := "")
  | logsContainer (pod container : String) (tail : ℤ := 200)
  | metricCpu (pod : String := "") (range : String := "30m")
  | metricMemory (pod : String := "") (range : String := "30m")
  | metricNetwork (pod : String := "") (range : String := "30m")
  | metricRestarts (range : String := "1h")
  | istioGetVirtualservices
  | istioGetDestinationrules
  | istioGetGateways
  | istioGetPeerauthentications
  | istioMeshAnalyze
  | rcaDiagnose (subject : String)
  deriving DecidableEq, Repr

/-- A tool at work, whatever it returns. -/
def ToolCall.program (site : Site) (ns : String) (cluster : Option String) : ToolCall → Run Unit
  | .k8sGetPods labelSelector    => discard (Tools.k8sGetPods site ns cluster labelSelector)
  | .k8sDescribePod name         => discard (Tools.k8sDescribePod site ns name cluster)
  | .k8sGetEvents involvedObject => discard (Tools.k8sGetEvents site ns cluster involvedObject)
  | .k8sGetDeployments           => discard (Tools.k8sGetDeployments site ns cluster)
  | .k8sGetDaemonsets            => discard (Tools.k8sGetDaemonsets site ns cluster)
  | .k8sGetServices              => discard (Tools.k8sGetServices site ns cluster)
  | .k8sGetIngress               => discard (Tools.k8sGetIngress site ns cluster)
  | .k8sGetConfigmaps            => discard (Tools.k8sGetConfigmaps site ns cluster)
  | .k8sGetSecretsMetadata       => discard (Tools.k8sGetSecretsMetadata site ns cluster)
  | .logsPod pod container tail previous grep =>
    discard (Tools.logsPod site ns pod cluster container tail previous grep)
  | .logsContainer pod container tail =>
    discard (Tools.logsContainer site ns pod container cluster tail)
  | .metricCpu pod range         => discard (Tools.metricCpu site ns pod cluster range)
  | .metricMemory pod range      => discard (Tools.metricMemory site ns pod cluster range)
  | .metricNetwork pod range     => discard (Tools.metricNetwork site ns pod cluster range)
  | .metricRestarts range        => discard (Tools.metricRestarts site ns cluster range)
  | .istioGetVirtualservices     => discard (Tools.istioGetVirtualservices site ns cluster)
  | .istioGetDestinationrules    => discard (Tools.istioGetDestinationrules site ns cluster)
  | .istioGetGateways            => discard (Tools.istioGetGateways site ns cluster)
  | .istioGetPeerauthentications => discard (Tools.istioGetPeerauthentications site ns cluster)
  | .istioMeshAnalyze            => discard (Tools.istioMeshAnalyze site ns cluster)
  | .rcaDiagnose subject         =>
    discard (Rca.diagnoseCalls site.registry site.now site.ragEnabled cluster ns subject)

end SreAgent.Tools
