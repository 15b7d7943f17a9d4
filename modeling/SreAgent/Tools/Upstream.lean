import SreAgent.Clusters.Basic
import SreAgent.Kube
import SreAgent.Lib.Interaction
import SreAgent.Lib.PromQL
import SreAgent.Rag.Retrieve
import SreAgent.Tools.Http

/-!
# What a tool sends

A tool is a program that asks upstream: the Kubernetes API, an HTTP backend, the knowledge base, or
`ClusterManager.clients` for the client of a cluster. Every question carries the strings the code puts
into it, since it is these that the credentials of the agent vouch for. An answer may be an exception.
Nothing is assumed of the answers, and asking twice may be answered twice.

The type of a question fixes the type of its answer. So a program over questions is a tree that
branches on answers, and a statement about all questions of a program (`Prog.All`) is one about
every branch: whatever comes back.
-/

namespace SreAgent.Tools

open Interaction (Prog)
open Py (Json)

/-! ## Calls

Only the calls the tools really make are there, with the arguments that carry something from
outside. Their answers have the types the later code needs, and are left as JSON where nothing is
computed from them. -/

/-- The calls of the Kubernetes client the tools make, with their arguments. -/
inductive KubeCall where
  | listPods (ns : String) (labelSelector : Option String)
  | readPod (ns name : String)
  | readPodLog (ns pod : String) (container : Option String) (tailLines : ℤ)
      (previous timestamps : Bool)
  | listEvents (ns : String) (fieldSelector : Option String)
  | listDeployments (ns : String)
  | readDeployment (ns name : String)
  | readStatefulSet (ns name : String)
  | listDaemonSets (ns : String)
  | readJob (ns name : String)
  | listServices (ns : String)
  | listIngresses (ns : String)
  | listConfigMaps (ns : String)
  | listSecrets (ns : String)
  | listHpas (ns : String)
  | listPdbs (ns : String)
  | listCustomObjects (group version ns plural : String)
  | listNodes
  deriving DecidableEq, Repr

/-- The namespace a call names. Nodes have none. -/
def KubeCall.namespace_ : KubeCall → Option String
  | .listPods ns _               => some ns
  | .readPod ns _                => some ns
  | .readPodLog ns ..            => some ns
  | .listEvents ns _             => some ns
  | .listDeployments ns          => some ns
  | .readDeployment ns _         => some ns
  | .readStatefulSet ns _        => some ns
  | .listDaemonSets ns           => some ns
  | .readJob ns _                => some ns
  | .listServices ns             => some ns
  | .listIngresses ns            => some ns
  | .listConfigMaps ns           => some ns
  | .listSecrets ns              => some ns
  | .listHpas ns                 => some ns
  | .listPdbs ns                 => some ns
  | .listCustomObjects _ _ ns _  => some ns
  | .listNodes                   => none

/-- What a call returns. Objects that only the summary of a tool looks at are left as JSON. -/
def KubeCall.Reply : KubeCall → Type
  | .listPods ..                => List Kube.Pod
  | .readPod ..                 => Kube.Pod
  | .readPodLog ..              => String
  | .listEvents ..              => List Kube.Event
  | .readDeployment ..          => Kube.Workload
  | .readStatefulSet ..         => Kube.Workload
  | .readJob ..                 => Kube.Job
  | .listServices _             => List String
  | .listSecrets _              => List Kube.Secret
  | .listHpas _                 => List Kube.HorizontalPodAutoscaler
  | .listPdbs _                 => List Kube.PodDisruptionBudget
  | .listNodes                  => List Kube.Node
  | .listCustomObjects ..       => Json
  | .listDeployments _          => Json
  | .listDaemonSets _           => Json
  | .listIngresses _            => Json
  | .listConfigMaps _           => Json

/-- The arguments of `get_json`. -/
structure GetRequest where
  url     : String
  params  : List (String × String) := []
  headers : List (String × String) := []
  deriving DecidableEq, Repr

/-- A question. `place` tells apart the reads of `collect_context`, which may fail one by one. -/
inductive Upstream where
  | connect (cluster : ClusterConfig)
  | kube (call : KubeCall) (place : Option Kube.Read)
  | get (request : GetRequest)
  | knowledge (query : String)

def Upstream.Reply : Upstream → Type
  | .connect _   => Except Exc Unit
  | .kube call _ => Except Exc call.Reply
  | .get _       => Answer
  | .knowledge _ => Except Exc (List Rag.Hit)

abbrev Run (α : Type) := Prog Upstream.Reply Exc α

/-! ## Asking

The three ways to ask: a client, a call with it, a request to a backend. The guard is listed with
them because it may end a program, but it asks nothing. -/

/-- A call whose exception is not caught. -/
def call (c : KubeCall) : Run c.Reply := do
  let reply ← Prog.request (Upstream.kube c none)
  Prog.lift reply

/-- `manager().guard_namespace(cluster, namespace)`. -/
def guardNamespace (registry : ClusterRegistry) (cluster : Option String) (ns : String) :
    Run ClusterConfig :=
  Prog.lift (ClusterManager.guardNamespace { registry } cluster ns)

/-- `manager().clients(cluster)`. Whether it finds a client in the cache or builds one, and what
building it ends with, is up to the answer. -/
def clients (registry : ClusterRegistry) (cluster : Option String) : Run Unit := do
  -- an unknown cluster is an error before anything is asked
  let cfg ← Prog.lift (registry.get cluster)
  let reply ← Prog.request (Upstream.connect cfg)
  Prog.lift reply

/-- What one attempt of `get_json` ends with. -/
def Answer.toJson : Answer → Except Exc Json
  | .raised exc => .error exc
  | .response status content =>
    if 200 ≤ status ∧ status ≤ 299 then
      match Py.loads content.toList with
      | some v => .ok v
      | none   => .error .valueError  -- `json.JSONDecodeError`, which is not retried
    else .error (.httpStatusError status)

/-- An attempt at the request, and at most `more` further ones. -/
def getJsonWithin (request : GetRequest) : (more : Nat) → Run Json
  | 0 => do
    let answer ← Prog.request (Upstream.get request)
    Prog.lift (Answer.toJson answer)
  | more + 1 => do
    let answer ← Prog.request (Upstream.get request)
    -- the last attempt's exception is raised again (`reraise=True`)
    if retryable (Answer.toJson answer) then getJsonWithin request more
    else Prog.lift (Answer.toJson answer)

def getJson (request : GetRequest) : Run Json := getJsonWithin request (maxAttempts - 1)

/-! ## Confined questions

Asking for a client is about no namespace, and so is a search. A call names its namespace or has
none. A query is about a namespace if every selector of it is. -/

/-- A PromQL text that is about one namespace: it parses, and every vector selector asks for it. -/
def Scoped (ns promql : String) : Prop :=
  ∃ e, PromQL.parse promql = some e ∧ ∀ ms ∈ e.selectors, ⟨"namespace", .eq, ns⟩ ∈ ms

/-- A question that stays within one namespace. -/
def Within (ns : String) : Upstream → Prop
  | .connect _    => True
  | .kube call _  => call.namespace_ = none ∨ call.namespace_ = some ns
  | .get request  => ∀ promql, ("query", promql) ∈ request.params → Scoped ns promql
  | .knowledge _  => True

variable {P : Upstream → Prop} {registry : ClusterRegistry} {cluster : Option String} {ns : String}

/-- A call asks for itself, a client for its cluster, and each attempt at a request for the same, so
all of them do. -/
theorem call_all {c : KubeCall} (h : P (.kube c none)) : (call c).All P :=
  Prog.All.bind (Prog.All.request h) fun reply => Prog.All.lift reply

theorem clients_all (h : ∀ cfg, P (.connect cfg)) : (clients registry cluster).All P := by
  apply Prog.All.bind (Prog.All.lift _)
  intro cfg
  exact Prog.All.bind (Prog.All.request (h cfg)) fun reply => Prog.All.lift reply

theorem getJsonWithin_all {request : GetRequest} (h : P (.get request)) (more : Nat) :
    (getJsonWithin request more).All P := by
  induction more with
  | zero => exact Prog.All.bind (Prog.All.request h) fun answer => Prog.All.lift _
  | succ more ih =>
      refine Prog.All.bind (Prog.All.request h) fun answer => ?_
      show (if retryable (Answer.toJson answer) then getJsonWithin request more
        else Prog.lift (Answer.toJson answer)).All P
      split
      · exact ih
      · exact Prog.All.lift _

theorem getJson_all {request : GetRequest} (h : P (.get request)) : (getJson request).All P :=
  getJsonWithin_all h _

/-- The guard lets a namespace pass, or ends the program before anything was asked. -/
theorem guardNamespace_done {cfg : ClusterConfig} (hcfg : registry.get cluster = .ok cfg)
    (hallowed : cfg.namespaceAllowed ns = true) : guardNamespace registry cluster ns = .done cfg := by
  rw [guardNamespace, guardNamespace_allowed hcfg hallowed]
  rfl

/-- Which of the two it does is decided by the list. -/
theorem guardNamespace_fails {cfg : ClusterConfig} (hcfg : registry.get cluster = .ok cfg)
    (hdenied : cfg.namespaceAllowed ns = false) :
    ∃ msg, guardNamespace registry cluster ns = .fail (.tenantIsolationError msg) := by
  obtain ⟨msg, herror⟩ := guardNamespace_denied hcfg hdenied
  rw [guardNamespace, herror]
  exact ⟨msg, rfl⟩

end SreAgent.Tools
