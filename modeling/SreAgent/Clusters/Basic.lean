import SreAgent.Auth
import SreAgent.Lib.Machine

/-!
# The cluster manager

`clusters.py`: name resolution, the namespace guard and the per-cluster client cache. The manager's
state also holds `_eks_token_cache`, the module-level dictionary of `auth.py` that only
`build_kube_config` touches.

The two caches have different lives. A token is renewed when it is old; a client is built once for
each cluster and stays. The manager hands out whatever is in the client cache without looking at its
age, and this one line decides how old a credential can get.
-/

namespace SreAgent

structure ClusterClients where
  cluster   : ClusterConfig
  apiClient : ApiClient
  deriving DecidableEq

structure ClusterManager where
  registry  : ClusterRegistry
  cache     : String → Option ClusterClients := fun _ => none
  eksTokens : TokenCache := fun _ => none

def ClusterManager.resolve (self : ClusterManager) (name : Option String) :
    Except Exc ClusterConfig := self.registry.get name

/-- `ClusterManager.guard_namespace`: the check every tool with a namespace makes before it asks
anything. The message names cluster and tenant, since the model may read it. -/
def ClusterManager.guardNamespace (self : ClusterManager) (name : Option String) (ns : String) :
    Except Exc ClusterConfig := do
  let cfg ← self.resolve name
  if !cfg.namespaceAllowed ns then
    throw (.tenantIsolationError
      (s!"namespace {Py.repr ns} is not in the allow-list for cluster {Py.repr cfg.name} " ++
        s!"(tenant={cfg.tenant})"))
  pure cfg

/-- On a namespace of the allow-list the guard returns the entry of the cluster. -/
theorem guardNamespace_allowed {registry : ClusterRegistry} {cluster : Option String}
    {cfg : ClusterConfig} {ns : String} (hget : registry.get cluster = .ok cfg)
    (hallowed : cfg.namespaceAllowed ns = true) :
    ClusterManager.guardNamespace { registry } cluster ns = .ok cfg := by
  unfold ClusterManager.guardNamespace ClusterManager.resolve
  rw [hget]
  simp only [bind, Except.bind, hallowed]
  rfl

/-- On any other it raises a tenant violation, whatever the text of it says. -/
theorem guardNamespace_denied {registry : ClusterRegistry} {cluster : Option String}
    {cfg : ClusterConfig} {ns : String} (hget : registry.get cluster = .ok cfg)
    (hdenied : cfg.namespaceAllowed ns = false) :
    ∃ msg, ClusterManager.guardNamespace { registry } cluster ns =
      .error (.tenantIsolationError msg) := by
  unfold ClusterManager.guardNamespace ClusterManager.resolve
  rw [hget]
  simp only [bind, Except.bind, hdenied]
  exact ⟨_, rfl⟩

/-- The arguments of `clients(name)` and the clock it reads. -/
structure ClientCall where
  name : Option String
  now  : ℚ

/-- `ClusterManager.clients`: resolve, then build the client on first use, under the lock. -/
def ClusterManager.clients (sdk : Sdk) (self : ClusterManager) (call : ClientCall) :
    Except Exc ClusterClients × ClusterManager :=
  match self.resolve call.name with
  | .error e => (.error e, self)
  | .ok cfg =>
    match self.cache cfg.name with
    | some cached => (.ok cached, self)
    | none =>
      match buildKubeConfig sdk self.eksTokens cfg call.now with
      | (.error e, eksTokens) => (.error e, { self with eksTokens })
      | (.ok apiClient, eksTokens) =>
        let built : ClusterClients := ⟨cfg, apiClient⟩
        (.ok built,
          { self with cache := Function.update self.cache cfg.name (some built), eksTokens })

/-- The manager of a process, one `clients` call a step. -/
def clientFactory (sdk : Sdk) : Machine ClusterManager ClientCall (Except Exc ClusterClients) where
  step := ClusterManager.clients sdk

end SreAgent
