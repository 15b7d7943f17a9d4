import Mathlib.Data.Rat.Defs
import SreAgent.Errors
import SreAgent.Lib.PyStr

/-!
# Settings and the cluster registry

`config.py`: the settings the modelled code reads, what the registry says about each cluster, the
namespace allow-list and the lookup by name. Pydantic has validated the values, so the fields have
their declared types.

The registry is a list and not a map, as in the configuration file: two entries may have one name,
and the lookup takes the first. Everything that is proved of a cluster found by name rests on
`get_unique`, which says that this cannot be noticed from outside.
-/

namespace SreAgent

/-- `Settings`, as far as the modelled code reads it. -/
structure Settings where
  allowNotifications   : Bool := false
  slackAllowedChannels : String := ""
  prometheusUrl        : String := ""
  argocdServer         : String := ""
  argocdToken          : String := ""
  slackBotToken        : String := ""
  teamsWebhookUrl      : String := ""
  oidcIssuer           : String := ""
  oidcAudience         : String := ""
  oidcRequiredGroups   : String := ""
  ratelimitRate        : ℚ := 5
  ratelimitBurst       : ℤ := 30
  ratelimitRedisUrl    : String := ""

/-- `{part.strip() for part in s.split(",") if part.strip()}`. -/
def commaSet (s : String) : List String :=
  (((Py.splitOn ',' s.toList).map Py.strip).filter fun part => !part.isEmpty).map String.ofList

def Settings.allowedSlackChannels (self : Settings) : List String :=
  commaSet self.slackAllowedChannels

/-- How a cluster is logged in to: the values of `ClusterAuth.mode` the loader accepts. -/
inductive AuthMode where
  | kubeconfig
  | inCluster
  | azureWorkload
  | awsEks
  | oidcExec
  deriving DecidableEq, Repr

structure ClusterAuth where
  mode        : AuthMode
  server      : String := ""
  kubeconfig  : String := ""
  context     : String := ""
  clientId    : String := ""
  tenantId    : String := ""
  clusterName : String := ""
  deriving DecidableEq, Repr

/-- `ClusterObservability` and `ClusterGitOps`: backends of this cluster's own. -/
structure ClusterBackends where
  prometheus : String := ""
  argocd     : String := ""
  deriving DecidableEq, Repr

structure ClusterConfig where
  name              : String
  tenant            : String := "default"
  auth              : ClusterAuth
  allowedNamespaces : List String := ["*"]
  backends          : ClusterBackends := {}
  deriving DecidableEq, Repr

def ClusterConfig.namespaceAllowed (self : ClusterConfig) (ns : String) : Bool :=
  self.allowedNamespaces.contains "*" || self.allowedNamespaces.contains ns

structure ClusterRegistry where
  defaultCluster : String := ""
  clusters       : List ClusterConfig

/-- `ClusterRegistry.get`: `None` and `""` mean the default cluster, and the first entry of a name
wins. -/
def ClusterRegistry.get (self : ClusterRegistry) (name : Option String) :
    Except Exc ClusterConfig :=
  let target := if Py.truthy name then name.getD "" else self.defaultCluster
  match self.clusters.find? fun c => c.name == target with
  | some c => .ok c
  | none   => .error (.keyError (s!"Unknown cluster {Py.repr target}. Registered: " ++
      Py.reprList (self.clusters.map ClusterConfig.name)))

/-- The registry never answers two entries of one name: a lookup is determined by the name of what
it found. -/
theorem ClusterRegistry.get_unique {reg : ClusterRegistry} {n₁ n₂ : Option String}
    {c₁ c₂ : ClusterConfig} (h₁ : reg.get n₁ = .ok c₁) (h₂ : reg.get n₂ = .ok c₂)
    (hname : c₁.name = c₂.name) : c₁ = c₂ := by
  -- what is found is the first entry of its own name, whatever it was asked for by
  have found : ∀ {n c}, reg.get n = .ok c →
      reg.clusters.find? (fun c' => c'.name == c.name) = some c := by
    intro n c h
    unfold ClusterRegistry.get at h
    dsimp only at h
    split at h
    · next c' hfind =>
      cases h
      have hbeq := List.find?_some hfind
      simp only [beq_iff_eq] at hbeq
      rw [hbeq]; exact hfind
    · cases h
  have hfind := found h₁
  rw [hname, found h₂] at hfind
  exact (Option.some.inj hfind).symm

end SreAgent
