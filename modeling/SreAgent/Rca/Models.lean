import Mathlib.Data.Rat.Defs
import SreAgent.Lib.DateTime
import SreAgent.Kube

/-!
# The data of a diagnosis

`rca/models.py`, and the context bundle that `collect_context` assembles and the detectors read. A
key of the bundle that may be absent is an `Option` only where a reader tells an absent key from an
empty value; the others have the reader's default.
-/

namespace SreAgent.Rca

inductive Severity where
  | critical
  | high
  | medium
  | low
  | info
  deriving DecidableEq, Repr

def Severity.value : Severity → String
  | .critical => "Critical"
  | .high     => "High"
  | .medium   => "Medium"
  | .low      => "Low"
  | .info     => "Info"

structure Evidence where
  source    : String
  summary   : String
  weight    : ℚ := 0
  timestamp : String := ""
  deriving DecidableEq, Repr

/-- The fields are not validated again when they are assigned, so `rollback_target` may be
`None`. -/
structure Hypothesis where
  issue            : String
  rootCause        : String
  confidence       : Nat := 0
  evidence         : List Evidence := []
  suggestedFix     : String := ""
  rollbackRequired : Bool := false
  rollbackTarget   : Option String := some ""
  runbook          : String := ""
  deriving DecidableEq, Repr

/-- `h.evidence.append(..)`. -/
def Hypothesis.cite (h : Hypothesis) (e : Evidence) : Hypothesis :=
  { h with evidence := h.evidence ++ [e] }

structure RCAReport where
  severity              : Severity
  cluster               : String
  namespace_            : String
  subject               : String
  issue                 : String
  rootCause             : String
  confidence            : Nat
  evidence              : List Evidence
  suggestedFix          : String
  rollbackRequired      : Bool
  rollbackTarget        : String := ""
  timeline              : List String := []
  incidentSummary       : String := ""
  alternativeHypotheses : List Hypothesis := []
  deriving DecidableEq, Repr

/-! ## The context bundle

In the source a dictionary of dictionaries. Each inner one has a record here with the keys that some
detector reads, under the reader's names and defaults. -/

structure PodInfo where
  name           : String
  phase          : Option String := none
  reason         : Option String := none
  message        : Option String := none
  lastTerminated : Option String := none
  initWaiting    : Option String := none
  initTerminated : Option String := none
  deriving DecidableEq, Repr

structure ContainerInfo where
  name                 : String
  image                : Option String := none
  waitingReason        : Option String := none
  lastTerminatedReason : Option String := none
  lastExitCode         : Option ℤ := none
  liveness             : Bool := false
  readiness            : Bool := false
  restartCount         : Nat := 0
  ready                : Option Bool := none
  deriving DecidableEq, Repr

structure InitContainerInfo where
  name                 : String
  image                : Option String := none
  waitingReason        : Option String := none
  lastTerminatedReason : Option String := none
  lastExitCode         : Option ℤ := none
  deriving DecidableEq, Repr

/-- `ctx["describe"]`. The empty one is `{}`. -/
structure Describe where
  containers     : List ContainerInfo := []
  initContainers : List InitContainerInfo := []
  node           : Option String := none
  deriving DecidableEq, Repr

structure JobCondition where
  type    : String
  reason  : Option String := none
  message : Option String := none
  deriving DecidableEq, Repr

structure JobInfo where
  name       : String
  failed     : Nat := 0
  succeeded  : Nat := 0
  conditions : List JobCondition := []
  deriving DecidableEq, Repr

structure HpaInfo where
  name       : String
  target     : String
  conditions : List Kube.Condition := []
  deriving DecidableEq, Repr

structure PdbInfo where
  name               : String
  disruptionsAllowed : Nat := 0
  currentHealthy     : Nat := 0
  desiredHealthy     : Nat := 0
  deriving DecidableEq, Repr

structure EventInfo where
  type      : Option String := none
  reason    : Option String := none
  message   : String := ""
  object    : String := ""
  timestamp : String := ""
  age       : String := ""
  deriving DecidableEq, Repr

structure NodeInfo where
  name           : String
  ready          : Option String := none
  diskPressure   : Option String := none
  memoryPressure : Option String := none
  pidPressure    : Option String := none
  deriving DecidableEq, Repr

structure SecretChange where
  name : Option String
  at_  : Option String
  deriving DecidableEq, Repr

/-- An entry of the ArgoCD history (`revision`, `deployed_at`) or of the CI deployments (`sha`,
`created_at`). -/
structure Release where
  revision : Option String
  at_      : Option String
  deriving DecidableEq, Repr

inductive ChangeKind where
  | sync
  | deploy
  | secret
  deriving DecidableEq, Repr

def ChangeKind.value : ChangeKind → String
  | .sync   => "sync"
  | .deploy => "deploy"
  | .secret => "secret"

/-- `ctx["recent_change"]`. A secret change has a name, the others a revision; the outer option of
`rollbackTarget` says whether the key is there. -/
structure Change where
  kind           : ChangeKind
  name           : Option String := none
  revision       : Option String := none
  at_            : String
  rollbackTarget : Option (Option String) := none
  deriving DecidableEq, Repr

structure Context where
  cluster              : String := ""
  namespace_           : String := ""
  subject              : String := ""
  job                  : Option JobInfo := none
  resolved             : Bool := false
  selectorLabels       : Kube.Labels := []
  pods                 : List PodInfo := []
  degradedReads        : List String := []
  hpas                 : List HpaInfo := []
  pdbs                 : List PdbInfo := []
  describe             : Describe := {}
  logs                 : List String := []
  previousLogs         : List String := []
  initLogs             : List String := []
  failingInitContainer : Option String := none
  services             : Option (List String) := none
  events               : List EventInfo := []
  firstFailureTime     : Option Py.DateTime := none
  nodes                : List NodeInfo := []
  secretChanges        : List SecretChange := []
  argocdHistory        : List Release := []
  deployments          : List Release := []
  recentChange         : Option Change := none
  memoryTrendRising    : Bool := false
  deriving DecidableEq, Repr

end SreAgent.Rca
