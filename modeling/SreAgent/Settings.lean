import SreAgent.Config

/-!
# The settings of the server

The rest of `Settings` of `config.py`: the backends a tool may ask and the credentials for them, and
`validate_for`, which a server consults before it starts. The registry entries likewise carry more than
the diagnosis reads of them.

`validate_for` collects complaints instead of stopping at the first one, and `start` refuses if
there is any. What a running server may rely on is therefore the conjunction of what the complaints
deny (`start_ok_iff`), and it depends on the transport: over stdio nobody has to log in.
-/

namespace SreAgent

/-- `Settings`, with the fields `Config.lean` leaves out. -/
structure ServerSettings extends Settings where
  lokiUrl            : String := ""
  grafanaUrl         : String := ""
  grafanaToken       : String := ""
  gitlabUrl          : String := ""
  gitlabToken        : String := ""
  githubToken        : String := ""
  jiraUrl            : String := ""
  jiraEmail          : String := ""
  jiraToken          : String := ""
  servicenowUrl      : String := ""
  servicenowUser     : String := ""
  servicenowPassword : String := ""
  ragEnabled         : Bool := false
  pgvectorDsn        : String := ""

/-! ## The registry

The tools read more of an entry than the diagnosis does. An entry here extends the one of
`Config.lean`, and forgetting the new fields commutes with the lookup, so whatever was proved of the
smaller registry is true of this one. -/

/-- An entry of the registry, with the fields `Config.lean` leaves out. -/
structure ClusterEntry extends ClusterConfig where
  provider : String := "kubernetes"
  region   : String := ""
  loki     : String := ""
  grafana  : String := ""

structure Registry where
  defaultCluster : String := ""
  clusters       : List ClusterEntry

/-- What the diagnosis knows of the registry. -/
def Registry.toClusterRegistry (self : Registry) : ClusterRegistry where
  defaultCluster := self.defaultCluster
  clusters := self.clusters.map ClusterEntry.toClusterConfig

def Registry.get (self : Registry) (name : Option String) : Except Exc ClusterEntry :=
  let target := if Py.truthy name then name.getD "" else self.defaultCluster
  match self.clusters.find? fun c => c.name == target with
  | some c => .ok c
  | none   => .error (.keyError (s!"Unknown cluster {Py.repr target}. Registered: " ++
      Py.reprList (self.clusters.map fun c => c.name)))

/-- Both lookups find the same entry. -/
theorem Registry.get_toClusterRegistry (self : Registry) (name : Option String) :
    self.toClusterRegistry.get name = (self.get name).map ClusterEntry.toClusterConfig := by
  unfold Registry.get ClusterRegistry.get Registry.toClusterRegistry
  dsimp only
  generalize (if Py.truthy name then name.getD "" else self.defaultCluster) = target
  have hpred : (fun c : ClusterConfig => c.name == target) ∘ ClusterEntry.toClusterConfig =
      fun c => c.name == target := rfl
  rw [List.find?_map, hpred]
  cases self.clusters.find? fun c => c.name == target with
  | none =>
      rw [List.map_map]
      rfl
  | some c => rfl

/-! ## Starting a server

The three complaints are texts of their own, since a reader of the log is to tell them apart, and
are given in the order in which the source appends them. -/

/-- The transports of `server.main`. -/
inductive Transport where
  | stdio
  | http
  deriving DecidableEq, Repr

def issuerProblem : String :=
  "OIDC_ISSUER must be set for the HTTP transport (refusing unauthenticated access)"

def notificationsProblem : String :=
  "ALLOW_NOTIFICATIONS=true but neither SLACK_BOT_TOKEN nor TEAMS_WEBHOOK_URL is set"

def ragProblem : String := "RAG_ENABLED=true but PGVECTOR_DSN is empty"

def ServerSettings.validateFor (self : ServerSettings) (transport : Transport) : List String :=
  (if transport = .http ∧ self.oidcIssuer = "" then [issuerProblem] else []) ++
  (if self.allowNotifications = true ∧ ¬ (self.slackBotToken ≠ "" ∨ self.teamsWebhookUrl ≠ "") then
    [notificationsProblem] else []) ++
  (if self.ragEnabled = true ∧ self.pgvectorDsn = "" then [ragProblem] else [])

/-- `server.main` up to the point where it runs the transport. -/
def ServerSettings.start (self : ServerSettings) (transport : Transport) :
    Except String Transport :=
  match self.validateFor transport with
  | []       => .ok transport
  | problems => .error ("refusing to start: " ++ Py.join "; " problems)

/-- **What a started server can rely on**: an issuer if it is reached by HTTP, somewhere to post if
it may notify, and a database if it may search. -/
theorem ServerSettings.start_ok_iff (self : ServerSettings) (transport : Transport) :
    self.start transport = .ok transport ↔
      (transport = .http → self.oidcIssuer ≠ "") ∧
        (self.allowNotifications = true → self.slackBotToken ≠ "" ∨ self.teamsWebhookUrl ≠ "") ∧
        (self.ragEnabled = true → self.pgvectorDsn ≠ "") := by
  -- a server starts on an empty list of complaints, and each complaint has its own condition
  have hempty : self.start transport = .ok transport ↔ self.validateFor transport = [] := by
    unfold ServerSettings.start
    split
    · next h => simp [h]
    · next h =>
      simp only [reduceCtorEq, false_iff]
      exact h
  rw [hempty, ServerSettings.validateFor, List.append_eq_nil_iff, List.append_eq_nil_iff]
  simp only [ite_eq_right_iff, reduceCtorEq, imp_false, not_and, not_not, and_assoc]

end SreAgent
