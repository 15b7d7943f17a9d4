import SreAgent.Rca.Issues
import SreAgent.Rca.Modest

/-!
# What the detectors go by

The issues and confidences of a diagnosis depend on the context through a few signals: whether some
phrase is in the logs or in some messages, whether some reason is given, what the first of some events
and nodes is. `signals` reads them off a context, `Signals.findings` is what the detectors conclude from
them, and `key_evaluate` says that this is all that goes into issues, confidences and their order.

The signals are divided by where they come from, since that decides what a change in the order of
lists can do to them. They are also divided by who reads them: a signal behind a gate that is closed
does not count (`Signals.read`).
-/

namespace SreAgent.Rca

/-- What counts of a hypothesis for the verdict. -/
def key (h : Hypothesis) : String × Nat := (h.issue, h.confidence)

/-! ## Signals

Booleans, a few strings and the number of branches a detector tells apart. Whatever else is in a
context goes into texts only. -/

/-- The state of an `istio-proxy` container that is not ready. -/
inductive ProxyState where
  | oomKilled
  | noImage
  | other
  deriving DecidableEq, Repr

def ProxyState.confidence : ProxyState → Nat
  | .oomKilled => 91
  | .noImage   => 88
  | .other     => 80

/-- The signals that come from the first of some events or nodes, or from messages joined in their
order. -/
@[ext]
structure Positional where
  pullKnown   : Bool            -- phrases in the messages of events
  configKnown : Bool
  pvc         : Bool            -- the first scheduling event is about a volume
  ephemeral   : Bool            -- phrases in the messages of evicted pods
  node        : Option String   -- the issue of the first bad node

/-- The signals that come from the pod that is described and read logs from. Where the pods at large
show the same thing, they count as well. -/
@[ext]
structure Frontal where
  crashlooping : Bool
  pull         : Option String   -- waiting reasons
  config       : Option String
  oom          : Bool
  initFailing  : Bool
  initError    : Bool            -- a last line of the init logs
  quiet        : Bool            -- restarts with a liveness probe
  proxy        : Option ProxyState
  dnsSpecific  : Bool            -- phrases in the logs
  dbAuth       : Bool
  dbReach      : Bool
  appError     : Bool
  tls          : Bool
  dns          : Bool
  dnsStrong    : Bool
  jobError     : Bool
  missing      : Bool            -- the Service of the unreachable host

@[ext]
structure Signals where
  positional : Positional
  frontal    : Frontal
  changed    : Bool              -- some change goes before the failure
  jobFailed  : Bool
  unhealthy  : Option String     -- the kind of probe in the events
  pending    : Bool
  evicted    : Bool
  hpa        : Bool
  pdb        : Bool

/-- The message of a `FailedScheduling` event leads to the branch for volumes. -/
def isPvc (message : String) : Bool :=
  let msg := Py.lower message
  !Py.containsAny msg ["insufficient cpu", "insufficient memory"] &&
    !Py.containsAny msg ["taint", "node(s) had untolerated taint"] &&
    !((Py.contains msg "didn't match" && Py.contains msg "affinity") ||
      Py.contains msg "node affinity") &&
    Py.containsAny msg ["persistentvolumeclaim", "pvc", "volume node affinity"]

/-- The events `image_pull` joins. -/
def pullEvents (events : List EventInfo) : List EventInfo :=
  events.filter fun e => e.reason == some "Failed" || e.reason == some "BackOff"

/-- Their messages say why the image cannot be pulled. -/
def pullKnown (events : List EventInfo) : Bool :=
  Py.containsAny (joinedMessages events) ["not found", "manifest unknown"] ||
    Py.containsAny (joinedMessages events) ["unauthorized", "denied", "forbidden"]

/-- The events `container_config_error` joins. -/
def warningEvents (events : List EventInfo) : List EventInfo :=
  events.filter fun e => e.type == some "Warning"

/-- Their messages say what is missing. -/
def configKnown (events : List EventInfo) : Bool :=
  (Py.contains (joinedMessages events) "configmap" && Py.contains (joinedMessages events) "not found") ||
    (Py.contains (joinedMessages events) "secret" && Py.contains (joinedMessages events) "not found")

def scheduleEvents (events : List EventInfo) : List EventInfo :=
  events.filter fun e => e.reason == some "FailedScheduling"

def unhealthyEvents (events : List EventInfo) : List EventInfo :=
  events.filter fun e => e.reason == some "Unhealthy"

/-- The kind of probe their messages name. -/
def probeKind (events : List EventInfo) : String :=
  if Py.contains (joinedMessages events) "liveness" then "Liveness"
  else if Py.contains (joinedMessages events) "readiness" then "Readiness" else "Probe"

def evictedPods (pods : List PodInfo) : List PodInfo :=
  pods.filter fun p => p.reason == some "Evicted"

/-- The messages of evicted pods are about local storage. -/
def ephemeral (pods : List PodInfo) : Bool :=
  Py.containsAny (Py.lower (Py.join " " (pods.map fun p => p.message.getD "")))
    ["ephemeral", "emptydir", "exceeds the limit", "local storage"]

/-- The issue a bad node makes. -/
def NodeInfo.issue (n : NodeInfo) : String :=
  let label := pressureLabel (n.pressures.headD "")
  if n.ready != some "True" then "NodeNotReady" else s!"Node {label}Pressure"

/-- The state of a proxy, unless it is ready. -/
def proxyState (c : ContainerInfo) : Option ProxyState :=
  if c.ready = some true then none
  else if c.lastTerminatedReason = some "OOMKilled" then some .oomKilled
  else if c.waitingReason = some "ImagePullBackOff" ∨ c.waitingReason = some "ErrImagePull" then
    some .noImage
  else some .other

/-- The error `init_container_failure` cites. -/
def initError (ctx : Context) : String :=
  (lastLineWith ["error", "fatal", "fail", "cannot", "denied", "lock", "timeout"]
    ctx.initLogs).getD (ctx.initLogs.getLastD "")

@[simps]
def positional (events : List EventInfo) (pods : List PodInfo) (nodes : List NodeInfo) :
    Positional where
  pullKnown := Rca.pullKnown (pullEvents events)
  configKnown := Rca.configKnown (warningEvents events)
  pvc := ((scheduleEvents events).head?.map fun e => isPvc e.message).getD false
  ephemeral := Rca.ephemeral (evictedPods pods)
  node := (nodes.find? NodeInfo.bad).map NodeInfo.issue

@[simps]
def frontal (ctx : Context) : Frontal where
  crashlooping := isCrashlooping ctx
  pull := (hits ctx ["ErrImagePull", "ImagePullBackOff"]).head?
  config := (hits ctx ["CreateContainerConfigError", "CreateContainerError"]).head?
  oom := (ctx.describe.containers.map ContainerInfo.lastTerminatedReason ++
    ctx.pods.map PodInfo.lastTerminated).contains (some "OOMKilled")
  initFailing := (ctx.describe.initContainers.any fun c => isCrashReason c.waitingReason ||
      (Py.truthy c.lastTerminatedReason && c.lastExitCode.any (· != 0))) ||
    ctx.pods.any PodInfo.initFailing
  initError := Rca.initError ctx != ""
  quiet := ctx.describe.containers.any ContainerInfo.liveness &&
    ctx.pods.any fun p => p.reason == some "CrashLoopBackOff" || Py.truthy p.lastTerminated
  proxy := (ctx.describe.containers.find? fun c => c.name == "istio-proxy").bind proxyState
  dnsSpecific := Py.containsAny (allLogs ctx) Rca.dnsSpecific
  dbAuth := Py.containsAny (allLogs ctx) Rca.dbAuth
  dbReach := Py.containsAny (allLogs ctx) Rca.dbReach
  appError := Py.containsAny (allLogs ctx) appErrorSignals
  tls := Py.containsAny (allLogs ctx) tlsSignals
  dns := Py.containsAny (allLogs ctx) (Rca.dnsStrong ++ dnsWeak)
  dnsStrong := Py.containsAny (allLogs ctx) Rca.dnsStrong
  jobError := (nonEmpty (lastLineWith ["fatal", "error", "fail", "exception", "cannot", "denied"]
    (ctx.logs ++ ctx.previousLogs))).isSome
  missing := serviceMissing (allLogs ctx) ctx.services

@[simps]
def signals (ctx : Context) : Signals where
  positional := Rca.positional ctx.events ctx.pods ctx.nodes
  frontal := Rca.frontal ctx
  changed := ctx.recentChange.isSome
  jobFailed := ctx.job.any fun job =>
    job.failed != 0 || job.conditions.any fun c => c.type == "Failed"
  unhealthy := if (unhealthyEvents ctx.events).isEmpty then none
    else some (probeKind (unhealthyEvents ctx.events))
  pending := !(ctx.pods.any PodInfo.initFailing && (scheduleEvents ctx.events).isEmpty) &&
    !(!(ctx.pods.any fun p => p.phase == some "Pending") && (scheduleEvents ctx.events).isEmpty)
  evicted := ctx.pods.any fun p => p.reason == some "Evicted"
  hpa := ctx.hpas.any fun h => h.bad.isSome
  pdb := ctx.pdbs.any fun p => p.disruptionsAllowed == 0

/-! ## Findings

The detectors once more, now from signals to an issue and a confidence. -/

namespace Signals

/-- `crashloop_db_connection`, where changes are changes of secrets. -/
def crashloop (s : Signals) : Option (String × Nat) :=
  if !s.frontal.crashlooping then none
  else if s.frontal.dnsSpecific then some ("CrashLoopBackOff", 40)
  else if s.frontal.dbAuth then some ("CrashLoopBackOff", if s.changed then 94 else 82)
  else if s.frontal.dbReach then
    some (if s.frontal.missing then (missingDependency, 88) else ("CrashLoopBackOff", 80))
  else some ("CrashLoopBackOff", 40)

/-- `probe_failure`. -/
def probe (s : Signals) : Option (String × Nat) :=
  s.unhealthy.elim
    (if s.frontal.quiet && !s.frontal.appError then some ("Liveness Probe Failure", 62) else none)
    fun kind => some (s!"{kind} Probe Failure", 78)

/-- What the detectors conclude, in the order of their registration. -/
def findings (s : Signals) : List (Option (String × Nat)) :=
  [s.crashloop,
   s.frontal.pull.map fun hit => (hit, if s.positional.pullKnown then 92 else 88),
   s.frontal.config.map fun hit => (hit, if s.positional.configKnown then 90 else 85),
   if s.frontal.oom then some ("OOMKilled", 90) else none,
   if s.frontal.initFailing then
     some ("Init Container Failure", if s.frontal.initError then 90 else 85)
   else none,
   if s.jobFailed then some ("Job Failed", if s.frontal.jobError then 90 else 85) else none,
   s.probe,
   if s.pending then some (if s.positional.pvc then "Pending Pods (PVC)" else "Pending Pods", 80)
   else none,
   if s.evicted then
     some (if s.positional.ephemeral then ("Pod Evicted: Ephemeral Storage", 88) else ("Pod Evicted", 80))
   else none,
   if s.hpa then some ("HPA Cannot Scale", 85) else none,
   if s.pdb then some ("PodDisruptionBudget Blocking", 80) else none,
   s.positional.node.map fun issue => (issue, 85),
   s.frontal.proxy.map fun state => ("Istio Sidecar Not Ready", state.confidence),
   if s.frontal.tls then some ("TLS Certificate Issue", 75) else none,
   if s.frontal.dns then some ("DNS Resolution Failure", if s.frontal.dnsStrong then 85 else 72)
   else none]

/-- The findings, best first. -/
def ranked (s : Signals) : List (String × Nat) :=
  (s.findings.filterMap id).insertionSort fun a b => b.2 ≤ a.2

/-! ## Signals that are read

A detector that returns before it looks at a signal does not depend on it: no message is read where
no image is waited for, and no log where nothing is crashing. `read` blanks what is not looked at.
What is left is exactly what the findings depend on: `findings_read` here, and the other direction
for the signals of contexts in
`readings_eq_iff`. -/

/-- A login was refused, as far as `crashloop_db_connection` gets. -/
def readsAuth (s : Signals) : Bool :=
  s.frontal.crashlooping && !s.frontal.dnsSpecific && s.frontal.dbAuth

/-- A host was not reached, as far as `crashloop_db_connection` gets. -/
def readsReach (s : Signals) : Bool :=
  s.frontal.crashlooping && !s.frontal.dnsSpecific && !s.frontal.dbAuth && s.frontal.dbReach

/-- The signals, without those that no detector gets to look at. -/
@[simps positional frontal changed jobFailed unhealthy pending evicted hpa pdb]
def read (s : Signals) : Signals where
  positional :=
    { s.positional with
      pullKnown := s.frontal.pull.isSome && s.positional.pullKnown
      configKnown := s.frontal.config.isSome && s.positional.configKnown }
  frontal :=
    { s.frontal with
      initError := s.frontal.initFailing && s.frontal.initError
      -- an event about a probe comes before the guess from restarts
      quiet := s.unhealthy.isNone && s.frontal.quiet && !s.frontal.appError
      appError := false
      dnsSpecific := false
      dbAuth := s.readsAuth
      dbReach := s.readsReach
      missing := s.readsReach && s.frontal.missing
      jobError := s.jobFailed && s.frontal.jobError
      dnsStrong := s.frontal.dns && s.frontal.dnsStrong }
  changed := s.readsAuth && s.changed
  jobFailed := s.jobFailed
  unhealthy := s.unhealthy
  pending := s.pending
  evicted := s.evicted
  hpa := s.hpa
  pdb := s.pdb

/-- The crash loop does not look behind the branch it takes, -/
theorem crashloop_read (s : Signals) : s.read.crashloop = s.crashloop := by
  simp only [crashloop, read_frontal, read_changed, readsAuth, readsReach]
  cases s.frontal.crashlooping <;> cases s.frontal.dnsSpecific <;> cases s.frontal.dbAuth <;>
    cases s.frontal.dbReach <;> rfl

/-- and the probe's detector looks at the logs only where there is no event. -/
theorem probe_read (s : Signals) : s.read.probe = s.probe := by
  simp only [probe, read_frontal, read_unhealthy]
  cases s.unhealthy <;> simp

/-- **No finding depends on more** than what is read: signals that no detector looks at may be
forgotten. -/
theorem findings_read (s : Signals) : s.read.findings = s.findings := by
  simp only [findings, crashloop_read, probe_read]
  simp only [read_frontal, read_positional, read_jobFailed, read_pending, read_evicted, read_hpa,
    read_pdb]
  cases s.frontal.pull <;> cases s.frontal.config <;> cases s.frontal.initFailing <;>
    cases s.jobFailed <;> cases s.frontal.dns <;> rfl

/-- Signals that differ in positional ones at most are read alike if those agree that are read. -/
theorem read_congr {s t : Signals} (hrest : { t with positional := s.positional } = s)
    (hpull : s.frontal.pull ≠ none → t.positional.pullKnown = s.positional.pullKnown)
    (hconfig : s.frontal.config ≠ none → t.positional.configKnown = s.positional.configKnown)
    (hpvc : t.positional.pvc = s.positional.pvc)
    (hephemeral : t.positional.ephemeral = s.positional.ephemeral)
    (hnode : t.positional.node = s.positional.node) : t.read = s.read := by
  have hfrontal : ({ t with positional := s.positional } : Signals).frontal = s.frontal :=
    congrArg Signals.frontal hrest
  dsimp only at hfrontal
  have hgate : ∀ {o : Option String} {b b' : Bool}, (o ≠ none → b = b') →
      (o.isSome && b) = (o.isSome && b') := by
    intro o b b' h
    cases o with
    | none => rfl
    | some a => rw [h (by simp)]
  have hpositional : t.read.positional = s.read.positional := by
    apply Positional.ext
    · simp only [read_positional, hfrontal]
      exact hgate hpull
    · simp only [read_positional, hfrontal]
      exact hgate hconfig
    · exact hpvc
    · exact hephemeral
    · exact hnode
  -- nothing else looks at the positional signals
  have hothers : ∀ u : Signals, { u.read with positional := s.read.positional } =
      { ({ u with positional := s.positional } : Signals).read with
        positional := s.read.positional } := fun u => rfl
  calc t.read = { t.read with positional := s.read.positional } := by rw [← hpositional]
    _ = { s.read with positional := s.read.positional } := by rw [hothers t, hrest]
    _ = s.read := rfl

/-- What opens a gate is always read. -/
theorem gates_of_read {s t : Signals} (h : t.read = s.read) :
    t.frontal.pull = s.frontal.pull ∧ t.frontal.config = s.frontal.config := by
  show t.read.frontal.pull = s.read.frontal.pull ∧ t.read.frontal.config = s.read.frontal.config
  rw [h]
  exact ⟨rfl, rfl⟩

/-- So are the first event, the first node and the messages of evicted pods. -/
theorem positional_of_read {s t : Signals} (h : t.read = s.read) :
    t.positional.pvc = s.positional.pvc ∧ t.positional.ephemeral = s.positional.ephemeral ∧
      t.positional.node = s.positional.node := by
  show t.read.positional.pvc = s.read.positional.pvc ∧
    t.read.positional.ephemeral = s.read.positional.ephemeral ∧
    t.read.positional.node = s.read.positional.node
  rw [h]
  exact ⟨rfl, rfl, rfl⟩

/-- And behind an open gate the messages are. -/
theorem pullKnown_of_read {s t : Signals} (h : t.read = s.read) (hpull : s.frontal.pull ≠ none) :
    t.positional.pullKnown = s.positional.pullKnown := by
  have hread : (t.frontal.pull.isSome && t.positional.pullKnown) =
      (s.frontal.pull.isSome && s.positional.pullKnown) := by
    show t.read.positional.pullKnown = s.read.positional.pullKnown
    rw [h]
  rwa [(gates_of_read h).1, Option.isSome_iff_ne_none.mpr hpull, Bool.true_and, Bool.true_and]
    at hread

theorem configKnown_of_read {s t : Signals} (h : t.read = s.read)
    (hconfig : s.frontal.config ≠ none) :
    t.positional.configKnown = s.positional.configKnown := by
  have hread : (t.frontal.config.isSome && t.positional.configKnown) =
      (s.frontal.config.isSome && s.positional.configKnown) := by
    show t.read.positional.configKnown = s.read.positional.configKnown
    rw [h]
  rwa [(gates_of_read h).2, Option.isSome_iff_ne_none.mpr hconfig, Bool.true_and, Bool.true_and]
    at hread

/-! And no less: a finding shows what its detector has read. -/

theorem crashlooping_eq (s : Signals) : s.frontal.crashlooping = s.crashloop.isSome := by
  unfold crashloop
  cases s.frontal.crashlooping
  · rfl
  · rw [if_neg (by simp)]
    split_ifs <;> rfl

theorem readsAuth_eq (s : Signals) :
    s.readsAuth = s.crashloop.any (fun f => f.2 == 94 || f.2 == 82) := by
  unfold readsAuth crashloop
  cases s.frontal.crashlooping <;> cases s.frontal.dnsSpecific <;> cases s.frontal.dbAuth <;>
    cases s.frontal.dbReach <;> cases s.frontal.missing <;> cases s.changed <;> rfl

theorem readsAuth_and_changed_eq (s : Signals) :
    (s.readsAuth && s.changed) = s.crashloop.any (fun f => f.2 == 94) := by
  unfold readsAuth crashloop
  cases s.frontal.crashlooping <;> cases s.frontal.dnsSpecific <;> cases s.frontal.dbAuth <;>
    cases s.frontal.dbReach <;> cases s.frontal.missing <;> cases s.changed <;> rfl

theorem readsReach_eq (s : Signals) :
    s.readsReach = s.crashloop.any (fun f => f.2 == 88 || f.2 == 80) := by
  unfold readsReach crashloop
  cases s.frontal.crashlooping <;> cases s.frontal.dnsSpecific <;> cases s.frontal.dbAuth <;>
    cases s.frontal.dbReach <;> cases s.frontal.missing <;> cases s.changed <;> rfl

theorem readsReach_and_missing_eq (s : Signals) :
    (s.readsReach && s.frontal.missing) = s.crashloop.any (fun f => f.2 == 88) := by
  unfold readsReach crashloop
  cases s.frontal.crashlooping <;> cases s.frontal.dnsSpecific <;> cases s.frontal.dbAuth <;>
    cases s.frontal.dbReach <;> cases s.frontal.missing <;> cases s.changed <;> rfl

/-- A finding about a probe shows the event it comes from, or that there is none. -/
theorem probe_inj {s t : Signals} (h : s.probe = t.probe) :
    s.unhealthy = t.unhealthy ∧
      (s.unhealthy.isNone && s.frontal.quiet && !s.frontal.appError) =
        (t.unhealthy.isNone && t.frontal.quiet && !t.frontal.appError) := by
  unfold probe at h
  -- a failed probe carries its kind; without one the finding depends on the rest being quiet
  cases hs : s.unhealthy with
  | none =>
      cases ht : t.unhealthy with
      | none =>
          rw [hs, ht] at h
          simp only [Option.elim_none] at h
          refine ⟨rfl, ?_⟩
          simp only [Option.isNone_none, Bool.true_and]
          generalize (s.frontal.quiet && !s.frontal.appError) = b at *
          generalize (t.frontal.quiet && !t.frontal.appError) = b' at *
          cases b <;> cases b' <;> first | rfl | cases h
      | some kind =>
          rw [hs, ht] at h
          simp only [Option.elim_none, Option.elim_some] at h
          split at h
          · exact absurd (congrArg Prod.snd (Option.some.inj h)) (by simp)
          · cases h
  | some kind =>
      cases ht : t.unhealthy with
      | none =>
          rw [hs, ht] at h
          simp only [Option.elim_none, Option.elim_some] at h
          split at h
          · exact absurd (congrArg Prod.snd (Option.some.inj h)) (by simp)
          · cases h
      | some kind' =>
          rw [hs, ht] at h
          -- the issue's text begins with the kind, and appending is injective
          have hissue : kind ++ " Probe Failure" = kind' ++ " Probe Failure" :=
            congrArg Prod.fst (Option.some.inj h)
          have hkind : kind = kind' := by simpa using hissue
          rw [hkind]
          exact ⟨rfl, rfl⟩

/-- A detector that speaks and one of two things it says. -/
theorem spoken_inj {α : Type} {c c' b b' : Bool} {f : Bool → α} (hf : f true ≠ f false)
    (h : (if c then some (f b) else none) = if c' then some (f b') else none) :
    c = c' ∧ (c && b) = (c' && b') := by
  cases c <;> cases c' <;> cases b <;> cases b' <;> simp_all [Ne.symm hf]

/-- A detector that names a hit, and one of two confidences. -/
theorem named_inj {α : Type} {o o' : Option α} {b b' : Bool} {f : Bool → Nat}
    (hf : f true ≠ f false) (h : o.map (fun a => (a, f b)) = o'.map fun a => (a, f b')) :
    o = o' ∧ (o.isSome && b) = (o'.isSome && b') := by
  cases o with
  | none =>
      cases o' with
      | none => exact ⟨rfl, rfl⟩
      | some a' => cases h
  | some a =>
      cases o' with
      | none => cases h
      | some a' =>
          obtain ⟨rfl, hb⟩ := Prod.mk.inj (Option.some.inj h)
          refine ⟨rfl, ?_⟩
          -- the flag only shows in the score, where its two values differ
          cases b <;> cases b' <;> first | rfl | exact absurd hb hf | exact absurd hb.symm hf

/-- A detector that says one thing shows whether it spoke. -/
theorem said_inj {α : Type} {c c' : Bool} {a : α}
    (h : (if c then some a else none) = if c' then some a else none) : c = c' := by
  cases c <;> cases c' <;> first | rfl | cases h

/-- The signals that are read off the findings, where a volume or a local disk is only a matter of
pods that are pending or evicted. -/
theorem read_eq_of_findings {s t : Signals} (h : s.findings = t.findings)
    (hs : s.pending = false → s.positional.pvc = false)
    (ht : t.pending = false → t.positional.pvc = false)
    (hs' : s.evicted = false → s.positional.ephemeral = false)
    (ht' : t.evicted = false → t.positional.ephemeral = false) : s.read = t.read := by
  unfold findings at h
  simp only [List.cons.injEq] at h
  -- one equation for every detector: its issue and its score
  obtain ⟨hcrash, hpull, hconfig, hoom, hinit, hjob, hprobe, hpending, hevicted, hhpa, hpdb, hnode,
    hproxy, htls, hdns, -⟩ := h
  -- the crash loop's finding tells which of its branches was taken
  have hcrashing : s.frontal.crashlooping = t.frontal.crashlooping := by
    rw [crashlooping_eq, crashlooping_eq, hcrash]
  have hauth : s.readsAuth = t.readsAuth := by rw [readsAuth_eq, readsAuth_eq, hcrash]
  have hreach : s.readsReach = t.readsReach := by rw [readsReach_eq, readsReach_eq, hcrash]
  have hchanged : (s.readsAuth && s.changed) = (t.readsAuth && t.changed) := by
    rw [readsAuth_and_changed_eq, readsAuth_and_changed_eq, hcrash]
  have hmissing : (s.readsReach && s.frontal.missing) = (t.readsReach && t.frontal.missing) := by
    rw [readsReach_and_missing_eq, readsReach_and_missing_eq, hcrash]
  obtain ⟨hpull, hpullKnown⟩ := named_inj (f := fun b => if b then 92 else 88) (by decide) hpull
  obtain ⟨hconfig, hconfigKnown⟩ :=
    named_inj (f := fun b => if b then 90 else 85) (by decide) hconfig
  obtain ⟨hinit, hinitError⟩ := spoken_inj
    (f := fun b => ("Init Container Failure", if b then 90 else 85)) (by decide) hinit
  obtain ⟨hjob, hjobError⟩ :=
    spoken_inj (f := fun b => ("Job Failed", if b then 90 else 85)) (by decide) hjob
  obtain ⟨hunhealthy, hquiet⟩ := probe_inj hprobe
  obtain ⟨hpending, hpvc⟩ := spoken_inj
    (f := fun b => (if b then "Pending Pods (PVC)" else "Pending Pods", 80)) (by decide) hpending
  obtain ⟨hevicted, hephemeral⟩ := spoken_inj
    (f := fun b => if b then ("Pod Evicted: Ephemeral Storage", 88) else ("Pod Evicted", 80))
    (by decide) hevicted
  obtain ⟨hdns, hdnsStrong⟩ :=
    spoken_inj (f := fun b => ("DNS Resolution Failure", if b then 85 else 72)) (by decide) hdns
  have hnode : s.positional.node = t.positional.node :=
    Option.map_injective (fun a b hab => (Prod.mk.inj hab).1) hnode
  have hproxy : s.frontal.proxy = t.frontal.proxy := by
    refine Option.map_injective (fun a b hab => ?_) hproxy
    have hconfidence := (Prod.mk.inj hab).2
    cases a <;> cases b <;> first | rfl | exact absurd hconfidence (by decide)
  have hpvc : s.positional.pvc = t.positional.pvc := by
    rw [← hpending] at ht hpvc
    cases hp : s.pending with
    | false => rw [hs hp, ht hp]
    | true  => rwa [hp, Bool.true_and, Bool.true_and] at hpvc
  have hephemeral : s.positional.ephemeral = t.positional.ephemeral := by
    rw [← hevicted] at ht' hephemeral
    cases hp : s.evicted with
    | false => rw [hs' hp, ht' hp]
    | true  => rwa [hp, Bool.true_and, Bool.true_and] at hephemeral
  apply Signals.ext
  case positional => exact Positional.ext hpullKnown hconfigKnown hpvc hephemeral hnode
  case frontal =>
    exact Frontal.ext hcrashing hpull hconfig (said_inj hoom) hinit hinitError hquiet hproxy rfl
      hauth hreach rfl (said_inj htls) hdns hdnsStrong hjobError hmissing
  case changed => exact hchanged
  case jobFailed => exact hjob
  case unhealthy => exact hunhealthy
  case pending => exact hpending
  case evicted => exact hevicted
  case hpa => exact said_inj hhpa
  case pdb => exact said_inj hpdb

end Signals

/-! ## Detector by detector

One equation for each detector: its hypothesis, as far as the verdict goes, is the finding made of
the signals. -/

variable {ctx : Context}

theorem crashloopAuth_key {change : Option Change} (hsecret : ∀ c ∈ change, c.kind = .secret) :
    key (crashloopAuth change genericCrashloop) =
      ("CrashLoopBackOff", if change.isSome then 94 else 82) := by
  unfold crashloopAuth
  cases change with
  | none => rfl
  | some c =>
      have hkind : c.kind = .secret := hsecret c rfl
      dsimp only
      rw [if_pos hkind]
      rfl

theorem crashloopReach_key (logs : String) (services : Option (List String)) :
    key (crashloopReach logs services genericCrashloop) =
      if serviceMissing logs services then (missingDependency, 88) else ("CrashLoopBackOff", 80) := by
  unfold crashloopReach serviceMissing hostShort
  dsimp only
  split <;> rfl

theorem crashloop_key (hsecret : ∀ c ∈ ctx.recentChange, c.kind = .secret) :
    (crashloopDbConnection ctx).map key = (signals ctx).crashloop := by
  rw [Signals.crashloop, signals_frontal, frontal_crashlooping, frontal_dnsSpecific, frontal_dbAuth,
    frontal_dbReach, signals_changed, frontal_missing]
  unfold crashloopDbConnection
  dsimp only
  rw [creditRelease_secret hsecret, creditRelease_secret hsecret]
  split
  · rfl
  split
  · rfl
  split
  · rw [Option.map_some, crashloopAuth_key hsecret]
  split
  · rw [Option.map_some, crashloopReach_key]
  · rfl

theorem imagePull_key : (imagePull ctx).map key =
    (signals ctx).frontal.pull.map fun hit =>
      (hit, if (signals ctx).positional.pullKnown then 92 else 88) := by
  rw [signals_frontal, frontal_pull, signals_positional, positional_pullKnown]
  unfold imagePull pullKnown pullEvents
  cases hits ctx ["ErrImagePull", "ImagePullBackOff"] with
  | nil => rfl
  | cons hit rest =>
      dsimp only
      generalize joinedMessages (ctx.events.filter fun e =>
        e.reason == some "Failed" || e.reason == some "BackOff") = msg
      cases Py.containsAny msg ["not found", "manifest unknown"] <;>
        cases Py.containsAny msg ["unauthorized", "denied", "forbidden"] <;>
          by_cases hmsg : msg = "" <;> simp [key, hmsg, Hypothesis.cite]

theorem containerConfigError_key : (containerConfigError ctx).map key =
    (signals ctx).frontal.config.map fun hit =>
      (hit, if (signals ctx).positional.configKnown then 90 else 85) := by
  rw [signals_frontal, frontal_config, signals_positional, positional_configKnown]
  unfold containerConfigError configKnown warningEvents
  cases hits ctx ["CreateContainerConfigError", "CreateContainerError"] with
  | nil => rfl
  | cons hit rest =>
      dsimp only
      generalize ctx.events.filter (fun e => e.type == some "Warning") = warnings
      generalize joinedMessages warnings = msg
      cases Py.contains msg "configmap" <;> cases Py.contains msg "secret" <;>
        cases Py.contains msg "not found" <;>
          by_cases hcited : (warnings.head?.map EventInfo.message).getD "" = "" <;>
            simp [key, hcited, Hypothesis.cite]

theorem oomKilled_key (htrend : ctx.memoryTrendRising = false) : (oomKilled ctx).map key =
    if (signals ctx).frontal.oom then some ("OOMKilled", 90) else none := by
  rw [signals_frontal, frontal_oom]
  unfold oomKilled
  dsimp only
  rw [htrend]
  cases (ctx.describe.containers.map ContainerInfo.lastTerminatedReason ++
    ctx.pods.map PodInfo.lastTerminated).contains (some "OOMKilled") <;> rfl

theorem initContainerFailure_key : (initContainerFailure ctx).map key =
    if (signals ctx).frontal.initFailing then
      some ("Init Container Failure", if (signals ctx).frontal.initError then 90 else 85)
    else none := by
  rw [signals_frontal, frontal_initFailing, frontal_initError]
  have hfailing := @List.isSome_find? _ ctx.describe.initContainers fun c =>
    isCrashReason c.waitingReason ||
      (Py.truthy c.lastTerminatedReason && c.lastExitCode.any (· != 0))
  unfold initContainerFailure initError
  dsimp only
  rw [← hfailing]
  generalize ctx.describe.initContainers.find? (fun c => isCrashReason c.waitingReason ||
    (Py.truthy c.lastTerminatedReason && c.lastExitCode.any (· != 0))) = failing
  generalize ctx.pods.any PodInfo.initFailing = podFailing
  generalize (lastLineWith ["error", "fatal", "fail", "cannot", "denied", "lock", "timeout"]
    ctx.initLogs).getD (ctx.initLogs.getLastD "") = err
  by_cases herr : err = ""
  · cases failing <;> cases podFailing <;> simp [key, herr]
  · cases failing <;> cases podFailing <;> simp [key, herr]

theorem jobFailure_key : (jobFailure ctx).map key =
    if (signals ctx).jobFailed then some ("Job Failed", if (signals ctx).frontal.jobError then 90 else 85)
    else none := by
  rw [signals_jobFailed, signals_frontal, frontal_jobError]
  unfold jobFailure
  cases ctx.job with
  | none => rfl
  | some job =>
      have hcond := @List.isSome_find? _ job.conditions fun c => c.type == "Failed"
      dsimp only
      rw [Option.any_some, ← hcond]
      generalize job.conditions.find? (fun c => c.type == "Failed") = cond
      generalize nonEmpty (lastLineWith ["fatal", "error", "fail", "exception", "cannot", "denied"]
        (ctx.logs ++ ctx.previousLogs)) = err
      by_cases hfailed : job.failed = 0
      · cases cond <;> cases err <;> simp [key, hfailed]
      · cases cond <;> cases err <;> simp [key, hfailed]

theorem probeFailure_key : (probeFailure ctx).map key = (signals ctx).probe := by
  rw [Signals.probe, signals_unhealthy, signals_frontal, frontal_quiet, frontal_appError]
  unfold probeFailure unhealthyEvents probeKind
  dsimp only
  cases ctx.events.filter fun e => e.reason == some "Unhealthy" with
  | nil =>
      dsimp only [List.isEmpty_nil]
      rw [if_pos rfl, apply_ite (Option.map key)]
      rfl
  | cons first rest =>
      dsimp only [List.isEmpty_cons]
      generalize (if Py.contains (joinedMessages (first :: rest)) "liveness" then "Liveness"
        else if Py.contains (joinedMessages (first :: rest)) "readiness" then "Readiness"
        else "Probe") = kind
      show some (key (if kind = "Liveness" then _ else _)) = some (s!"{kind} Probe Failure", 78)
      split <;> rfl

theorem storageEviction_key : (storageEviction ctx).map key =
    if (signals ctx).evicted then
      some (if (signals ctx).positional.ephemeral then ("Pod Evicted: Ephemeral Storage", 88)
        else ("Pod Evicted", 80))
    else none := by
  rw [signals_evicted, signals_positional, positional_ephemeral]
  have hevicted := @List.isSome_find? _ ctx.pods fun p => p.reason == some "Evicted"
  unfold storageEviction ephemeral evictedPods
  rw [← hevicted, ← List.head?_filter]
  cases ctx.pods.filter fun p => p.reason == some "Evicted" with
  | nil => rfl
  | cons first rest =>
      dsimp only
      generalize Py.containsAny (Py.lower (Py.join " "
        ((first :: rest).map fun p => p.message.getD "")))
          ["ephemeral", "emptydir", "exceeds the limit", "local storage"] = local_
      cases local_ <;> rfl

theorem hpaCannotScale_key : (hpaCannotScale ctx).map key =
    if (signals ctx).hpa then some ("HPA Cannot Scale", 85) else none := by
  rw [signals_hpa]
  unfold hpaCannotScale
  induction ctx.hpas with
  | nil => rfl
  | cons h hs ih =>
      rw [List.findSome?_cons, List.any_cons]
      cases h.bad with
      | none => exact ih
      | some bad => rfl

theorem pdbBlocking_key : (pdbBlocking ctx).map key =
    if (signals ctx).pdb then some ("PodDisruptionBudget Blocking", 80) else none := by
  rw [signals_pdb]
  have hblocking := @List.isSome_find? _ ctx.pdbs fun p => p.disruptionsAllowed == 0
  unfold pdbBlocking
  rw [← hblocking]
  cases ctx.pdbs.find? fun p => p.disruptionsAllowed == 0 <;> rfl

theorem istioSidecarNotReady_key : (istioSidecarNotReady ctx).map key =
    (signals ctx).frontal.proxy.map fun state => ("Istio Sidecar Not Ready", state.confidence) := by
  rw [signals_frontal, frontal_proxy]
  unfold istioSidecarNotReady
  cases ctx.describe.containers.find? fun c => c.name == "istio-proxy" with
  | none => rfl
  | some proxy =>
      dsimp only [Option.bind_some]
      unfold proxyState
      split
      · rfl
      split
      · rfl
      split
      · rfl
      · rfl

theorem pendingUnschedulable_key : (pendingUnschedulable ctx).map key =
    if (signals ctx).pending then
      some (if (signals ctx).positional.pvc then "Pending Pods (PVC)" else "Pending Pods", 80)
    else none := by
  rw [signals_pending, signals_positional, positional_pvc]
  have hpending : (ctx.pods.filter fun p => p.phase == some "Pending").isEmpty =
      !ctx.pods.any fun p => p.phase == some "Pending" := by
    have hany := @List.isSome_find? _ ctx.pods fun p => p.phase == some "Pending"
    rw [← hany, ← List.head?_filter]
    cases ctx.pods.filter fun p => p.phase == some "Pending" <;> rfl
  unfold pendingUnschedulable scheduleEvents
  dsimp only
  rw [hpending]
  generalize ctx.pods.any PodInfo.initFailing = initFailing
  generalize (ctx.pods.any fun p => p.phase == some "Pending") = pending
  cases ctx.events.filter fun e => e.reason == some "FailedScheduling" with
  | nil =>
      cases initFailing <;> cases pending <;> rfl  -- the message looked at is empty
  | cons first rest =>
      have hcond : ∀ b, (b && (first :: rest).isEmpty) = false := fun b => Bool.and_false b
      rw [hcond, hcond, if_neg Bool.false_ne_true, if_neg Bool.false_ne_true, Option.map_some]
      have hmessage : ((first :: rest).head?.map EventInfo.message).getD "" = first.message := rfl
      have hpvc : ((first :: rest).head?.map fun e => isPvc e.message).getD false =
          isPvc first.message := by
        rw [List.head?_cons, Option.map_some, Option.getD_some]
      rw [hmessage, hpvc, isPvc, apply_ite key, apply_ite key, apply_ite key, apply_ite key]
      generalize Py.lower first.message = msg
      cases Py.containsAny msg ["insufficient cpu", "insufficient memory"] <;>
        cases Py.containsAny msg ["taint", "node(s) had untolerated taint"] <;>
          cases (Py.contains msg "didn't match" && Py.contains msg "affinity") ||
            Py.contains msg "node affinity" <;>
              cases Py.containsAny msg ["persistentvolumeclaim", "pvc", "volume node affinity"] <;> rfl

theorem nodePressure_key : (nodePressure ctx).map key =
    (signals ctx).positional.node.map fun issue => (issue, 85) := by
  rw [signals_positional, positional_node]
  unfold nodePressure
  rw [Option.map_map, Option.map_map]
  rfl

theorem tlsCertificate_key : (tlsCertificate ctx).map key =
    if (signals ctx).frontal.tls then some ("TLS Certificate Issue", 75) else none := by
  rw [signals_frontal, frontal_tls]
  unfold tlsCertificate
  cases Py.containsAny (allLogs ctx) tlsSignals <;> rfl

theorem dnsFailure_key : (dnsFailure ctx).map key =
    if (signals ctx).frontal.dns then
      some ("DNS Resolution Failure", if (signals ctx).frontal.dnsStrong then 85 else 72)
    else none := by
  rw [signals_frontal, frontal_dns, frontal_dnsStrong]
  unfold dnsFailure
  generalize allLogs ctx = logs
  cases h : Py.containsAny logs (dnsStrong ++ dnsWeak) with
  | false => simp [h]
  | true => simp [h, key]

/-! ## All detectors

The equations in the order of registration, and the sort, which looks at confidences alone. -/

/-- What holds of a collected context: its changes are changes of secrets, and nothing is known of the
memory trend. -/
structure FromCluster (ctx : Context) : Prop where
  secret : ∀ c ∈ ctx.recentChange, c.kind = .secret
  trend  : ctx.memoryTrendRising = false

theorem findings_eq (h : FromCluster ctx) :
    allDetectors.map (fun d => (d ctx).map key) = (signals ctx).findings := by
  simp only [allDetectors, List.map_cons, List.map_nil, crashloop_key h.secret, imagePull_key,
    containerConfigError_key, oomKilled_key h.trend, initContainerFailure_key, jobFailure_key,
    probeFailure_key, pendingUnschedulable_key, storageEviction_key, hpaCannotScale_key,
    pdbBlocking_key, nodePressure_key, istioSidecarNotReady_key, tlsCertificate_key, dnsFailure_key]
  rfl

/-- **Issues, confidences and ranks are decided by the signals**, for every context that was
collected from a cluster. -/
theorem key_evaluate (h : FromCluster ctx) : (evaluate ctx).map key = (signals ctx).ranked := by
  have hfindings : (allDetectors.filterMap fun d => d ctx).map key =
      (signals ctx).findings.filterMap id := by
    rw [← findings_eq h, List.map_filterMap, List.filterMap_map]
    rfl
  rw [evaluate, Signals.ranked, ← hfindings]
  exact List.map_insertionSort _ _ _ _ fun a _ b _ => Iff.rfl

/-! ## What was read, by the findings

The last step in the other direction: where two contexts are found the same by every detector, the
detectors have read the same in them. -/

/-- A scheduling event makes the pod pending. -/
theorem pvc_eq_false (h : (signals ctx).pending = false) : (signals ctx).positional.pvc = false := by
  rw [signals_pending] at h
  rw [signals_positional, positional_pvc]
  cases hsched : scheduleEvents ctx.events with
  | nil => rfl
  | cons first rest =>
      rw [hsched] at h
      simp at h

/-- Without an evicted pod there is no message. -/
theorem ephemeral_eq_false (h : (signals ctx).evicted = false) :
    (signals ctx).positional.ephemeral = false := by
  rw [signals_evicted, List.any_eq_false] at h
  have hnone : evictedPods ctx.pods = [] := List.filter_eq_nil_iff.mpr h
  rw [signals_positional, positional_ephemeral, hnone]
  decide

/-- What the detectors read of a context. -/
def readings (ctx : Context) : Signals := (signals ctx).read

/-- **What the detectors read of two contexts is the same exactly if each finds the same.** -/
theorem readings_eq_iff {ctx ctx' : Context} :
    readings ctx = readings ctx' ↔ (signals ctx).findings = (signals ctx').findings := by
  unfold readings
  constructor
  · intro h
    rw [← Signals.findings_read, h, Signals.findings_read]
  · intro h
    exact Signals.read_eq_of_findings h pvc_eq_false pvc_eq_false ephemeral_eq_false
      ephemeral_eq_false

end SreAgent.Rca
