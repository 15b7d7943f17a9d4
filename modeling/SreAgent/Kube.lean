import Mathlib.Data.List.Nodup
import SreAgent.Errors
import SreAgent.Lib.DateTime

/-!
# The Kubernetes API as the agent reads it

Objects carry the fields the agent looks at, under the names of the Python client. A list or map
the client may hand out as `None` is empty here, since every reader writes `or []`; a field whose
absence matters is an `Option`. `Client` answers one read at a time from the state of the cluster,
unless the read fails: `faults` says so for each place in the code that issues one.

Nothing here models the API server beyond what a read returns. The state of the cluster is fixed
while a diagnosis runs; what can differ between two reads of one diagnosis is whether they fail, and
`Read` lists the places in the code that issue one, so that a fault can be put at each of them on
its own.
-/

namespace SreAgent.Kube

/-! ## Labels

A label map is a list of pairs in the order the client hands it out. Two maps are compared through
`get` only, so a key that occurs twice counts once, as in a Python dict built from it. -/

abbrev Labels := List (String × String)

def Labels.get (labels : Labels) (key : String) : Option String :=
  (labels.find? fun kv => kv.1 == key).map Prod.snd

/-- `m.items() <= labels.items()`. -/
def Labels.subset (m labels : Labels) : Bool := m.all fun kv => labels.get kv.1 == some kv.2

/-- What asks for less is satisfied wherever the larger map is: the step by which an owner's labels
reach its pods. -/
theorem Labels.subset_trans {l m labels : Labels} (h : l.subset m = true)
    (hm : m.subset labels = true) : l.subset labels = true := by
  rw [Labels.subset, List.all_eq_true] at h hm ⊢
  intro kv hkv
  obtain ⟨kv', hfind, hvalue⟩ := Option.map_eq_some_iff.mp (beq_iff_eq.mp (h kv hkv))
  have hkey : (kv'.1 == kv.1) = true := List.find?_some (p := fun x : String × String => x.1 == kv.1) hfind
  have hsame := hm kv' (List.mem_of_find?_eq_some hfind)
  rwa [beq_iff_eq.mp hkey, hvalue] at hsame

inductive Operator where
  | isIn
  | notIn
  | exists_
  | doesNotExist
  deriving DecidableEq, Repr

structure LabelRequirement where
  key      : String
  operator : Operator
  values   : List String := []
  deriving DecidableEq, Repr

/-- One expression of a selector, as the API server evaluates it. `NotIn` holds of an object that
has no such label at all. -/
def LabelRequirement.matches (r : LabelRequirement) (labels : Labels) : Bool :=
  match r.operator with
  | .isIn         => (labels.get r.key).any r.values.contains
  | .notIn        => !(labels.get r.key).any r.values.contains
  | .exists_      => (labels.get r.key).isSome
  | .doesNotExist => (labels.get r.key).isNone

/-- Label keys and values have neither a comma nor an equals sign. -/
def LabelText (s : String) : Prop := ',' ∉ s.toList ∧ '=' ∉ s.toList

instance (s : String) : Decidable (LabelText s) := inferInstanceAs (Decidable (_ ∧ _))

/-- `V1LabelSelector`, as the API server accepts it. -/
structure LabelSelector where
  matchLabels      : Labels := []
  matchExpressions : List LabelRequirement := []
  clean            : ∀ kv ∈ matchLabels, LabelText kv.1 ∧ LabelText kv.2

/-- An object matches a selector if it satisfies both halves. -/
def LabelSelector.matches (s : LabelSelector) (labels : Labels) : Bool :=
  s.matchLabels.subset labels && s.matchExpressions.all (·.matches labels)

/-! ## Label selectors as text

The `label_selector` argument of a list call: requirements separated by commas, all of which must
hold. `k=v` asks for a value, a bare `k` for the presence of a label; the other operators of the
syntax are not used by the code. -/

def requirementHolds (labels : Labels) (cs : List Char) : Bool :=
  let key := String.ofList (cs.takeWhile (· != '='))
  match cs.dropWhile (· != '=') with
  | []         => (labels.get key).isSome
  | _ :: value => labels.get key == some (String.ofList value)

/-- Whether a list call with `label_selector=sel` returns an object with these labels. -/
def selects (sel : String) (labels : Labels) : Bool :=
  sel == "" || (Py.splitOn ',' sel.toList).all (requirementHolds labels)

/-- `",".join(f"{k}={v}" for k, v in labels.items())`. -/
def encodeLabels (labels : Labels) : String :=
  Py.join "," (labels.map fun kv => kv.1 ++ "=" ++ kv.2)

/-- A requirement written as `k=v` asks for this value: the first equals sign of the text is the one
between the two, since a key has none. -/
theorem requirementHolds_eq {k v : String} (hk : '=' ∉ k.toList) (labels : Labels) :
    requirementHolds labels (k ++ "=" ++ v).toList = (labels.get k == some v) := by
  have hne : ∀ c ∈ k.toList, (c != '=') = true := by
    intro c hc
    rw [bne_iff_ne]
    rintro rfl
    exact hk hc
  have htext : (k ++ "=" ++ v).toList = k.toList ++ '=' :: v.toList := by simp
  have htake : (k.toList ++ '=' :: v.toList).takeWhile (· != '=') = k.toList := by
    rw [List.takeWhile_append_of_pos hne, List.takeWhile_cons_of_neg (by simp), List.append_nil]
  have hdrop : (k.toList ++ '=' :: v.toList).dropWhile (· != '=') = '=' :: v.toList := by
    rw [List.dropWhile_append_of_pos hne, List.dropWhile_cons_of_neg (by simp)]
  simp only [requirementHolds, htext, htake, hdrop, String.ofList_toList]

/-- **The encoding asks for exactly the labels encoded**, and for nothing when there are none. -/
theorem selects_encodeLabels {m : Labels} (hm : ∀ kv ∈ m, LabelText kv.1 ∧ LabelText kv.2)
    (labels : Labels) : selects (encodeLabels m) labels = m.subset labels := by
  cases m with
  | nil => rfl
  | cons kv m =>
      let parts := (kv :: m).map fun kv => (kv.1 ++ "=" ++ kv.2).toList
      have htext : (encodeLabels (kv :: m)).toList = [','].intercalate parts := by
        simp [encodeLabels, Py.join, parts, Function.comp_def]
      have hsplit : Py.splitOn ',' (encodeLabels (kv :: m)).toList = parts := by
        rw [htext]
        apply Py.splitOn_intercalate (by simp [parts])
        intro w hw
        obtain ⟨kv', hkv', rfl⟩ := List.mem_map.mp hw
        have := hm kv' hkv'
        simp [this.1.1, this.2.1]
      -- only the empty map is sent as the empty selector
      have hnonempty : encodeLabels (kv :: m) ≠ "" := by
        intro h
        rw [h] at hsplit
        have hfirst : [] = (kv.1 ++ "=" ++ kv.2).toList := (List.cons.inj hsplit).1
        simp at hfirst
      rw [selects, hsplit, beq_eq_false_iff_ne.mpr hnonempty, Bool.false_or, List.all_map,
        Labels.subset, Bool.eq_iff_iff, List.all_eq_true, List.all_eq_true]
      refine forall₂_congr fun kv' hkv' => ?_
      show requirementHolds labels (kv'.1 ++ "=" ++ kv'.2).toList = true ↔ _
      rw [requirementHolds_eq (hm kv' hkv').1.2]

/-! ## Objects

Each structure is one class of the client library, cut down to the attributes that are read
somewhere under `src/`. Two invariants are fields, because the API server enforces them and proofs
need them: time stamps are in UTC, and within a namespace no two pods share a name. -/

/-- A time stamp of the API: the client hands it out as an aware `datetime` in UTC. -/
structure Timestamp where
  value : Py.DateTime
  valid : value.valid = true
  utc   : value.offset = some 0
  deriving DecidableEq

def Timestamp.isoformat (t : Timestamp) : String := t.value.isoformat

/-- `V1ContainerStateWaiting`: a container that has not started, and why, if the kubelet says so. -/
structure Waiting where
  reason : Option String
  deriving DecidableEq, Repr

/-- `V1ContainerStateTerminated`: a container that has ended. The exit code is always set, the
reason may be missing. -/
structure Terminated where
  reason   : Option String
  exitCode : ℤ
  deriving DecidableEq, Repr

/-- `V1ContainerStatus`: `waiting` is `state.waiting`, `lastTerminated` is
`last_state.terminated`. -/
structure ContainerStatus where
  name           : String
  waiting        : Option Waiting := none
  lastTerminated : Option Terminated := none
  restartCount   : Nat := 0
  ready          : Bool := false
  deriving DecidableEq, Repr

structure Container where
  name           : String
  image          : Option String := none
  livenessProbe  : Bool := false
  readinessProbe : Bool := false
  deriving DecidableEq, Repr

structure OwnerReference where
  kind : String
  name : String
  deriving DecidableEq, Repr

structure Pod where
  name                  : String
  labels                : Labels := []
  ownerReferences       : List OwnerReference := []
  phase                 : Option String := none
  reason                : Option String := none
  message               : Option String := none
  startTime             : Option Timestamp := none
  containerStatuses     : List ContainerStatus := []
  initContainerStatuses : List ContainerStatus := []
  containers            : List Container := []
  initContainers        : List Container := []
  nodeName              : Option String := none
  deriving DecidableEq

/-- A Deployment or a StatefulSet. -/
structure Workload where
  name     : String
  selector : LabelSelector

/-- A condition in the status of a Job, a node or an autoscaler. -/
structure Condition where
  type    : String
  status  : String
  reason  : Option String := none
  message : Option String := none
  deriving DecidableEq, Repr

structure Job where
  name       : String
  failed     : Nat := 0
  succeeded  : Nat := 0
  conditions : List Condition := []
  deriving DecidableEq, Repr

/-- An event stands for occurrences from `firstTimestamp` to `lastTimestamp`. The code reads only
the latter. -/
structure Event where
  type           : Option String := none
  reason         : Option String := none
  message        : Option String := none
  involvedKind   : Option String := none
  involvedName   : Option String := none
  firstTimestamp : Option Timestamp := none
  lastTimestamp  : Option Timestamp := none
  eventTime      : Option Timestamp := none
  deriving DecidableEq

structure Node where
  name       : String
  conditions : List Condition := []
  deriving DecidableEq, Repr

structure Secret where
  name              : String
  managedFieldTimes : List (Option Timestamp) := []
  creationTimestamp : Option Timestamp := none
  deriving DecidableEq

structure HorizontalPodAutoscaler where
  name       : String
  targetKind : String
  targetName : String
  conditions : List Condition := []
  deriving DecidableEq, Repr

structure PodDisruptionBudget where
  name               : String
  selector           : Option LabelSelector := none
  disruptionsAllowed : Nat := 0
  currentHealthy     : Nat := 0
  desiredHealthy     : Nat := 0

/-- The objects of one namespace, where no two pods share a name. `podLog` is the log of a pod's
container (of its only container, if none is named), as decoded text. -/
structure Namespace where
  pods         : List Pod := []
  pods_nodup   : (pods.map Pod.name).Nodup := by decide
  deployments  : List Workload := []
  statefulSets : List Workload := []
  jobs         : List Job := []
  events       : List Event := []
  secrets      : List Secret := []
  services     : List String := []
  hpas         : List HorizontalPodAutoscaler := []
  pdbs         : List PodDisruptionBudget := []
  podLog       : (pod : String) → (container : Option String) → (previous : Bool) →
    Except Exc String := fun _ _ _ => .error (.apiException 400)

/-! ## Reads

A read is answered from the state unless its place has a fault. That one function decides it for all
of them, `attempt`, is what makes the two outcomes of a read the same two cases in every proof. -/

/-- The places in `collect_context` that issue a read. -/
inductive Read where
  | resolvePod
  | resolveDeployment
  | deploymentPods
  | resolveStatefulSet
  | statefulSetPods
  | resolveJob
  | jobPods
  | podList
  | events
  | nodes
  | secrets
  | services
  | hpas
  | pdbs
  | describe
  | logs
  | previousLogs
  | initLogs
  deriving DecidableEq, Repr

/-- What the clients of one cluster answer. -/
structure Client where
  namespaces : String → Namespace
  nodes      : List Node := []
  faults     : Read → Option Exc := fun _ => none

/-- The answer of a read that may fail. -/
def Client.attempt {α : Type} (cl : Client) (read : Read) (answer : Except Exc α) : Except Exc α :=
  match cl.faults read with
  | some e => .error e
  | none   => answer

/-- A read by name: 404 if there is no such object. -/
def byName {α : Type} (name : α → String) (objects : List α) (wanted : String) : Except Exc α :=
  match objects.find? fun o => name o == wanted with
  | some o => .ok o
  | none   => .error (.apiException 404)

/-- `list_namespaced_pod(namespace, label_selector=..)`. -/
def Client.listPods (cl : Client) (read : Read) (ns selector : String) : Except Exc (List Pod) :=
  cl.attempt read (.ok ((cl.namespaces ns).pods.filter fun p => selects selector p.labels))

/-- `read_namespaced_pod(name, namespace)`, which raises a 404 for a name that is not there. -/
def Client.readPod (cl : Client) (read : Read) (ns name : String) : Except Exc Pod :=
  cl.attempt read (byName Pod.name (cl.namespaces ns).pods name)

/-- A read returns an answer exactly if its place has no fault and the cluster has the answer. -/
@[simp] theorem Client.attempt_eq_ok {α : Type} {cl : Client} {read : Read} {answer : Except Exc α}
    {a : α} : cl.attempt read answer = .ok a ↔ cl.faults read = none ∧ answer = .ok a := by
  unfold Client.attempt
  cases cl.faults read <;> simp

/-- A pod is known by its name. This is what makes a read by name and a search in a listing agree.
-/
theorem Namespace.pod_unique (n : Namespace) {p q : Pod} (hp : p ∈ n.pods) (hq : q ∈ n.pods)
    (h : p.name = q.name) : p = q := List.inj_on_of_nodup_map n.pods_nodup hp hq h

/-- What a read by name returns is an object of the listing that has the name asked for. -/
theorem byName_eq_ok {α : Type} {name : α → String} {objects : List α} {wanted : String} {o : α}
    (h : byName name objects wanted = .ok o) : o ∈ objects ∧ name o = wanted := by
  unfold byName at h
  split at h
  · next o' hfind =>
    cases h
    exact ⟨List.mem_of_find?_eq_some hfind, by simpa using List.find?_some hfind⟩
  · cases h

end SreAgent.Kube
