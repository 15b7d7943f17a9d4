import SreAgent.Lib.TwoRun
import SreAgent.Rca.Collected
import SreAgent.Rca.Signals

/-!
# Lists in another order

The API lists the pods, the events and the nodes of a cluster in no particular order. Two collections
from clusters that differ in nothing else (`Reordered`) return contexts that hold the same things in
another order (`Shuffled`), as long as the same pod of the subject comes first; and the signals of such
contexts differ at most in the positional ones.

Everything `collect_context` does with a list is a filter, a map, a search by name or a sort, and
each of them has its behaviour under permutation. The proof goes through the collection once with
that, step by step.
-/

namespace SreAgent.Rca

open Kube (Client Pod Timestamp)
open Py (DateTime)
open TwoRun (Related)

/-! ## Contexts

Two groups of fields: what is read of the pod in front, which must be the same, and the lists, which
may be permuted. Most signals are about whether some item has a property. -/

/-- The two contexts show the same pods, maybe in another order, with the same one in front. -/
structure SameFront (ctx ctx' : Context) : Prop where
  pods         : ctx'.pods.Perm ctx.pods
  describe     : ctx'.describe = ctx.describe
  logs         : ctx'.logs = ctx.logs
  previousLogs : ctx'.previousLogs = ctx.previousLogs
  initLogs     : ctx'.initLogs = ctx.initLogs
  services     : ctx'.services = ctx.services

namespace SameFront

variable {ctx ctx' : Context}

theorem waiting (h : SameFront ctx ctx') (reason : String) :
    (waitingReasons ctx').contains reason = (waitingReasons ctx).contains reason := by
  unfold waitingReasons
  rw [h.describe]
  exact ((h.pods.filterMap _).append_left _).contains_eq

theorem hits (h : SameFront ctx ctx') (wanted : List String) : hits ctx' wanted = hits ctx wanted := by
  unfold Rca.hits
  apply List.filter_congr
  intro reason _
  exact h.waiting reason

theorem isCrashlooping (h : SameFront ctx ctx') : isCrashlooping ctx' = isCrashlooping ctx := by
  unfold Rca.isCrashlooping
  rw [h.waiting, h.describe]

theorem allLogs (h : SameFront ctx ctx') : allLogs ctx' = allLogs ctx := by
  rw [Rca.allLogs, h.logs, h.previousLogs, Rca.allLogs]

/-- **The frontal signals** are the same: they come from the pods in any order, and from what is
described and logged of the one in front. -/
theorem frontal (h : SameFront ctx ctx') : frontal ctx' = frontal ctx := by
  apply Frontal.ext
  case crashlooping => exact h.isCrashlooping
  -- everything is read from the description and the logs, or is a property of some pod
  case pull => rw [frontal_pull, frontal_pull, h.hits]
  case config => rw [frontal_config, frontal_config, h.hits]
  case oom =>
    rw [frontal_oom, frontal_oom, h.describe]
    exact ((h.pods.map _).append_left _).contains_eq
  case initFailing => rw [frontal_initFailing, frontal_initFailing, h.describe, h.pods.any_eq]
  case initError => rw [frontal_initError, frontal_initError, initError, h.initLogs, initError]
  case quiet => rw [frontal_quiet, frontal_quiet, h.describe, h.pods.any_eq]
  case proxy => rw [frontal_proxy, frontal_proxy, h.describe]
  case dnsSpecific => rw [frontal_dnsSpecific, frontal_dnsSpecific, h.allLogs]
  case dbAuth => rw [frontal_dbAuth, frontal_dbAuth, h.allLogs]
  case dbReach => rw [frontal_dbReach, frontal_dbReach, h.allLogs]
  case appError => rw [frontal_appError, frontal_appError, h.allLogs]
  case tls => rw [frontal_tls, frontal_tls, h.allLogs]
  case dns => rw [frontal_dns, frontal_dns, h.allLogs]
  case dnsStrong => rw [frontal_dnsStrong, frontal_dnsStrong, h.allLogs]
  case jobError => rw [frontal_jobError, frontal_jobError, h.logs, h.previousLogs]
  case missing => rw [frontal_missing, frontal_missing, h.allLogs, h.services]

end SameFront

/-- The two contexts say the same of the rest, maybe in another order. -/
structure SameRest (ctx ctx' : Context) : Prop where
  pods   : ctx'.pods.Perm ctx.pods
  events : ctx'.events.Perm ctx.events
  job    : ctx'.job = ctx.job
  hpas   : ctx'.hpas = ctx.hpas
  pdbs   : ctx'.pdbs = ctx.pdbs

namespace SameRest

variable {ctx ctx' : Context}

theorem isEmpty_events (h : SameRest ctx ctx') (p : EventInfo → Bool) :
    (ctx'.events.filter p).isEmpty = (ctx.events.filter p).isEmpty := (h.events.filter p).isEmpty_eq

/-- The kinds of probes are words, so the order of the messages does not matter. -/
theorem probeKind (h : SameRest ctx ctx') :
    probeKind (unhealthyEvents ctx'.events) = probeKind (unhealthyEvents ctx.events) := by
  have hword : ∀ {word : String}, word ≠ "" → ' ' ∉ word.toList →
      Py.contains (joinedMessages (unhealthyEvents ctx'.events)) word =
        Py.contains (joinedMessages (unhealthyEvents ctx.events)) word := by
    intro word hne hblank
    rw [joinedMessages, joinedMessages, Py.contains_lower_join hne hblank,
      Py.contains_lower_join hne hblank]
    exact ((h.events.filter _).map _).any_eq
  rw [Rca.probeKind, hword (by decide) (by decide), hword (by decide) (by decide), Rca.probeKind]

theorem unhealthy (h : SameRest ctx ctx') : (signals ctx').unhealthy = (signals ctx).unhealthy := by
  have hempty := h.isEmpty_events fun e => e.reason == some "Unhealthy"
  rw [signals_unhealthy, signals_unhealthy, h.probeKind, unhealthyEvents, hempty, unhealthyEvents]

theorem pending (h : SameRest ctx ctx') : (signals ctx').pending = (signals ctx).pending := by
  have hempty := h.isEmpty_events fun e => e.reason == some "FailedScheduling"
  rw [signals_pending, signals_pending, h.pods.any_eq, h.pods.any_eq, scheduleEvents, hempty,
    scheduleEvents]

/-- **The rest of the signals** is the same: they look at lists as sets, or at what the order leaves
alone. -/
theorem signals_eq (h : SameRest ctx ctx') (hfrontal : frontal ctx' = frontal ctx)
    (hchanged : ctx'.recentChange.isSome = ctx.recentChange.isSome) :
    { signals ctx' with positional := (signals ctx).positional } = signals ctx := by
  apply Signals.ext
  case positional => rfl
  case frontal => exact hfrontal
  case changed => exact hchanged
  -- only the positional signals depend on an order, and they are taken from one side
  case unhealthy => exact h.unhealthy
  case pending => exact h.pending
  case jobFailed =>
    show (signals ctx').jobFailed = (signals ctx).jobFailed
    rw [signals_jobFailed, signals_jobFailed, h.job]
  case evicted => exact h.pods.any_eq
  case hpa =>
    show (signals ctx').hpa = (signals ctx).hpa
    rw [signals_hpa, signals_hpa, h.hpas]
  case pdb =>
    show (signals ctx').pdb = (signals ctx).pdb
    rw [signals_pdb, signals_pdb, h.pdbs]

end SameRest

/-- The same context, but for the order of its pods, events and nodes, and for the failure anchor. -/
structure Shuffled (ctx ctx' : Context) : Prop where
  front        : SameFront ctx ctx'
  rest         : SameRest ctx ctx'
  recentChange : ctx'.recentChange = ctx.recentChange

/-- **Only the positional signals** can tell such contexts apart. All others are the same in every
order of the lists. -/
theorem Shuffled.signals_eq {ctx ctx' : Context} (h : Shuffled ctx ctx') :
    { signals ctx' with positional := (signals ctx).positional } = signals ctx :=
  h.rest.signals_eq h.front.frontal (congrArg Option.isSome h.recentChange)

/-! ## Clusters

Names are unique among pods, which the type of a namespace guarantees. So a read by name does not
depend on the order, and neither do descriptions and logs. -/

variable {cl cl' : Client} {ns subject clusterName : String} {now : Timestamp}

/-- The namespace but for the lists that come in some order. -/
def unlisted (n : Kube.Namespace) : Kube.Namespace :=
  { n with pods := [], pods_nodup := List.nodup_nil, events := [] }

/-- The same cluster, but for the order of its nodes and of the namespace's pods and events.
Everything else is equal, as are the reads that fail. -/
structure Reordered (cl cl' : Client) (ns : String) : Prop where
  pods   : (cl'.namespaces ns).pods.Perm (cl.namespaces ns).pods
  events : (cl'.namespaces ns).events.Perm (cl.namespaces ns).events
  nodes  : cl'.nodes.Perm cl.nodes
  rest   : unlisted (cl'.namespaces ns) = unlisted (cl.namespaces ns)
  faults : cl'.faults = cl.faults

namespace Reordered

/-- What is no matter of these lists is the same. -/
theorem same (h : Reordered cl cl' ns) {α : Type*} (f : Kube.Namespace → α)
    (hf : ∀ n, f (unlisted n) = f n) : f (cl'.namespaces ns) = f (cl.namespaces ns) := by
  rw [← hf, h.rest, hf]

theorem attempt (h : Reordered cl cl' ns) {α : Type} (read : Kube.Read) (answer : Except Exc α) :
    cl'.attempt read answer = cl.attempt read answer := by
  rw [Client.attempt, h.faults]
  rfl

/-- No two pods share a name, so the order does not matter to a read by name. -/
theorem find?_pod (h : Reordered cl cl' ns) (name : String) :
    ((cl'.namespaces ns).pods.find? fun p => p.name == name) =
      (cl.namespaces ns).pods.find? fun p => p.name == name := by
  apply TwoRun.find?_perm h.pods
  intro p hp q hq hpn hqn
  apply (cl.namespaces ns).pod_unique hp hq
  rw [beq_iff_eq.mp hpn, beq_iff_eq.mp hqn]

theorem readPod (h : Reordered cl cl' ns) (read : Kube.Read) (name : String) :
    cl'.readPod read ns name = cl.readPod read ns name := by
  rw [Client.readPod, h.attempt, Kube.byName, h.find?_pod]
  rfl

theorem readLogs (h : Reordered cl cl' ns) (read : Kube.Read) : readLogs cl' read ns = readLogs cl read ns := by
  have hlog : (cl'.namespaces ns).podLog = (cl.namespaces ns).podLog :=
    h.same Kube.Namespace.podLog fun _ => rfl
  funext pod container previous
  rw [Rca.readLogs, readPodLog, h.attempt, hlog]
  rfl

end Reordered

/-! ## The pods of the subject

The attempts are followed with an arbitrary relation between the lists of names they leave behind.
Later it is instantiated twice: as being a permutation, and as a statement about the first name. -/

/-- The second attempt does what the first one does, but for the pods it names. -/
def Likewise (R : List String → List String → Prop) (a a' : Attempt) : Prop :=
  ∀ (r : Resolution) (names : List String), R r.podNames names →
    ∃ names', R (a r).2.podNames names' ∧
      a' { r with podNames := names } = ((a r).1, { (a r).2 with podNames := names' })

/-- One attempt or the other, on both sides. -/
theorem Likewise.orTry {R : List String → List String → Prop} {a b a' b' : Attempt}
    (ha : Likewise R a a') (hb : Likewise R b b') : Likewise R (orTry a b) (orTry a' b') := by
  intro r names hnames
  obtain ⟨names', hnames', heq⟩ := ha r names hnames
  unfold Rca.orTry
  rw [heq]
  cases hres : a r with
  | mk came r' =>
      rw [hres] at hnames'
      cases came with
      | true  => exact ⟨names', hnames', rfl⟩
      | false => exact hb r' names' hnames'

/-- A relation between the lists of names that a cluster and a reordering of it answer with. -/
structure Listed (cl cl' : Client) (ns subject : String) (R : List String → List String → Prop) :
    Prop where
  none     : R [] []
  one      : R [subject] [subject]
  selected : ∀ sel : Pod → Bool, R (((cl.namespaces ns).pods.filter sel).map Pod.name)
    (((cl'.namespaces ns).pods.filter sel).map Pod.name)

variable {R : List String → List String → Prop}

theorem tryPod_likewise (h : Reordered cl cl' ns) (hR : Listed cl cl' ns subject R) :
    Likewise R (tryPod cl ns subject) (tryPod cl' ns subject) := by
  intro r names hnames
  unfold tryPod
  rw [h.readPod]
  cases cl.readPod .resolvePod ns subject with
  | error e => exact ⟨names, hnames, rfl⟩
  | ok p => exact ⟨[subject], hR.one, rfl⟩

theorem listPods_likewise (h : Reordered cl cl' ns) (hR : Listed cl cl' ns subject R)
    (read : Kube.Read) (sel : String) :
    Related (fun pods pods' => R (pods.map Pod.name) (pods'.map Pod.name))
      (cl.listPods read ns sel) (cl'.listPods read ns sel) := by
  unfold Client.listPods
  rw [h.attempt]
  unfold Client.attempt
  cases cl.faults read with
  | some e => exact .error e
  | none => exact .ok (hR.selected fun p => Kube.selects sel p.labels)

theorem tryWorkload_likewise (h : Reordered cl cl' ns) (hR : Listed cl cl' ns subject R)
    (readAt podsAt : Kube.Read) (workloads : List Kube.Workload) :
    Likewise R (tryWorkload cl readAt podsAt workloads ns subject)
      (tryWorkload cl' readAt podsAt workloads ns subject) := by
  intro r names hnames
  unfold tryWorkload
  rw [h.attempt]
  cases cl.attempt readAt (Kube.byName Kube.Workload.name workloads subject) with
  | error e => exact ⟨names, hnames, rfl⟩
  | ok w =>
      have hlist := listPods_likewise h hR podsAt (Kube.encodeLabels w.selector.matchLabels)
      dsimp only
      -- the two listings agree up to order, or fail with the same error
      generalize cl.listPods podsAt ns (Kube.encodeLabels w.selector.matchLabels) = x at hlist
      generalize cl'.listPods podsAt ns (Kube.encodeLabels w.selector.matchLabels) = x' at hlist
      cases hlist with
      | error e => exact ⟨names, hnames, rfl⟩
      | ok hpods => exact ⟨_, hpods, rfl⟩

theorem tryJob_likewise (h : Reordered cl cl' ns) (hR : Listed cl cl' ns subject R) :
    Likewise R (tryJob cl ns subject) (tryJob cl' ns subject) := by
  have hjobs : (cl'.namespaces ns).jobs = (cl.namespaces ns).jobs :=
    h.same Kube.Namespace.jobs fun _ => rfl
  intro r names hnames
  unfold tryJob
  rw [h.attempt, hjobs]
  cases cl.attempt .resolveJob (Kube.byName Kube.Job.name (cl.namespaces ns).jobs subject) with
  | error e => exact ⟨names, hnames, rfl⟩
  | ok job =>
      have hlist := listPods_likewise h hR .jobPods ("job-name=" ++ subject)
      dsimp only
      -- as for a workload, with the label that the job controller sets
      generalize cl.listPods .jobPods ns ("job-name=" ++ subject) = x at hlist
      generalize cl'.listPods .jobPods ns ("job-name=" ++ subject) = x' at hlist
      cases hlist with
      | error e => exact ⟨names, hnames, rfl⟩
      | ok hpods => exact ⟨_, hpods, rfl⟩

/-- **The subject is resolved alike**, but for the pods it is taken for. -/
theorem Reordered.resolve (h : Reordered cl cl' ns) (hR : Listed cl cl' ns subject R) :
    R (podNamesOf cl ns subject) (podNamesOf cl' ns subject) ∧
      resolveSubject cl' ns subject = ((resolveSubject cl ns subject).1,
        { (resolveSubject cl ns subject).2 with podNames := podNamesOf cl' ns subject }) := by
  have hdeployments : (cl'.namespaces ns).deployments = (cl.namespaces ns).deployments :=
    h.same Kube.Namespace.deployments fun _ => rfl
  have hstatefulSets : (cl'.namespaces ns).statefulSets = (cl.namespaces ns).statefulSets :=
    h.same Kube.Namespace.statefulSets fun _ => rfl
  have hdeploy : Likewise R (tryDeployment cl ns subject) (tryDeployment cl' ns subject) := by
    unfold tryDeployment
    rw [hdeployments]
    exact tryWorkload_likewise h hR _ _ _
  have hsts : Likewise R (tryStatefulSet cl ns subject) (tryStatefulSet cl' ns subject) := by
    unfold tryStatefulSet
    rw [hstatefulSets]
    exact tryWorkload_likewise h hR _ _ _
  -- the four lookups in turn, each continued only where the one before found nothing
  have hall := (((tryPod_likewise h hR).orTry hdeploy).orTry hsts).orTry (tryJob_likewise h hR)
  obtain ⟨names', hnames', heq⟩ := hall {} [] hR.none
  have hpodNames : podNamesOf cl' ns subject = names' := congrArg (fun x => x.2.podNames) heq
  rw [hpodNames]
  exact ⟨hnames', heq⟩

/-! ## The failure

The earliest of some times is the earliest in every order, but only as a moment: two texts may print
the same instant in different ways. What follows uses the moment alone. -/

/-- The same moment, if any, by an aware time. -/
structure SameMoment (o o' : Option DateTime) : Prop where
  instant : o'.map DateTime.instant = o.map DateTime.instant
  aware   : ∀ d ∈ o, d.aware = true
  aware'  : ∀ d ∈ o', d.aware = true

/-- A time is the same moment as itself. -/
theorem SameMoment.refl {o : Option DateTime} (h : ∀ d ∈ o, d.aware = true) : SameMoment o o :=
  ⟨rfl, h, h⟩

/-- The first failure among permuted warnings is at the same moment, the earlier of two times as
well, and so is the anchor. -/
theorem firstFailureTime_reordered {events events' : List EventInfo} (h : events'.Perm events)
    (haware : ∀ e ∈ events, AwareText (some e.timestamp)) :
    Related SameMoment (firstFailureTime events) (firstFailureTime events') := by
  have haware' : ∀ e ∈ events', AwareText (some e.timestamp) :=
    fun e he => haware e (h.mem_iff.mp he)
  have htimes : (warningTimes events').Perm (warningTimes events) := (h.filter _).filterMap _
  have hhead : ∀ {es : List EventInfo}, (∀ e ∈ es, AwareText (some e.timestamp)) →
      ∀ d ∈ (StableSort.sort DateTime.instant (warningTimes es)).head?, d.aware = true := by
    intro es hes d hd
    apply aware_warningTimes hes
    exact (List.mem_insertionSort _).mp (List.mem_of_mem_head? hd)
  rw [firstFailureTime_eq haware, firstFailureTime_eq haware']
  exact .ok ⟨StableSort.head_sort_perm htimes, hhead haware, hhead haware'⟩

theorem earlier_reordered {d d' e : DateTime} (hd : d.aware = true) (hd' : d'.aware = true)
    (he : e.aware = true) (h : d'.instant = d.instant) :
    Related SameMoment (do pure (some (← earlier d e))) (do pure (some (← earlier d' e))) := by
  rw [earlier_ok hd he, earlier_ok hd' he, h]
  by_cases hle : d.instant ≤ e.instant
  · rw [if_pos hle, if_pos hle]
    exact .ok ⟨congrArg some h, by simpa using hd, by simpa using hd'⟩
  · rw [if_neg hle, if_neg hle]
    exact .ok (.refl (by simpa using he))

theorem failureAnchor_reordered {events events' : List EventInfo} {pods pods' : List PodInfo}
    (hevents : events'.Perm events) (haware : ∀ e ∈ events, AwareText (some e.timestamp))
    (hpods : pods'.Perm pods) (podStart : Option Timestamp) :
    Related SameMoment (failureAnchor events pods podStart) (failureAnchor events' pods' podStart) := by
  have hcrashing : crashingSinceStart pods' = crashingSinceStart pods := hpods.any_eq
  refine Related.bind (firstFailureTime_reordered hevents haware) fun t t' ht => ?_
  -- whether a pod crashed since its start is asked of any of them, in whatever order
  rw [hcrashing]
  split
  · obtain ⟨hinstant, ht, ht'⟩ := ht
    cases podStart with
    | none => cases t <;> cases t' <;> exact .ok ⟨hinstant, ht, ht'⟩
    | some start =>
        have hstart : start.value.aware = true := Timestamp.aware start
        cases t with
        | none =>
            cases t' with
            | none => exact .ok (.refl (by simpa using hstart))
            | some d' => cases hinstant
        | some d =>
            cases t' with
            | none => cases hinstant
            | some d' =>
                -- the earlier of two moments is the same moment on both sides
                exact earlier_reordered (ht d rfl) (ht' d' rfl) hstart (Option.some.inj hinstant)
  · exact .ok ht

/-- Only the moment counts. -/
theorem candidatesOf_moment {α : Type} {failure failure' : DateTime}
    (hinstant : failure'.instant = failure.instant) (haware : failure'.aware = failure.aware)
    (at_ : α → Option String) (mk : α → String → Change) (items : List α) :
    candidatesOf failure' at_ mk items = candidatesOf failure at_ mk items := by
  -- the failure's time is only compared, so its moment is all that counts
  have hnotAfter : ∀ t, notAfter t failure' = notAfter t failure := by
    intro t
    rw [notAfter, DateTime.le?, hinstant, haware]
    rfl
  induction items with
  | nil => rfl
  | cons x xs ih =>
      rw [candidatesOf, candidatesOf, ih]
      split
      · rfl
      · rw [hnotAfter]

/-- So the same change is found. -/
theorem findRecentChange_reordered {ctx ctx' : Context} (now : Timestamp)
    (hanchor : SameMoment ctx.firstFailureTime ctx'.firstFailureTime)
    (hsecrets : ctx'.secretChanges = ctx.secretChanges)
    (hsync : ctx'.argocdHistory = ctx.argocdHistory) (hdeploy : ctx'.deployments = ctx.deployments) :
    findRecentChange ctx' now.value = findRecentChange ctx now.value := by
  -- the two anchors may be written differently, but they are the same moment
  have hmoment : (ctx'.firstFailureTime.getD now.value).instant =
        (ctx.firstFailureTime.getD now.value).instant ∧
      (ctx'.firstFailureTime.getD now.value).aware = (ctx.firstFailureTime.getD now.value).aware := by
    obtain ⟨hinstant, haware, haware'⟩ := hanchor
    cases hd : ctx.firstFailureTime with
    | none =>
        cases hd' : ctx'.firstFailureTime with
        | none => exact ⟨rfl, rfl⟩
        | some d' => rw [hd, hd'] at hinstant; cases hinstant
    | some d =>
        cases hd' : ctx'.firstFailureTime with
        | none => rw [hd, hd'] at hinstant; cases hinstant
        | some d' =>
            rw [hd, hd'] at hinstant
            exact ⟨Option.some.inj hinstant, (haware' d' hd').trans (haware d hd).symm⟩
  unfold findRecentChange
  simp only [candidatesOf_moment hmoment.1 hmoment.2, hsecrets, hsync, hdeploy]

/-! ## The collection

`collect_context` is split behind the resolution, since what comes after it depends on the names
through their set and the first of them. -/

/-- `collect_context`, once the subject is resolved. -/
def collectResolved (cl : Client) (clusterName ns subject : String) (now : Timestamp)
    (resolved : Bool) (r : Resolution) : Except Exc Context := do
  let allPods ← cl.attempt .podList (.ok (cl.namespaces ns).pods)
  let results := fanOut cl ns (targetPod r.podNames)
  let pdbs ← selectPdbs r.selectorLabels results.pdbs
  let anchor ← failureAnchor (selectEvents subject r.podNames results.events)
    ((allPods.filter fun p => r.podNames.contains p.name).map podInfo)
    (podStartTime allPods (targetPod r.podNames))
  let ctx := bundle cl clusterName ns subject resolved r allPods results pdbs anchor
  let recent ← findRecentChange ctx now.value
  pure { ctx with recentChange := recent }

/-- The collection, in two parts. -/
theorem collectFrom_resolved : collectFrom cl clusterName ns subject now =
    collectResolved cl clusterName ns subject now (resolveSubject cl ns subject).1
      (resolveSubject cl ns subject).2 := rfl

/-- The same answers, but for the order of events and nodes, and for the notes of failed reads. -/
structure FannedAlike (x x' : FanOut) : Prop where
  events       : x'.events.Perm x.events
  nodes        : x'.nodes.Perm x.nodes
  secrets      : x'.secrets = x.secrets
  services     : x'.services = x.services
  hpas         : x'.hpas = x.hpas
  pdbs         : x'.pdbs = x.pdbs
  describe     : x'.describe = x.describe
  logs         : x'.logs = x.logs
  previousLogs : x'.previousLogs = x.previousLogs

namespace Reordered

theorem degrade_perm (h : Reordered cl cl' ns) {α : Type} (read : Kube.Read) (key : String)
    {answer answer' : List α} (hperm : answer'.Perm answer) :
    (degrade key [] (cl'.attempt read (.ok answer'))).1.Perm
      (degrade key [] (cl.attempt read (.ok answer))).1 := by
  rw [h.attempt]
  unfold Client.attempt
  cases cl.faults read with
  | some e => exact List.Perm.nil
  | none => exact hperm

theorem fanOut (h : Reordered cl cl' ns) (target : Option String) :
    FannedAlike (fanOut cl ns target) (fanOut cl' ns target) := by
  have hsecrets := h.same Kube.Namespace.secrets fun _ => rfl
  have hservices := h.same Kube.Namespace.services fun _ => rfl
  have hhpas := h.same Kube.Namespace.hpas fun _ => rfl
  have hpdbs := h.same Kube.Namespace.pdbs fun _ => rfl
  have hdescribe : kubernetesDescribe cl' ns = kubernetesDescribe cl ns := by
    funext pod
    rw [kubernetesDescribe, h.readPod, kubernetesDescribe]
  unfold Rca.fanOut  -- every read but the events' and the nodes' gives the same answer
  dsimp only
  rw [hsecrets, hservices, hhpas, hpdbs, hdescribe, h.readLogs, h.readLogs, h.attempt .secrets,
    h.attempt .services, h.attempt .hpas, h.attempt .pdbs]
  exact
    { events := h.degrade_perm .events "events" h.events
      nodes := h.degrade_perm .nodes "nodes" h.nodes
      secrets := rfl
      services := rfl
      hpas := rfl
      pdbs := rfl
      describe := rfl
      logs := rfl
      previousLogs := rfl }

theorem relevant {names names' : List String} (h : names'.Perm names) (subject name : String) :
    relevant subject names' name = relevant subject names name := by
  rw [Rca.relevant, h.contains_eq, h.any_eq, Rca.relevant]

theorem selectEvents {names names' : List String} (hnames : names'.Perm names)
    {events events' : List Kube.Event} (hevents : events'.Perm events) (subject : String) :
    (selectEvents subject names' events').Perm (selectEvents subject names events) := by
  unfold Rca.selectEvents
  simp only [relevant hnames]
  exact (hevents.filter _).map _

theorem podInfos {names names' : List String} (hnames : names'.Perm names) {pods pods' : List Pod}
    (hpods : pods'.Perm pods) :
    ((pods'.filter fun p => names'.contains p.name).map podInfo).Perm
      ((pods.filter fun p => names.contains p.name).map podInfo) := by
  simp only [hnames.contains_eq]
  exact (hpods.filter _).map _

/-- What is put together from such answers. -/
theorem bundle (h : Reordered cl cl' ns) {names names' : List String} (hnames : names'.Perm names)
    (htarget : targetPod names' = targetPod names) {x x' : FanOut} (hfanned : FannedAlike x x')
    (resolved : Bool) (r : Resolution) (pdbs : List PdbInfo) (anchor anchor' : Option DateTime)
    (recent : Option Change) :
    Shuffled
      { bundle cl clusterName ns subject resolved { r with podNames := names }
          (cl.namespaces ns).pods x pdbs anchor with recentChange := recent }
      { bundle cl' clusterName ns subject resolved { r with podNames := names' }
          (cl'.namespaces ns).pods x' pdbs anchor' with recentChange := recent } where
  front :=
    { pods := podInfos hnames h.pods
      describe := hfanned.describe
      logs := hfanned.logs
      previousLogs := hfanned.previousLogs
      initLogs := by
        unfold Rca.bundle
        dsimp only
        -- the init container's logs are of the pod described, the same on both sides
        rw [htarget, hfanned.describe, h.readLogs]
      services := congrArg some hfanned.services }
  rest :=
    { pods := podInfos hnames h.pods
      events := selectEvents hnames hfanned.events subject
      job := rfl
      hpas := by
        unfold Rca.bundle
        dsimp only
        rw [hfanned.hpas]
      pdbs := rfl }
  recentChange := rfl

/-- **What is collected with the same pod in front** differs in the order of lists alone. -/
theorem collectResolved (h : Reordered cl cl' ns) {names names' : List String}
    (hnames : names'.Perm names) (htarget : targetPod names' = targetPod names) (resolved : Bool)
    (r : Resolution) :
    Related Shuffled
      (collectResolved cl clusterName ns subject now resolved { r with podNames := names })
      (collectResolved cl' clusterName ns subject now resolved { r with podNames := names' }) := by
  have hfanned := h.fanOut (targetPod names)
  have haware := aware_selectEvents subject names (Rca.fanOut cl ns (targetPod names)).events
  -- the list of pods fails on both sides or on neither
  have hlisted : Related (fun pods pods' => pods = (cl.namespaces ns).pods ∧
      pods' = (cl'.namespaces ns).pods) (cl.attempt .podList (.ok (cl.namespaces ns).pods))
      (cl'.attempt .podList (.ok (cl'.namespaces ns).pods)) := by
    rw [h.attempt]
    unfold Client.attempt
    cases cl.faults .podList with
    | some e => exact .error e
    | none => exact .ok ⟨rfl, rfl⟩
  have hstart : podStartTime (cl'.namespaces ns).pods (targetPod names) =
      podStartTime (cl.namespaces ns).pods (targetPod names) := by
    unfold podStartTime
    simp only [h.find?_pod]
  unfold Rca.collectResolved
  dsimp only
  rw [htarget]
  generalize Rca.fanOut cl ns (targetPod names) = x at hfanned haware
  generalize Rca.fanOut cl' ns (targetPod names) = x' at hfanned
  have hkept := selectEvents hnames hfanned.events subject
  have hpods := podInfos hnames h.pods
  refine hlisted.bind fun pods pods' => ?_
  rintro ⟨rfl, rfl⟩
  -- the budgets and the start of the chosen pod do not depend on the order
  rw [hfanned.pdbs, hstart]
  refine (Related.of_eq rfl).bind fun pdbs pdbs' => ?_
  rintro rfl
  refine (failureAnchor_reordered hkept haware hpods _).bind fun anchor anchor' hanchor => ?_
  -- the blamed change depends on the anchor's moment only
  have hrecent : findRecentChange (Rca.bundle cl' clusterName ns subject resolved
        { r with podNames := names' } (cl'.namespaces ns).pods x' pdbs anchor') now.value =
      findRecentChange (Rca.bundle cl clusterName ns subject resolved { r with podNames := names }
        (cl.namespaces ns).pods x pdbs anchor) now.value :=
    findRecentChange_reordered now hanchor hfanned.secrets rfl rfl
  refine (Related.of_eq hrecent.symm).bind fun recent recent' => ?_
  rintro rfl
  exact .ok (h.bundle hnames htarget hfanned ..)

end Reordered

end SreAgent.Rca
