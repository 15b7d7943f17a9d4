import SreAgent.Rca.Collected
import SreAgent.Rca.Issues

/-!
# Which container failures are seen

A pod is summed up by the first of its containers that waits and the first that was terminated; only
the first pod is described container by container. A failure elsewhere is masked by the containers
before it (`unmasked_iff`).

`collect_context` reduces a pod to one waiting reason and one terminated reason before any detector
runs. Only the pod in front is described in full. The iff is between what occurs in some container
and what survives this reduction.
-/

namespace SreAgent.Rca

open Kube (Client ContainerStatus Pod)

/-- The failures a container can have, by their signatures. -/
inductive FailureKind where
  | oomKilled
  | imagePull
  | containerConfig
  | crashLoop
  deriving DecidableEq

namespace FailureKind

def reasons : FailureKind → List String
  | .oomKilled       => ["OOMKilled"]
  | .imagePull       => ["ErrImagePull", "ImagePullBackOff"]
  | .containerConfig => ["CreateContainerConfigError", "CreateContainerError"]
  | .crashLoop       => ["CrashLoopBackOff"]

/-- The issues it is reported as. -/
def issues : FailureKind → List String
  | .oomKilled       => ["OOMKilled"]
  | .imagePull       => ["ErrImagePull", "ImagePullBackOff"]
  | .containerConfig => ["CreateContainerConfigError", "CreateContainerError"]
  | .crashLoop       => ["CrashLoopBackOff", missingDependency]

/-- The detector that looks for it. -/
def detector : FailureKind → Context → Option Hypothesis
  | .oomKilled       => Rca.oomKilled
  | .imagePull       => Rca.imagePull
  | .containerConfig => containerConfigError
  | .crashLoop       => crashloopDbConnection

/-- The container is in the state that the failure shows in. -/
def inState : FailureKind → ContainerStatus → Bool
  | .oomKilled, st => st.lastTerminated.isSome
  | _,          st => st.waiting.isSome

def reason : FailureKind → ContainerStatus → Option String
  | .oomKilled, st => st.lastTerminated.bind (·.reason)
  | _,          st => st.waiting.bind (·.reason)

/-- The container has the failure. -/
def Afflicts (k : FailureKind) (st : ContainerStatus) : Prop :=
  ∃ r ∈ k.reasons, k.reason st = some r

end FailureKind

variable {cl : Client} {ns subject : String}

def subjectPods (cl : Client) (ns subject : String) : List Pod :=
  (cl.namespaces ns).pods.filter fun p => (podNamesOf cl ns subject).contains p.name

def firstPod (cl : Client) (ns subject : String) : Option Pod :=
  (targetPod (podNamesOf cl ns subject)).bind fun name =>
    (cl.namespaces ns).pods.find? fun p => p.name == name

/-- Some container of some pod of the subject has the failure. This is what is the case in the
cluster, before anything is summed up. -/
def Occurs (cl : Client) (ns subject : String) (k : FailureKind) : Prop :=
  ∃ p ∈ subjectPods cl ns subject, ∃ st ∈ p.containerStatuses, k.Afflicts st

/-- The one reason by which a pod is summed up: that of its first container in the state, or the
pod's own if none waits. -/
def FailureKind.overview (k : FailureKind) (p : Pod) : Option String :=
  match p.containerStatuses.find? k.inState with
  | some st => k.reason st
  | none    => if k = .oomKilled then none else p.reason

/-- A container of the pod has the failure, or restarts on errors, which is taken for a crash
loop. -/
def Described (k : FailureKind) (p : Pod) : Prop :=
  ∃ c ∈ p.containers, ∃ st, statusOf p.containerStatuses c.name = some st ∧
    (k.Afflicts st ∨ k = .crashLoop ∧ 3 ≤ st.restartCount ∧
      st.lastTerminated.bind (·.reason) = some "Error")

/-- The failure shows in the summary of some pod, or in the description of the first one. This is
all that the detectors are shown of the pods. -/
def Visible (cl : Client) (ns subject : String) (k : FailureKind) : Prop :=
  (∃ p ∈ subjectPods cl ns subject, ∃ r ∈ k.reasons, k.overview p = some r) ∨
    ∃ p, firstPod cl ns subject = some p ∧ Described k p

/-! ## When a detector fires

All four detectors look in the same two places, the summaries of pods and the description. So one
predicate with the kind as parameter says when each of them fires. -/

/-- A reason that is looked for is not empty. -/
theorem nonEmpty_eq_some {s : Option String} {r : String} (hr : r ≠ "") :
    nonEmpty s = some r ↔ s = some r := by
  rw [nonEmpty, Option.filter_eq_some_iff]
  simp [hr]

/-- Waiting reasons come from descriptions and from summaries. -/
theorem mem_waitingReasons {ctx : Context} {r : String} (hr : r ≠ "") :
    r ∈ waitingReasons ctx ↔ (∃ c ∈ ctx.describe.containers, c.waitingReason = some r) ∨
      ∃ p ∈ ctx.pods, p.reason = some r := by
  unfold waitingReasons
  simp only [List.mem_append, List.mem_filterMap, nonEmpty_eq_some hr]

/-- What the summary of a pod says, and what the description of a container says. -/
def FailureKind.ofPod : FailureKind → PodInfo → Option String
  | .oomKilled, p => p.lastTerminated
  | _,          p => p.reason

def FailureKind.ofContainer : FailureKind → ContainerInfo → Option String
  | .oomKilled, c => c.lastTerminatedReason
  | _,          c => c.waitingReason

/-- Where the detector of a failure finds it. -/
def Fires (k : FailureKind) (ctx : Context) : Prop :=
  (∃ p ∈ ctx.pods, ∃ r ∈ k.reasons, k.ofPod p = some r) ∨
    ∃ c ∈ ctx.describe.containers, (∃ r ∈ k.reasons, k.ofContainer c = some r) ∨
      k = .crashLoop ∧ 3 ≤ c.restartCount ∧ c.lastTerminatedReason = some "Error"

/-- A detector by waiting reasons has a hit in one of the two. -/
theorem hits_ne_nil {ctx : Context} {wanted : List String} (hwanted : ∀ r ∈ wanted, r ≠ "") :
    hits ctx wanted ≠ [] ↔ (∃ p ∈ ctx.pods, ∃ r ∈ wanted, p.reason = some r) ∨
      ∃ c ∈ ctx.describe.containers, ∃ r ∈ wanted, c.waitingReason = some r := by
  unfold hits
  simp only [ne_eq, List.filter_eq_nil_iff, List.contains_iff_mem, not_forall, not_not, exists_prop]
  constructor
  · rintro ⟨r, hr, hmem⟩
    rcases (mem_waitingReasons (hwanted r hr)).mp hmem with ⟨c, hc, heq⟩ | ⟨p, hp, heq⟩
    · exact .inr ⟨c, hc, r, hr, heq⟩
    · exact .inl ⟨p, hp, r, hr, heq⟩
  · rintro (⟨p, hp, r, hr, heq⟩ | ⟨c, hc, r, hr, heq⟩)
    · exact ⟨r, hr, (mem_waitingReasons (hwanted r hr)).mpr (.inr ⟨p, hp, heq⟩)⟩
    · exact ⟨r, hr, (mem_waitingReasons (hwanted r hr)).mpr (.inl ⟨c, hc, heq⟩)⟩

/-- Image pulls, configurations, lack of memory and crash loops are found so. -/
theorem imagePull_fires (ctx : Context) :
    (∃ h, imagePull ctx = some h) ↔ Fires .imagePull ctx := by
  have hhits : hits ctx ["ErrImagePull", "ImagePullBackOff"] ≠ [] ↔ Fires .imagePull ctx := by
    refine (hits_ne_nil (by simp)).trans ?_
    simp [Fires, FailureKind.reasons, FailureKind.ofPod, FailureKind.ofContainer]
  rw [← hhits]
  unfold imagePull
  split
  · next hnil => simp [hnil]
  · next hit rest hcons => simp [hcons]

theorem containerConfig_fires (ctx : Context) :
    (∃ h, containerConfigError ctx = some h) ↔ Fires .containerConfig ctx := by
  have hhits : hits ctx ["CreateContainerConfigError", "CreateContainerError"] ≠ [] ↔
      Fires .containerConfig ctx := by
    refine (hits_ne_nil (by simp)).trans ?_
    simp [Fires, FailureKind.reasons, FailureKind.ofPod, FailureKind.ofContainer]
  rw [← hhits]
  unfold containerConfigError
  split
  · next hnil => simp [hnil]
  · next hit rest hcons => simp [hcons]

theorem oomKilled_fires (ctx : Context) :
    (∃ h, oomKilled ctx = some h) ↔ Fires .oomKilled ctx := by
  have hlast : some "OOMKilled" ∈ ctx.describe.containers.map ContainerInfo.lastTerminatedReason ++
      ctx.pods.map PodInfo.lastTerminated ↔ Fires .oomKilled ctx := by
    simp [Fires, FailureKind.reasons, FailureKind.ofPod, FailureKind.ofContainer, or_comm]
  rw [← hlast]
  unfold oomKilled
  dsimp only
  split
  · next hnone =>
    simp only [Bool.not_eq_true', List.contains_iff_mem, ← Bool.not_eq_true] at hnone
    simp [hnone]
  · next hsome =>
    simp only [Bool.not_eq_true', Bool.not_eq_false, List.contains_iff_mem] at hsome
    simp [hsome]

theorem crashLoop_fires (ctx : Context) :
    (∃ h, crashloopDbConnection ctx = some h) ↔ Fires .crashLoop ctx := by
  have hloop : isCrashlooping ctx = true ↔ Fires .crashLoop ctx := by
    unfold isCrashlooping Fires
    rw [Bool.or_eq_true, List.contains_iff_mem, mem_waitingReasons (by simp), List.any_eq_true]
    simp only [FailureKind.reasons, FailureKind.ofPod, FailureKind.ofContainer, List.mem_singleton,
      exists_eq_left, Bool.and_eq_true, decide_eq_true_eq, beq_iff_eq, true_and]
    -- three places can say it: a container's wait, the pod's own reason, a log read that failed
    constructor
    · rintro ((⟨c, hc, hwaiting⟩ | hpod) | ⟨c, hc, herror⟩)
      · exact .inr ⟨c, hc, .inl hwaiting⟩
      · exact .inl hpod
      · exact .inr ⟨c, hc, .inr herror⟩
    · rintro (hpod | ⟨c, hc, hwaiting | herror⟩)
      · exact .inl (.inr hpod)
      · exact .inl (.inl ⟨c, hc, hwaiting⟩)
      · exact .inr ⟨c, hc, herror⟩
  rw [← hloop, ← crashloopDbConnection_isSome, Option.isSome_iff_exists]

/-- Each kind has its place in the table of issues. -/
theorem FailureKind.listed (k : FailureKind) : (k.detector, k.issues) ∈ issuesByDetector := by
  cases k <;> simp [FailureKind.detector, FailureKind.issues, issuesByDetector]

/-- **When a failure is reported**: exactly if the detector of its kind fires on the context. -/
theorem reported_iff_fires (k : FailureKind) (ctx : Context) :
    (∃ h ∈ evaluate ctx, h.issue ∈ k.issues) ↔ Fires k ctx := by
  refine (reported_iff k.listed).trans ?_
  cases k with
  | oomKilled => exact oomKilled_fires ctx
  | imagePull => exact imagePull_fires ctx
  | containerConfig => exact containerConfig_fires ctx
  | crashLoop => exact crashLoop_fires ctx

/-! ## What the detectors get to see

The summary and the description, in terms of the container statuses they are made of. -/

/-- Taking the first result is taking the result of the first that has one. -/
theorem findSome?_eq_bind_find? {α β : Type} (f : α → Option β) (l : List α) :
    l.findSome? f = (l.find? fun x => (f x).isSome).bind f := by
  induction l with
  | nil => rfl
  | cons x xs ih =>
      cases hx : f x with
      | none => simp [hx, ih]
      | some y => simp [hx]

/-- The reason in the summary, by the first container in the state. -/
theorem overview_eq (k : FailureKind) (p : Pod) :
    k.overview p = (p.containerStatuses.find? k.inState).elim
      (if k = .oomKilled then none else p.reason) k.reason := by
  unfold FailureKind.overview
  cases p.containerStatuses.find? k.inState <;> rfl

/-- The detectors see that reason. -/
theorem ofPod_podInfo (k : FailureKind) (p : Pod) : k.ofPod (podInfo p) = k.overview p := by
  have hwaiting : (podInfo p).reason =
      (p.containerStatuses.find? fun st => st.waiting.isSome).elim p.reason
        fun st => st.waiting.bind (·.reason) := by
    unfold podInfo
    dsimp only
    -- the source's `next(…)` stops at the first container that waits at all
    rw [findSome?_eq_bind_find?]
    cases hfind : p.containerStatuses.find? fun st => st.waiting.isSome with
    | none => rfl
    | some st =>
        have hsome : st.waiting.isSome = true := by simpa using List.find?_some hfind
        obtain ⟨w, hw⟩ := Option.isSome_iff_exists.mp hsome
        simp [hw]
  have hterminated : (podInfo p).lastTerminated =
      (p.containerStatuses.find? fun st => st.lastTerminated.isSome).elim none
        fun st => st.lastTerminated.bind (·.reason) := by
    show (p.containerStatuses.findSome? (·.lastTerminated)).bind (·.reason) = _
    rw [findSome?_eq_bind_find?]
    cases p.containerStatuses.find? fun st => st.lastTerminated.isSome <;> rfl
  rw [overview_eq]
  cases k with
  | oomKilled => exact hterminated
  | imagePull => exact hwaiting
  | containerConfig => exact hwaiting
  | crashLoop => exact hwaiting

/-- The description of a pod, container by container. -/
theorem described_iff (k : FailureKind) (p : Pod) :
    (∃ c ∈ (describePod p).containers, (∃ r ∈ k.reasons, k.ofContainer c = some r) ∨
      k = .crashLoop ∧ 3 ≤ c.restartCount ∧ c.lastTerminatedReason = some "Error") ↔
    Described k p := by
  unfold Described describePod
  dsimp only
  simp only [List.mem_map, exists_exists_and_eq_and]
  refine exists_congr fun c => and_congr_right fun _ => ?_
  cases hstatus : statusOf p.containerStatuses c.name with
  | none => cases k <;> simp [FailureKind.ofContainer]
  | some st =>
      simp only [Option.some.injEq, exists_eq_left', FailureKind.Afflicts]
      cases k <;> simp [FailureKind.ofContainer, FailureKind.reason]

/-! ## The diagnosis

Visibility in the cluster is visibility in the context, if all reads are answered. -/

/-- With all reads answered, the description is that of the first pod. -/
theorem results_describe (hreads : ∀ read, cl.faults read = none) :
    (resultsOf cl ns subject).describe = ((firstPod cl ns subject).map describePod).getD {} := by
  unfold resultsOf firstPod
  cases targetPod (podNamesOf cl ns subject) with
  | none => rfl
  | some name =>
      show (degrade "describe" {} (kubernetesDescribe cl ns name)).1 = _
      unfold kubernetesDescribe Client.readPod Client.attempt Kube.byName
      rw [hreads, Option.bind_some]
      dsimp only
      cases (cl.namespaces ns).pods.find? fun p => p.name == name <;> rfl

/-- **A kind of failure is reported iff it is visible.** -/
theorem reported_iff_visible {clusterName : String} {now : Kube.Timestamp} {ctx : Context}
    (hreads : ∀ read, cl.faults read = none)
    (h : collectFrom cl clusterName ns subject now = .ok ctx) (k : FailureKind) :
    (∃ hyp ∈ evaluate ctx, hyp.issue ∈ k.issues) ↔ Visible cl ns subject k := by
  obtain ⟨-, -, pdbs, anchor, recent, rfl, -⟩ := collectFrom_inv h
  rw [reported_iff_fires]
  unfold Fires Visible
  apply or_congr  -- the listing shows every pod by one container, the description one pod in full
  · show (∃ p ∈ (subjectPods cl ns subject).map podInfo, _) ↔ _
    simp only [List.mem_map, exists_exists_and_eq_and, ofPod_podInfo]
  · show (∃ c ∈ (resultsOf cl ns subject).describe.containers, _) ↔ _
    rw [results_describe hreads]
    cases firstPod cl ns subject with
    | none => simp
    | some p => simpa using described_iff k p

/-- **Exactly when no failure is masked**: every kind of failure that some container has shows in
the summary of some pod or in the description of the first one, and no budget without selector is
met, which makes the collection raise. -/
theorem unmasked_iff {w : World} {cluster : Option String} {name : String}
    (hreach : w.reach cluster ns = .ok (name, cl)) (hreads : ∀ read, cl.faults read = none) :
    (∀ k, Occurs cl ns subject k → ∃ ctx, collectContext w cluster ns subject = .ok ctx ∧
      ∃ h ∈ evaluate ctx, h.issue ∈ k.issues) ↔
    ∀ k, Occurs cl ns subject k →
      ¬ MeetsNullSelector cl ns subject ∧ Visible cl ns subject k := by
  rw [collectContext_of_reach hreach]
  refine forall_congr' fun k => imp_congr_right fun _ => ?_
  constructor
  · rintro ⟨ctx, hctx, hreported⟩
    obtain ⟨-, hpdbs, -⟩ := collectFrom_inv hctx
    exact ⟨hpdbs, (reported_iff_visible hreads hctx k).mp hreported⟩
  · rintro ⟨hpdbs, hvisible⟩
    obtain ⟨pdbs, anchor, recent, hctx, -⟩ := collectFrom_ok (hreads _) hpdbs name w.now
    exact ⟨_, hctx, (reported_iff_visible hreads hctx k).mpr hvisible⟩

/-- A replica with a sidecar and an application. -/
def replica (name : String) (statuses : List ContainerStatus) : Pod where
  name := name
  labels := [("app", "web")]
  containers := [{ name := "proxy" }, { name := "app" }]
  containerStatuses := statuses

def readyReplica : Pod := replica "web-a"
  [{ name := "proxy", ready := true }, { name := "app", ready := true }]

/-- The application's image cannot be pulled, and the sidecar before it restarts. -/
def stuckReplica : Pod := replica "web-b"
  [{ name := "proxy", waiting := some ⟨some "CrashLoopBackOff"⟩ },
   { name := "app", waiting := some ⟨some "ImagePullBackOff"⟩ }]

/-- Two replicas, of which the one in front is ready. -/
def sidecarFirst : Client where
  namespaces _ :=
    { deployments := [⟨"web", { matchLabels := [("app", "web")], clean := by decide }⟩]
      pods := [readyReplica, stuckReplica]
      podLog := fun _ _ _ => .ok "" }

/-- The condition at this cluster. -/
theorem unmasked_iff_sidecar :
    (∀ k, Occurs sidecarFirst "shop" "web" k → ∃ ctx,
      collectContext (demoWorld sidecarFirst) (some "prod") "shop" "web" = .ok ctx ∧
        ∃ h ∈ evaluate ctx, h.issue ∈ k.issues) ↔
    ∀ k, Occurs sidecarFirst "shop" "web" k →
      ¬ MeetsNullSelector sidecarFirst "shop" "web" ∧ Visible sidecarFirst "shop" "web" k :=
  unmasked_iff rfl fun _ => rfl

/-- **The image that cannot be pulled is masked** by the sidecar before it. -/
theorem image_pull_masked :
    (∀ read, sidecarFirst.faults read = none) ∧ (resolveSubject sidecarFirst "shop" "web").1 = true ∧
      Occurs sidecarFirst "shop" "web" .imagePull ∧
      ∃ ctx, collectContext (demoWorld sidecarFirst) (some "prod") "shop" "web" = .ok ctx ∧
        ∀ h ∈ evaluate ctx, h.issue ∉ FailureKind.imagePull.issues := by
  -- two replicas of one deployment: the first is ready, the second cannot pull
  have hpods : subjectPods sidecarFirst "shop" "web" = [readyReplica, stuckReplica] := by
    decide +kernel
  have hfirst : firstPod sidecarFirst "shop" "web" = some readyReplica := by decide +kernel
  have hpdbs : ¬ MeetsNullSelector sidecarFirst "shop" "web" := by
    rintro ⟨-, p, hp, -⟩
    cases hp
  obtain ⟨pdbs, anchor, recent, hctx, -⟩ := collectFrom_ok rfl hpdbs "prod" demoNow
  refine ⟨fun _ => rfl, by decide +kernel, ?_, _, (collectContext_of_reach rfl).trans hctx, ?_⟩
  · refine ⟨stuckReplica, by simp [hpods],
      { name := "app", waiting := some ⟨some "ImagePullBackOff"⟩ }, ?_, "ImagePullBackOff", ?_, rfl⟩
    · simp [stuckReplica, replica]
    · simp [FailureKind.reasons]
  · intro h hh hissue
    rcases (reported_iff_visible (fun _ => rfl) hctx .imagePull).mp ⟨h, hh, hissue⟩ with
      ⟨p, hp, r, hr, hoverview⟩ | ⟨p, hp, c, hc, st, hstatus, hdescribed⟩
    · -- in the listing the ready pod has no reason, the other one shows its sidecar's
      have hready : FailureKind.imagePull.overview readyReplica = none := rfl
      have hstuck : FailureKind.imagePull.overview stuckReplica = some "CrashLoopBackOff" := rfl
      rw [hpods] at hp
      simp only [List.mem_cons, List.not_mem_nil, or_false] at hp
      rcases hp with rfl | rfl
      · rw [hready] at hoverview
        cases hoverview
      · rw [hstuck] at hoverview
        obtain rfl := Option.some.inj hoverview
        simp [FailureKind.reasons] at hr
    · -- the description is of the first pod, which waits for nothing
      obtain rfl := Option.some.inj (hfirst.symm.trans hp)
      have hwaiting : ∀ st ∈ readyReplica.containerStatuses, st.waiting = none := by decide
      have hmem : st ∈ readyReplica.containerStatuses :=
        List.mem_reverse.mp (List.mem_of_find?_eq_some hstatus)
      rcases hdescribed with ⟨r, -, hreason⟩ | ⟨hkind, -⟩
      · simp [FailureKind.reason, hwaiting st hmem] at hreason
      · cases hkind

end SreAgent.Rca
