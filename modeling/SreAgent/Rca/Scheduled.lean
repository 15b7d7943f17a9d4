import SreAgent.Rca.Masking

/-!
# Pending, but scheduled

A pod is `Pending` until all its containers run: while images are pulled, while a config error keeps
a container from being created, while volumes are mounted. `pending_unschedulable` leaves out one of
these states, a failing init container, and blames the scheduler for the others (`notBlamed_iff`).

The phase is a summary that Kubernetes itself defines so widely. Whether the scheduler has done its
work is in `spec.nodeName`, which the detector does not look at.
-/

namespace SreAgent.Rca

open Kube (Client Pod)

variable {cl : Client} {ns subject : String}

/-! ## The detector without an event

With no event to go by, what is left is the phase, and the one exception the source makes. -/

/-- The scheduler has placed the subject: no `FailedScheduling` event is kept, and every pending pod
has its node. -/
structure Placed (cl : Client) (ns subject : String) : Prop where
  quiet    : ∀ e ∈ keptEvents cl ns subject, e.reason ≠ some "FailedScheduling"
  assigned : ∀ p ∈ subjectPods cl ns subject, p.phase = some "Pending" → p.nodeName.isSome = true

/-- Without an event the detector goes by the phase alone, unless an init container fails. -/
theorem pending_fires_iff {ctx : Context}
    (hquiet : ∀ e ∈ ctx.events, e.reason ≠ some "FailedScheduling") :
    (∃ h, pendingUnschedulable ctx = some h) ↔
      (∃ p ∈ ctx.pods, p.phase = some "Pending") ∧ ∀ p ∈ ctx.pods, p.initFailing = false := by
  rw [← Option.ne_none_iff_exists', Ne, pendingUnschedulable_eq_none, and_iff_right hquiet]
  push Not
  simp only [Bool.not_eq_true, and_comm]

/-- And what it says then is that no node was found. -/
theorem pending_issue {ctx : Context} {h : Hypothesis}
    (hquiet : ∀ e ∈ ctx.events, e.reason ≠ some "FailedScheduling")
    (hd : pendingUnschedulable ctx = some h) : h.issue = "Pending Pods" := by
  have hmsg : Py.containsAny (Py.lower "") ["persistentvolumeclaim", "pvc", "volume node affinity"] =
      false := by decide
  unfold pendingUnschedulable at hd
  rw [withReason_eq_nil.mpr hquiet] at hd
  dsimp only [List.head?_nil, Option.map_none, Option.getD_none] at hd
  split at hd
  · cases hd
  split at hd
  · cases hd
  obtain rfl := Option.some.inj hd
  simp only [hmsg, apply_ite Hypothesis.issue, Bool.false_eq_true, if_false, ite_self]

/-- **Exactly when a placed subject is not called unschedulable**: nothing could be collected, no pod
of the subject is pending, or one of its pods has a failing init container. -/
theorem notBlamed_iff {w : World} {cluster : Option String} {name : String}
    (hreach : w.reach cluster ns = .ok (name, cl)) (hplaced : Placed cl ns subject) :
    (∀ ctx, collectContext w cluster ns subject = .ok ctx →
      ∀ h ∈ evaluate ctx, h.issue ≠ "Pending Pods") ↔
    (cl.faults .podList ≠ none ∨ MeetsNullSelector cl ns subject ∨
      (∀ p ∈ subjectPods cl ns subject, p.phase ≠ some "Pending") ∨
        ∃ p ∈ subjectPods cl ns subject, (podInfo p).initFailing = true) := by
  have hlisted : (pendingUnschedulable, ["Pending Pods", "Pending Pods (PVC)"]) ∈
      issuesByDetector := by simp [issuesByDetector]
  rw [collectContext_of_reach hreach]
  constructor
  · intro hall
    -- otherwise a pending pod is listed and no init container fails: the detector fires
    by_contra hnot
    push Not at hnot
    obtain ⟨hpods, hpdbs, ⟨p, hp, hphase⟩, hinit⟩ := hnot
    obtain ⟨pdbs, anchor, recent, hctx, -⟩ := collectFrom_ok hpods hpdbs name w.now
    have hfires := (@pending_fires_iff
      { bundleOf cl name ns subject pdbs anchor with recentChange := recent } hplaced.quiet).mpr
    obtain ⟨h, hd⟩ := hfires ⟨⟨podInfo p, List.mem_map_of_mem hp, hphase⟩, by
      rintro q hq
      obtain ⟨p', hp', rfl⟩ := List.mem_map.mp hq
      exact Bool.eq_false_iff.mpr (hinit p' hp')⟩
    obtain ⟨h', hh', hissue⟩ := (reported_iff hlisted).mpr ⟨h, hd⟩
    have hd' := detector_of_issue hh' hlisted hissue
    exact hall _ hctx h' hh' (pending_issue hplaced.quiet hd')
  · intro hcond ctx hctx h hh hissue
    obtain ⟨hpods, hpdbs, pdbs, anchor, recent, rfl, -⟩ := collectFrom_inv hctx
    -- the issue names its detector, and the detector says which pods it saw
    have hd := detector_of_issue hh hlisted (by rw [hissue]; exact List.mem_cons_self ..)
    obtain ⟨⟨q, hq, hphase⟩, hinit⟩ := (pending_fires_iff hplaced.quiet).mp ⟨h, hd⟩
    obtain ⟨p, hp, rfl⟩ := List.mem_map.mp hq
    rcases hcond with hfault | hnull | hnone | ⟨p', hp', hfailing⟩
    · exact hfault hpods
    · exact hpdbs hnull
    · exact hnone p hp hphase
    · rw [hinit _ (List.mem_map_of_mem hp')] at hfailing
      cases hfailing

/-- A pod on its node, waiting for an image. -/
def pullingPod : Pod where
  name := "web-0"
  phase := some "Pending"
  containers := [{ name := "app" }]
  containerStatuses := [{ name := "app", waiting := some ⟨some "ImagePullBackOff"⟩ }]
  nodeName := some "node-1"

def pullingClient : Client where
  namespaces _ := { pods := [pullingPod] }

/-- It is the subject's only one, and has its node. -/
theorem pulling_pods : subjectPods pullingClient "shop" "web-0" = [pullingPod] := by decide

theorem pulling_placed : Placed pullingClient "shop" "web-0" := by
  constructor
  · intro e he
    cases he
  · rw [pulling_pods]
    intro p hp _
    rw [List.mem_singleton.mp hp]
    rfl

/-- The condition at this cluster. -/
theorem notBlamed_iff_pulling :
    (∀ ctx, collectContext (demoWorld pullingClient) (some "prod") "shop" "web-0" = .ok ctx →
      ∀ h ∈ evaluate ctx, h.issue ≠ "Pending Pods") ↔
    (pullingClient.faults .podList ≠ none ∨ MeetsNullSelector pullingClient "shop" "web-0" ∨
      (∀ p ∈ subjectPods pullingClient "shop" "web-0", p.phase ≠ some "Pending") ∨
        ∃ p ∈ subjectPods pullingClient "shop" "web-0", (podInfo p).initFailing = true) :=
  notBlamed_iff rfl pulling_placed

/-- The scheduler is blamed for the image. -/
theorem pulling_blamed :
    Placed pullingClient "shop" "web-0" ∧
      ∃ ctx, collectContext (demoWorld pullingClient) (some "prod") "shop" "web-0" = .ok ctx ∧
        ∃ h ∈ evaluate ctx, h.issue = "Pending Pods" := by
  have hpdbs : ¬ MeetsNullSelector pullingClient "shop" "web-0" := fun h => h.1 (by decide)
  obtain ⟨pdbs, anchor, recent, hctx, -⟩ := collectFrom_ok rfl hpdbs "prod" demoNow
  refine ⟨pulling_placed, _, (collectContext_of_reach rfl).trans hctx, ?_⟩
  have hfires := (@pending_fires_iff
    { bundleOf pullingClient "prod" "shop" "web-0" pdbs anchor with recentChange := recent }
    pulling_placed.quiet).mpr
  -- the subject is the pod itself, so it is the only one listed
  have hmem : ∀ q, q ∈ (bundleOf pullingClient "prod" "shop" "web-0" pdbs anchor).pods ↔
      q = podInfo pullingPod := by
    intro q
    show q ∈ (subjectPods pullingClient "shop" "web-0").map podInfo ↔ _
    rw [pulling_pods, List.map_singleton, List.mem_singleton]
  obtain ⟨h, hd⟩ := hfires ⟨⟨podInfo pullingPod, (hmem _).mpr rfl, rfl⟩, by
    intro q hq
    rw [(hmem q).mp hq]
    rfl⟩
  exact ⟨h, mem_evaluate.mpr ⟨_, by simp [allDetectors], hd⟩, pending_issue pulling_placed.quiet hd⟩

end SreAgent.Rca
