import SreAgent.Lib.Backtrack
import SreAgent.Rca.Collected

/-!
# What a failed attempt leaves behind

A subject is tried as a pod, a Deployment, a StatefulSet and a Job in turn. The last three read an
object and then list its pods, and assign what they have read in between. Where the listing fails, the
labels of a workload or the entry of a Job stay behind and end up in a context of which they are not a
part (`traceless_iff`).

The pattern is general: some attempts over a state, of which the first to succeed counts, each of
which may change the state before it fails. The library `Backtrack` has the notion of a clean run,
and this module says when the four attempts make one.
-/

namespace SreAgent.Rca

open Backtrack (firstOf alone CleanRun)
open Kube (Client Read Labels Pod Timestamp)

variable {cl : Client} {ns subject : String}

/-! ## The attempts

`or` associates, so the four attempts are a list that is tried from the left. -/

def attempts (cl : Client) (ns subject : String) : List Attempt :=
  [tryPod cl ns subject, tryDeployment cl ns subject, tryStatefulSet cl ns subject,
    tryJob cl ns subject]

/-- It does not matter how the alternatives are bracketed, so they are a list, the last of which
stands alone. -/
theorem orTry_assoc (a b c : Attempt) : orTry (orTry a b) c = orTry a (orTry b c) := by
  funext r
  unfold orTry
  cases ha : a r with
  | mk came r' => cases came <;> rfl

theorem orTry_firstOf (a : Attempt) (as : List Attempt) :
    orTry a (firstOf as) = firstOf (a :: as) := by
  funext r
  rw [orTry, firstOf]
  cases ha : a r with
  | mk came r' => cases came <;> rfl

theorem firstOf_singleton (a : Attempt) : firstOf [a] = a := by
  funext r
  rw [firstOf, firstOf]
  cases ha : a r with
  | mk came r' => cases came <;> rfl

/-- The resolution is the first attempt that comes through. -/
theorem resolveSubject_eq (cl : Client) (ns subject : String) :
    resolveSubject cl ns subject = firstOf (attempts cl ns subject) {} := by
  rw [resolveSubject, orTry_assoc, orTry_assoc, ← firstOf_singleton (tryJob cl ns subject),
    orTry_firstOf, orTry_firstOf, orTry_firstOf, attempts]

/-! ## No trace

What should be collected is given by the attempt that succeeded, run by itself from a fresh start. -/

/-- `collect_context` with the outcome of the resolution at hand. -/
def collectWith (cl : Client) (clusterName ns subject : String) (now : Timestamp)
    (resolution : Bool × Resolution) : Except Exc Context := do
  let (resolved, r) := resolution
  let allPods ← cl.attempt .podList (.ok (cl.namespaces ns).pods)
  let results := fanOut cl ns (targetPod r.podNames)
  let pdbs ← selectPdbs r.selectorLabels results.pdbs
  let anchor ← failureAnchor (selectEvents subject r.podNames results.events)
    ((allPods.filter fun p => r.podNames.contains p.name).map podInfo)
    (podStartTime allPods (targetPod r.podNames))
  let ctx := bundle cl clusterName ns subject resolved r allPods results pdbs anchor
  let recent ← findRecentChange ctx now.value
  pure { ctx with recentChange := recent }

/-- The collection, with the resolution in front. -/
theorem collectFrom_eq_with (clusterName : String) (now : Timestamp) :
    collectFrom cl clusterName ns subject now =
      collectWith cl clusterName ns subject now (resolveSubject cl ns subject) := rfl

/-- Failed attempts leave no trace: the context is the one of the successful attempt by itself, and
has nothing of any of them if all fail. -/
structure Traceless (cl : Client) (ns subject : String) : Prop where
  unchanged : CleanRun (attempts cl ns subject) {}
  byItself : ∀ clusterName now, collectFrom cl clusterName ns subject now =
    collectWith cl clusterName ns subject now (alone (attempts cl ns subject) {})
  unresolved : ∀ clusterName now ctx, collectFrom cl clusterName ns subject now = .ok ctx →
    ctx.resolved = false → ctx.pods = [] ∧ ctx.selectorLabels = [] ∧ ctx.job = none

/-- It is all in the attempts. -/
theorem traceless_of_cleanRun (h : CleanRun (attempts cl ns subject) {}) :
    Traceless cl ns subject := by
  refine ⟨h, fun clusterName now => ?_, fun clusterName now ctx hctx hresolved => ?_⟩
  · rw [collectFrom_eq_with, resolveSubject_eq, Backtrack.firstOf_eq_alone h]
  · obtain ⟨-, -, pdbs, anchor, recent, rfl, -⟩ := collectFrom_inv hctx
    have hfailed : (firstOf (attempts cl ns subject) {}).1 = false := by
      rw [← resolveSubject_eq]
      exact hresolved
    -- a clean run that fails ends as it started: with nothing assigned
    have hnone : resolveSubject cl ns subject = (false, {}) := by
      rw [resolveSubject_eq]
      exact Backtrack.firstOf_failed h hfailed
    simp only [bundleOf, bundle, hnone]
    simp

/-! ## What may be left

Between the two reads of an attempt a field is assigned: the labels of a workload, or the entry of a
Job. It is a trace if the second read fails and the field is not what it was. -/

def deploymentOf (cl : Client) (ns subject : String) : Except Exc Kube.Workload :=
  cl.attempt .resolveDeployment
    (Kube.byName Kube.Workload.name (cl.namespaces ns).deployments subject)

def statefulSetOf (cl : Client) (ns subject : String) : Except Exc Kube.Workload :=
  cl.attempt .resolveStatefulSet
    (Kube.byName Kube.Workload.name (cl.namespaces ns).statefulSets subject)

def jobOf (cl : Client) (ns subject : String) : Except Exc Kube.Job :=
  cl.attempt .resolveJob (Kube.byName Kube.Job.name (cl.namespaces ns).jobs subject)

/-- An object is read, and its pods are listed. -/
def ReadThrough {α : Type} (cl : Client) (object : Except Exc α) (podsAt : Read) : Prop :=
  (∃ obj, object = .ok obj) ∧ cl.faults podsAt = none

/-- An object is read, but its pods cannot be listed, and something of it is kept. -/
def LeftBehind {α : Type} (cl : Client) (object : Except Exc α) (podsAt : Read) (kept : α → Prop) :
    Prop :=
  (∃ obj, object = .ok obj ∧ kept obj) ∧ cl.faults podsAt ≠ none

/-- The workload selects its pods by some label. -/
def HasLabels (w : Kube.Workload) : Prop := w.selector.matchLabels ≠ []

/-- The subject is no pod, and the first of the other attempts that does not come through leaves
something, or the next one does. -/
def LeavesTrace (cl : Client) (ns subject : String) : Prop :=
  (¬ ∃ p, cl.readPod .resolvePod ns subject = .ok p) ∧
    ¬ ReadThrough cl (deploymentOf cl ns subject) .deploymentPods ∧
      (LeftBehind cl (deploymentOf cl ns subject) .deploymentPods HasLabels ∨
        ¬ ReadThrough cl (statefulSetOf cl ns subject) .statefulSetPods ∧
          (LeftBehind cl (statefulSetOf cl ns subject) .statefulSetPods HasLabels ∨
            ¬ ReadThrough cl (jobOf cl ns subject) .jobPods ∧
              LeftBehind cl (jobOf cl ns subject) .jobPods fun _ => True))

/-- The attempt as a pod assigns nothing before it can fail. -/
theorem tryPod_spec : Backtrack.Spec (tryPod cl ns subject) {}
    (∃ p, cl.readPod .resolvePod ns subject = .ok p) False := by
  unfold tryPod
  cases hread : cl.readPod .resolvePod ns subject with
  | error e => constructor <;> simp
  | ok p => constructor <;> simp

/-- Listing pods succeeds or fails as a whole. -/
theorem listPods_cases (cl : Client) (podsAt : Read) (ns selector : String) :
    (cl.faults podsAt = none ∧ ∃ pods, cl.listPods podsAt ns selector = .ok pods) ∨
      (cl.faults podsAt ≠ none ∧ ∃ e, cl.listPods podsAt ns selector = .error e) := by
  unfold Client.listPods Client.attempt
  cases cl.faults podsAt with
  | none => exact .inl ⟨rfl, _, rfl⟩
  | some e => exact .inr ⟨nofun, _, rfl⟩

/-- The labels are assigned between the two reads. -/
theorem tryWorkload_spec {readAt podsAt : Read} {workloads : List Kube.Workload}
    {object : Except Exc Kube.Workload}
    (hobject : object = cl.attempt readAt (Kube.byName Kube.Workload.name workloads subject)) :
    Backtrack.Spec (tryWorkload cl readAt podsAt workloads ns subject) {}
      (ReadThrough cl object podsAt) (LeftBehind cl object podsAt HasLabels) := by
  subst hobject
  cases hread : cl.attempt readAt (Kube.byName Kube.Workload.name workloads subject) with
  | error e => constructor <;> simp [tryWorkload, ReadThrough, LeftBehind, hread]
  | ok obj =>
      rcases listPods_cases cl podsAt ns (Kube.encodeLabels obj.selector.matchLabels) with
        ⟨hlist, pods, hpods⟩ | ⟨hlist, e, hpods⟩ <;> constructor <;>
          simp [tryWorkload, ReadThrough, LeftBehind, HasLabels, hread, hlist, hpods]

/-- The entry of the Job is made between the two reads. -/
theorem tryJob_spec : Backtrack.Spec (tryJob cl ns subject) {}
    (ReadThrough cl (jobOf cl ns subject) .jobPods)
    (LeftBehind cl (jobOf cl ns subject) .jobPods fun _ => True) := by
  cases hread : jobOf cl ns subject with
  | error e =>
      rw [jobOf] at hread
      constructor <;> simp [tryJob, ReadThrough, LeftBehind, hread]
  | ok job =>
      rw [jobOf] at hread
      rcases listPods_cases cl .jobPods ns ("job-name=" ++ subject) with
        ⟨hlist, pods, hpods⟩ | ⟨hlist, e, hpods⟩ <;> constructor <;>
          simp [tryJob, ReadThrough, LeftBehind, hread, hlist, hpods]

/-- The attempts are clean unless one of them leaves something. -/
theorem not_cleanRun_iff : ¬ CleanRun (attempts cl ns subject) {} ↔ LeavesTrace cl ns subject := by
  have hdeploy : Backtrack.Spec (tryDeployment cl ns subject) {} _ _ := tryWorkload_spec rfl
  have hsts : Backtrack.Spec (tryStatefulSet cl ns subject) {} _ _ := tryWorkload_spec rfl
  rw [attempts, tryPod_spec.not_cleanRun, hdeploy.not_cleanRun, hsts.not_cleanRun,
    tryJob_spec.not_cleanRun, LeavesTrace, deploymentOf, statefulSetOf]
  simp only [false_or, CleanRun, not_true_eq_false, or_false]

/-- **Exactly when failed attempts leave no trace**: no attempt that is made and fails leaves its
labels behind. -/
theorem traceless_iff (cl : Client) (ns subject : String) :
    Traceless cl ns subject ↔ ¬ LeavesTrace cl ns subject := by
  rw [← not_cleanRun_iff, not_not]
  exact ⟨Traceless.unchanged, traceless_of_cleanRun⟩

/-! ## A Deployment whose pods cannot be listed

The Deployment is read, its labels are kept, and the list of its pods is denied. -/

/-- Labels of plain text. -/
theorem webLabels_clean : ∀ kv ∈ [("app", "web")], Kube.LabelText kv.1 ∧ Kube.LabelText kv.2 := by
  decide

/-- A Deployment that selects by one label. -/
def webDeployment : Kube.Workload where
  name := "web"
  selector := { matchLabels := [("app", "web")], clean := webLabels_clean }

/-- It may be read, its pods may not be listed. -/
def unlistedClient : Client where
  namespaces _ := { pods := [], pods_nodup := List.nodup_nil, deployments := [webDeployment] }
  faults
    | .deploymentPods => some (.apiException 403)
    | _               => none

/-- The subject is not resolved, but the context has the labels of the Deployment. -/
theorem unlisted_leaves_labels : ¬ Traceless unlistedClient "shop" "web" := by
  intro h
  have hnull : ¬ MeetsNullSelector unlistedClient "shop" "web" := by
    rintro ⟨-, p, hp, -⟩
    cases hp
  obtain ⟨pdbs, anchor, recent, hcollect, -⟩ := collectFrom_ok rfl hnull "prod" demoNow
  have hresolved : (resolveSubject unlistedClient "shop" "web").1 = false := by decide
  -- the Deployment was read, and so its labels are still there
  have hlabels : selectorLabelsOf unlistedClient "shop" "web" = [] :=
    (h.unresolved _ _ _ hcollect hresolved).2.1
  exact absurd hlabels (by decide)

end SreAgent.Rca
