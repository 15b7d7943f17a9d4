import Mathlib.Data.List.Pairwise
import SreAgent.Rca.Ordinary

/-!
# An issue names its detector

Every detector reports issues of its own list, and no issue is on two lists; so the issue of a
hypothesis says which detector it comes from (`detector_of_issue`).

This is how statements about reports are brought down to detectors. Such a statement says that some issue is
reported; by this module it says that one detector fired, and what it looked at.
-/

namespace SreAgent.Rca

/-! ## Detector by detector

Only the crash loop computes its issue. The others have it as a constant, or take it from a list of
reasons. -/

/-- The issues the hypotheses of a detector may carry. -/
def Reports (d : Context → Option Hypothesis) (issues : List String) : Prop :=
  ∀ ctx h, d ctx = some h → h.issue ∈ issues

/-- Crediting a release leaves the issue alone, and so does blaming credentials. -/
theorem creditRelease_issue (change : Option Change) (h : Hypothesis) :
    (creditRelease change h).issue = h.issue := by
  unfold creditRelease
  split
  · split <;> rfl
  · rfl

theorem crashloopAuth_issue (change : Option Change) (h : Hypothesis) :
    (crashloopAuth change h).issue = h.issue := by
  unfold crashloopAuth
  dsimp only
  split
  · split <;> rfl
  · rfl

/-- The short name of the host the logs point at. -/
def hostShort (logs : String) : List Char := (parseDbHost logs).takeWhile (· != '.')

/-- Its Service is known to be missing. -/
def serviceMissing (logs : String) (services : Option (List String)) : Bool :=
  !(hostShort logs).isEmpty && services.any fun names => !names.contains (String.ofList (hostShort logs))

/-- The branch for an unreachable database may change the issue: to a missing dependency. -/
theorem crashloopReach_issue (logs : String) (services : Option (List String)) (h : Hypothesis) :
    (crashloopReach logs services h).issue =
      if serviceMissing logs services then missingDependency else h.issue := by
  unfold crashloopReach serviceMissing hostShort
  dsimp only
  split <;> rfl

/-- So the crash loop reports one of two issues. -/
theorem crashloop_reports :
    Reports crashloopDbConnection ["CrashLoopBackOff", missingDependency] := by
  intro ctx h hd
  cases crashloopDbConnection_iff.mp hd with
  | generic => exact List.mem_cons_self ..
  | auth =>
      rw [creditRelease_issue, crashloopAuth_issue]
      exact List.mem_cons_self ..
  | reach =>
      rw [creditRelease_issue, crashloopReach_issue]
      split <;> simp [genericCrashloop]

theorem Yields.reports {d : Context → Option Hypothesis} {issues : List String}
    (hd : Yields d issues) : Reports d issues := fun ctx h hfire => (hd ctx h hfire).issue

/-! ## All of them

The table lists the detectors in the order in which they are run, each with its issues, and no issue
occurs twice. -/

/-- Every detector with its issues, in the order of registration. -/
def issuesByDetector : List ((Context → Option Hypothesis) × List String) :=
  [(crashloopDbConnection, ["CrashLoopBackOff", missingDependency]),
   (imagePull, ["ErrImagePull", "ImagePullBackOff"]),
   (containerConfigError, ["CreateContainerConfigError", "CreateContainerError"]),
   (oomKilled, ["OOMKilled"]),
   (initContainerFailure, ["Init Container Failure"]),
   (jobFailure, ["Job Failed"]),
   (probeFailure, ["Liveness Probe Failure", "Readiness Probe Failure", "Probe Probe Failure"]),
   (pendingUnschedulable, ["Pending Pods", "Pending Pods (PVC)"]),
   (storageEviction, ["Pod Evicted: Ephemeral Storage", "Pod Evicted"]),
   (hpaCannotScale, ["HPA Cannot Scale"]),
   (pdbBlocking, ["PodDisruptionBudget Blocking"]),
   (nodePressure, ["NodeNotReady", "Node DiskPressure", "Node MemoryPressure", "Node PidPressure"]),
   (istioSidecarNotReady, ["Istio Sidecar Not Ready"]),
   (tlsCertificate, ["TLS Certificate Issue"]),
   (dnsFailure, ["DNS Resolution Failure"])]

/-- The table has every detector, each with the issues it reports, and they are disjoint. -/
theorem allDetectors_eq : allDetectors = issuesByDetector.map Prod.fst := by
  simp only [allDetectors, issuesByDetector, List.map_cons, List.map_nil]

theorem reports_all : ∀ di ∈ issuesByDetector, Reports di.1 di.2 := by
  simp only [issuesByDetector, List.forall_mem_cons]
  exact ⟨crashloop_reports, imagePull_yields.reports, containerConfigError_yields.reports,
    oomKilled_yields.reports, initContainerFailure_yields.reports, jobFailure_yields.reports,
    probeFailure_yields.reports, pendingUnschedulable_yields.reports,
    storageEviction_yields.reports, hpaCannotScale_yields.reports, pdbBlocking_yields.reports,
    nodePressure_yields.reports, istioSidecarNotReady_yields.reports,
    tlsCertificate_yields.reports, dnsFailure_yields.reports, by simp⟩

theorem issues_nodup : (issuesByDetector.flatMap Prod.snd).Nodup := by
  show (_ : List String).Nodup
  decide

/-- **An issue names its detector**: a hypothesis with an issue of a detector's list was given by
this detector. -/
theorem detector_of_issue {ctx : Context} {h : Hypothesis} (hh : h ∈ evaluate ctx)
    {d : Context → Option Hypothesis} {issues : List String} (hd : (d, issues) ∈ issuesByDetector)
    (hissue : h.issue ∈ issues) : d ctx = some h := by
  obtain ⟨d', hd', hfire⟩ := mem_evaluate.mp hh
  rw [allDetectors_eq] at hd'
  obtain ⟨⟨d', issues'⟩, hmem, rfl⟩ := List.mem_map.mp hd'
  have hissue' : h.issue ∈ issues' := reports_all _ hmem ctx h hfire
  -- two detectors that list the issue would share it
  have hdisjoint := (List.nodup_flatMap.mp issues_nodup).2
  have hsymm : Std.Symm (Function.onFun List.Disjoint
      (Prod.snd : (Context → Option Hypothesis) × List String → List String)) :=
    ⟨fun _ _ h _ hb ha => h ha hb⟩
  by_cases heq : (d, issues) = (d', issues')
  · cases heq
    exact hfire
  · exact absurd hissue' (hdisjoint.forall hd hmem heq hissue)

/-- No hypothesis is reported twice. -/
theorem reported_nodup (ctx : Context) : (allDetectors.filterMap fun d => d ctx).Nodup := by
  have hdisjoint := (List.nodup_flatMap.mp issues_nodup).2
  rw [allDetectors_eq, List.filterMap_map, List.Nodup, List.pairwise_filterMap]
  refine hdisjoint.imp_of_mem ?_
  intro di di' hdi hdi' hdisj h hh h' hh' heq
  exact hdisj (reports_all _ hdi ctx h hh) (heq ▸ reports_all _ hdi' ctx h' hh')

/-- A detector's issues are reported when it fires. -/
theorem reported_iff {ctx : Context} {d : Context → Option Hypothesis} {issues : List String}
    (hd : (d, issues) ∈ issuesByDetector) :
    (∃ h ∈ evaluate ctx, h.issue ∈ issues) ↔ ∃ h, d ctx = some h := by
  constructor
  · rintro ⟨h, hh, hissue⟩
    exact ⟨h, detector_of_issue hh hd hissue⟩
  · rintro ⟨h, hfire⟩
    have hlisted : d ∈ allDetectors := by
      rw [allDetectors_eq]
      exact List.mem_map_of_mem hd
    exact ⟨h, mem_evaluate.mpr ⟨d, hlisted, hfire⟩, reports_all _ hd ctx h hfire⟩

end SreAgent.Rca
