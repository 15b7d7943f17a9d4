import Mathlib.Tactic.NormNum
import SreAgent.Rca.Detectors

/-!
# What a detector returns

All detectors but `crashloop_db_connection` return hypotheses of one kind (`Ordinary`): an issue of the
detector's own list, no word of a rollback, evidence that counts for something and has a time only
where it comes from an event.

It is the shape of a hypothesis that matters, not its text. Thirteen detectors build theirs in one
of three ways, and each of the ways has its combinator; other properties of what detectors return
are then read off this one.
-/

namespace SreAgent.Rca

/-- It counts for something, and what the cluster says of itself carries no time. -/
structure Evidence.Sober (e : Evidence) : Prop where
  weighted : e.weight ≠ 0
  undated  : e.source = "k8s" → e.timestamp = ""

/-- A hypothesis with one of these issues that leaves the releases alone. -/
structure Ordinary (issues : List String) (h : Hypothesis) : Prop where
  issue    : h.issue ∈ issues
  rollback : h.rollbackRequired = false
  target   : h.rollbackTarget = some ""
  evidence : ∀ e ∈ h.evidence, e.Sober

/-- All that a detector returns. -/
def Yields (d : Context → Option Hypothesis) (issues : List String) : Prop :=
  ∀ ctx h, d ctx = some h → Ordinary issues h

variable {issues : List String} {h h' : Hypothesis} {e e' : Evidence}

/-- Evidence without a time. -/
theorem sober (hweight : e.weight ≠ 0) (htime : e.timestamp = "") : e.Sober := ⟨hweight, fun _ => htime⟩

namespace Ordinary

theorem ite {c : Prop} [Decidable c] (hh : Ordinary issues h) (hh' : Ordinary issues h') :
    Ordinary issues (if c then h else h') := by
  split
  · exact hh
  · exact hh'

theorem cite (hh : Ordinary issues h) (he : e.Sober) : Ordinary issues (h.cite e) := by
  refine ⟨hh.issue, hh.rollback, hh.target, fun e' he' => ?_⟩
  rcases List.mem_append.mp he' with he' | he'
  · exact hh.evidence e' he'
  · rw [List.mem_singleton.mp he']
    exact he

theorem single (hissue : h.issue ∈ issues) (hrollback : h.rollbackRequired = false)
    (htarget : h.rollbackTarget = some "") (hevidence : h.evidence = [e]) (he : e.Sober) :
    Ordinary issues h := by
  refine ⟨hissue, hrollback, htarget, fun e' he' => ?_⟩
  rw [hevidence] at he'
  rw [List.mem_singleton.mp he']
  exact he

/-- A second piece of evidence behind the first one. -/
theorem pair (hissue : h.issue ∈ issues) (hrollback : h.rollbackRequired = false)
    (htarget : h.rollbackTarget = some "") (hevidence : h.evidence = [e, e']) (he : e.Sober)
    (he' : e'.Sober) : Ordinary issues h := by
  refine ⟨hissue, hrollback, htarget, ?_⟩
  rw [hevidence, List.forall_mem_cons, List.forall_mem_singleton]
  exact ⟨he, he'⟩

/-- A detector that cites a message if there is one. -/
theorem citeUnless {c : Prop} [Decidable c] (hh : Ordinary issues h) (he : e.Sober) :
    Ordinary issues (if c then h else h.cite e) :=
  hh.ite (hh.cite he)

end Ordinary

/-! ## Detector by detector

For each of them the list of its issues and the combinators it is built with. The detectors differ
in nothing else here. -/

theorem hits_mem {ctx : Context} {wanted rest : List String} {hit : String}
    (h : hits ctx wanted = hit :: rest) : hit ∈ wanted :=
  (List.mem_filter.mp (h ▸ List.mem_cons_self .. : hit ∈ hits ctx wanted)).1

theorem imagePull_yields : Yields imagePull ["ErrImagePull", "ImagePullBackOff"] := by
  intro ctx h hd
  unfold imagePull at hd
  split at hd
  · cases hd
  · next hit rest hhits =>
    obtain rfl := Option.some.inj hd
    have hmem := hits_mem hhits
    refine Ordinary.citeUnless (Ordinary.ite ?_ (Ordinary.ite ?_ ?_)) (sober (by norm_num) rfl) <;>
      exact Ordinary.single hmem rfl rfl rfl (sober (by norm_num) rfl)

theorem containerConfigError_yields :
    Yields containerConfigError ["CreateContainerConfigError", "CreateContainerError"] := by
  intro ctx h hd
  unfold containerConfigError at hd
  split at hd
  · cases hd
  · next hit rest hhits =>
    obtain rfl := Option.some.inj hd
    have hmem := hits_mem hhits
    refine Ordinary.citeUnless (Ordinary.ite ?_ (Ordinary.ite ?_ ?_)) (sober (by norm_num) rfl) <;>
      exact Ordinary.single hmem rfl rfl rfl (sober (by norm_num) rfl)

theorem oomKilled_yields : Yields oomKilled ["OOMKilled"] := by
  intro ctx h hd
  unfold oomKilled at hd
  dsimp only at hd
  split at hd
  · cases hd
  · obtain rfl := Option.some.inj hd
    apply Ordinary.ite
    · exact Ordinary.pair List.mem_cons_self rfl rfl rfl (sober (by norm_num) rfl)
        (sober (by norm_num) rfl)
    · exact Ordinary.single List.mem_cons_self rfl rfl rfl (sober (by norm_num) rfl)

theorem initContainerFailure_yields : Yields initContainerFailure ["Init Container Failure"] := by
  intro ctx h hd
  unfold initContainerFailure at hd
  dsimp only at hd
  split at hd
  · cases hd
  · obtain rfl := Option.some.inj hd
    apply Ordinary.ite
    · exact Ordinary.single List.mem_cons_self rfl rfl rfl (sober (by norm_num) rfl)
    · exact Ordinary.pair List.mem_cons_self rfl rfl rfl (sober (by norm_num) rfl)
        (sober (by norm_num) rfl)

theorem jobFailure_yields : Yields jobFailure ["Job Failed"] := by
  intro ctx h hd
  unfold jobFailure at hd
  dsimp only at hd
  split at hd
  · cases hd
  split at hd
  · cases hd
  split at hd
  · obtain rfl := Option.some.inj hd
    exact Ordinary.pair List.mem_cons_self rfl rfl rfl (sober (by norm_num) rfl)
      (sober (by norm_num) rfl)
  · obtain rfl := Option.some.inj hd
    exact Ordinary.single List.mem_cons_self rfl rfl rfl (sober (by norm_num) rfl)

theorem probeFailure_yields : Yields probeFailure
    ["Liveness Probe Failure", "Readiness Probe Failure", "Probe Probe Failure"] := by
  intro ctx h hd
  unfold probeFailure at hd
  dsimp only at hd
  split at hd
  · next first rest _ =>
    obtain rfl := Option.some.inj hd
    have hkind : ∀ liveness readiness : Bool,
        (if liveness then "Liveness" else if readiness then "Readiness" else "Probe") ∈
          ["Liveness", "Readiness", "Probe"] := by decide
    have hissue : ∀ kind ∈ ["Liveness", "Readiness", "Probe"], s!"{kind} Probe Failure" ∈
        ["Liveness Probe Failure", "Readiness Probe Failure", "Probe Probe Failure"] := by decide
    -- the message is dated, but it comes from the events
    have hevent : ∀ summary, (⟨"events", summary, 0.6, first.age⟩ : Evidence).Sober := fun summary =>
      ⟨by norm_num, fun hsource => absurd hsource (by simp)⟩
    apply Ordinary.ite
    · exact Ordinary.pair (hissue _ (hkind _ _)) rfl rfl rfl (hevent _) (sober (by norm_num) rfl)
    · exact Ordinary.single (hissue _ (hkind _ _)) rfl rfl rfl (hevent _)
  · split at hd
    · obtain rfl := Option.some.inj hd
      exact Ordinary.single List.mem_cons_self rfl rfl rfl (sober (by norm_num) rfl)
    · cases hd

theorem pendingUnschedulable_yields :
    Yields pendingUnschedulable ["Pending Pods", "Pending Pods (PVC)"] := by
  intro ctx h hd
  unfold pendingUnschedulable at hd
  dsimp only at hd
  split at hd
  · cases hd
  split at hd
  · cases hd
  · obtain rfl := Option.some.inj hd
    -- every branch keeps the evidence, which cites the first scheduling event, if any
    refine Ordinary.ite ?_ (Ordinary.ite ?_ (Ordinary.ite ?_ (Ordinary.ite ?_ ?_))) <;>
    · refine ⟨by simp, rfl, rfl, fun e he => ?_⟩
      dsimp only at he
      split at he
      · cases he
      · rw [List.mem_singleton.mp he]
        exact sober (by norm_num) rfl

theorem storageEviction_yields :
    Yields storageEviction ["Pod Evicted: Ephemeral Storage", "Pod Evicted"] := by
  intro ctx h hd
  unfold storageEviction at hd
  dsimp only at hd
  split at hd
  · cases hd
  · obtain rfl := Option.some.inj hd
    refine Ordinary.single ?_ rfl rfl rfl (sober (by norm_num) rfl)
    dsimp only
    split <;> simp

theorem hpaCannotScale_yields : Yields hpaCannotScale ["HPA Cannot Scale"] := by
  intro ctx h hd
  obtain ⟨hpa, -, hbad⟩ := List.exists_of_findSome?_eq_some hd
  obtain ⟨bad, -, rfl⟩ := Option.map_eq_some_iff.mp hbad
  exact Ordinary.single List.mem_cons_self rfl rfl rfl (sober (by norm_num) rfl)

theorem pdbBlocking_yields : Yields pdbBlocking ["PodDisruptionBudget Blocking"] := by
  intro ctx h hd
  obtain ⟨p, -, rfl⟩ := Option.map_eq_some_iff.mp hd
  exact Ordinary.single List.mem_cons_self rfl rfl rfl (sober (by norm_num) rfl)

theorem nodePressure_yields : Yields nodePressure
    ["NodeNotReady", "Node DiskPressure", "Node MemoryPressure", "Node PidPressure"] := by
  intro ctx h hd
  obtain ⟨n, -, rfl⟩ := Option.map_eq_some_iff.mp hd
  refine Ordinary.single ?_ rfl rfl rfl (sober (by norm_num) rfl)
  dsimp only
  split
  · exact List.mem_cons_self
  · unfold pressureLabel
    split
    · decide
    · split <;> decide

theorem istioSidecarNotReady_yields : Yields istioSidecarNotReady ["Istio Sidecar Not Ready"] := by
  intro ctx h hd
  unfold istioSidecarNotReady at hd
  dsimp only at hd
  split at hd
  · cases hd
  split at hd
  · cases hd
  · obtain rfl := Option.some.inj hd
    refine Ordinary.ite ?_ (Ordinary.ite ?_ ?_) <;>
      exact Ordinary.single List.mem_cons_self rfl rfl rfl (sober (by norm_num) rfl)

theorem tlsCertificate_yields : Yields tlsCertificate ["TLS Certificate Issue"] := by
  intro ctx h hd
  unfold tlsCertificate at hd
  split at hd
  · cases hd
  · obtain rfl := Option.some.inj hd
    exact Ordinary.single List.mem_cons_self rfl rfl rfl (sober (by norm_num) rfl)

theorem dnsFailure_yields : Yields dnsFailure ["DNS Resolution Failure"] := by
  intro ctx h hd
  unfold dnsFailure at hd
  dsimp only at hd
  split at hd
  · cases hd
  · obtain rfl := Option.some.inj hd
    exact Ordinary.single List.mem_cons_self rfl rfl rfl (sober (by norm_num) rfl)

/-- **What is not about the crash loop is ordinary**: one of the other fourteen detectors gave it,
with its own issue and its own evidence. -/
theorem crashloop_or_ordinary {ctx : Context} (hh : h ∈ evaluate ctx) :
    crashloopDbConnection ctx = some h ∨ ∃ issues, Ordinary issues h := by
  obtain ⟨d, hd, hfire⟩ := mem_evaluate.mp hh
  rcases List.mem_cons.mp hd with rfl | hd
  · exact .inl hfire
  · right
    -- every other detector yields hypotheses that no release is credited to
    have hothers : ∀ d ∈ allDetectors.tail, ∃ issues, Yields d issues := by
      simp only [allDetectors, List.tail_cons, List.forall_mem_cons]
      exact ⟨⟨_, imagePull_yields⟩, ⟨_, containerConfigError_yields⟩, ⟨_, oomKilled_yields⟩,
        ⟨_, initContainerFailure_yields⟩, ⟨_, jobFailure_yields⟩, ⟨_, probeFailure_yields⟩,
        ⟨_, pendingUnschedulable_yields⟩, ⟨_, storageEviction_yields⟩, ⟨_, hpaCannotScale_yields⟩,
        ⟨_, pdbBlocking_yields⟩, ⟨_, nodePressure_yields⟩, ⟨_, istioSidecarNotReady_yields⟩,
        ⟨_, tlsCertificate_yields⟩, ⟨_, dnsFailure_yields⟩, by simp⟩
    obtain ⟨issues, hyields⟩ := hothers d hd
    exact ⟨issues, hyields ctx h hfire⟩

end SreAgent.Rca
