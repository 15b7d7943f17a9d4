import Mathlib.Data.Rat.Lemmas
import Mathlib.Tactic.NormNum
import SreAgent.Rca.Detectors

/-!
# How sure a detector is

A hypothesis carries a confidence of 0 to 100, and each piece of its evidence a weight of 0 to 1.
Nothing checks these bounds when a hypothesis is built; the detectors keep them, and leave room at
both ends (`evaluate_graded`): the confidence stays between 40 and 95.

The fields are plain numbers in the source. The bounds hold because of the constants in the
detectors and the one `min` of the crash loop, so each detector is checked once, with combinators
for the ways in which a hypothesis is put together.
-/

namespace SreAgent.Rca

/-- It counts for something, and for no more than everything. -/
structure Evidence.Weighed (e : Evidence) : Prop where
  pos    : 0 < e.weight
  le_one : e.weight ≤ 1

/-- Sure enough to be reported, never certain, and with evidence that counts. -/
structure Graded (h : Hypothesis) : Prop where
  least   : 40 ≤ h.confidence
  most    : h.confidence ≤ 95
  weighed : ∀ e ∈ h.evidence, e.Weighed

/-- All that a detector returns is graded. -/
def Grades (d : Context → Option Hypothesis) : Prop := ∀ ctx h, d ctx = some h → Graded h

variable {h h' : Hypothesis} {e e' : Evidence}

namespace Graded

theorem ite {c : Prop} [Decidable c] (hh : Graded h) (hh' : Graded h') :
    Graded (if c then h else h') := by
  split
  · exact hh
  · exact hh'

/-- `Graded` looks at two fields. -/
theorem of_eq (hh : Graded h) (hconfidence : h'.confidence = h.confidence)
    (hevidence : h'.evidence = h.evidence) : Graded h' :=
  ⟨hconfidence ▸ hh.least, hconfidence ▸ hh.most, hevidence ▸ hh.weighed⟩

/-- More evidence, and another confidence. -/
theorem raise (hh : Graded h) (n : Nat) (hconfidence : h'.confidence = n)
    (hevidence : h'.evidence = h.evidence ++ [e]) (hw : 0 < e.weight ∧ e.weight ≤ 1)
    (hn : 40 ≤ n ∧ n ≤ 95) : Graded h' := by
  refine ⟨hconfidence ▸ hn.1, hconfidence ▸ hn.2, ?_⟩
  rw [hevidence, List.forall_mem_append, List.forall_mem_singleton]
  exact ⟨hh.weighed, hw.1, hw.2⟩

theorem cite (hh : Graded h) (hw : 0 < e.weight ∧ e.weight ≤ 1) : Graded (h.cite e) :=
  hh.raise h.confidence rfl rfl hw ⟨hh.least, hh.most⟩

/-- A detector that cites a message if there is one. -/
theorem citeUnless {c : Prop} [Decidable c] (hh : Graded h) (hw : 0 < e.weight ∧ e.weight ≤ 1) :
    Graded (if c then h else h.cite e) := hh.ite (hh.cite hw)

theorem single (n : Nat) (hconfidence : h.confidence = n) (hevidence : h.evidence = [e])
    (hw : 0 < e.weight ∧ e.weight ≤ 1) (hn : 40 ≤ n ∧ n ≤ 95) : Graded h := by
  refine ⟨hconfidence ▸ hn.1, hconfidence ▸ hn.2, ?_⟩
  rw [hevidence, List.forall_mem_singleton]
  exact ⟨hw.1, hw.2⟩

theorem pair (n : Nat) (hconfidence : h.confidence = n) (hevidence : h.evidence = [e, e'])
    (hw : 0 < e.weight ∧ e.weight ≤ 1) (hw' : 0 < e'.weight ∧ e'.weight ≤ 1)
    (hn : 40 ≤ n ∧ n ≤ 95) : Graded h := by
  refine ⟨hconfidence ▸ hn.1, hconfidence ▸ hn.2, ?_⟩
  rw [hevidence, List.forall_mem_cons, List.forall_mem_singleton]
  exact ⟨⟨hw.1, hw.2⟩, hw'.1, hw'.2⟩

end Graded

/-! ## The crash loop

Each step of the crash loop starts from a graded hypothesis and raises it or adds to it. -/

theorem genericCrashloop_graded : Graded genericCrashloop :=
  Graded.single 40 rfl rfl (by norm_num) (by decide)

theorem crashloopAuth_graded (change : Option Change) (hh : Graded h) :
    Graded (crashloopAuth change h) := by
  have hrejected : Graded { h with
      confidence := 82
      evidence := h.evidence ++
        [{ source := "logs", summary := "DB authentication failure in crash logs",
           weight := 0.42 }] } :=
    hh.raise 82 rfl rfl (by norm_num) (by decide)
  unfold crashloopAuth
  dsimp only
  split  -- a secret that changed adds twelve points and a second piece of evidence
  · split
    · exact hrejected.raise 94 rfl rfl (by norm_num) (by decide)
    · exact hrejected.of_eq rfl rfl
  · exact hrejected.of_eq rfl rfl

theorem crashloopReach_graded (logs : String) (services : Option (List String)) (hh : Graded h) :
    Graded (crashloopReach logs services h) := by
  have hrefused : Graded { h with
      confidence := 80
      evidence := h.evidence ++
        [{ source := "logs", summary := "DB connection timeout/refused in crash logs",
           weight := 0.4 }] } :=
    hh.raise 80 rfl rfl (by norm_num) (by decide)
  unfold crashloopReach
  dsimp only
  split
  · -- the Service is missing: one more piece of evidence, and eight points
    exact hrefused.raise 88 rfl rfl (by norm_num) (by decide)
  · exact hrefused.of_eq rfl rfl

/-- The cap of 95 comes in here. -/
theorem creditRelease_graded (change : Option Change) (hh : Graded h) :
    Graded (creditRelease change h) := by
  have hleast := hh.least
  unfold creditRelease
  split
  · split
    · -- a release is credited with eight points, up to 95
      exact hh.raise (min 95 (h.confidence + 8)) rfl rfl (by norm_num) (by omega)
    · exact hh
  · exact hh

theorem crashloopDbConnection_grades : Grades crashloopDbConnection := by
  intro ctx h hd
  cases crashloopDbConnection_iff.mp hd with
  | generic => exact genericCrashloop_graded
  | auth    => exact creditRelease_graded _ (crashloopAuth_graded _ genericCrashloop_graded)
  | reach   => exact creditRelease_graded _ (crashloopReach_graded _ _ genericCrashloop_graded)

/-! ## The other detectors

One for each, by the shape of its hypothesis: a constant confidence with one or two pieces of
evidence, and possibly a message that is cited. -/

theorem imagePull_grades : Grades imagePull := by
  intro ctx h hd
  unfold imagePull at hd
  split at hd
  · cases hd
  · obtain rfl := Option.some.inj hd
    -- the two known causes, and the general one
    refine Graded.citeUnless (Graded.ite ?_ (Graded.ite ?_ ?_)) (by norm_num)
    · exact Graded.single 92 rfl rfl (by norm_num) (by decide)
    · exact Graded.single 92 rfl rfl (by norm_num) (by decide)
    · exact Graded.single 88 rfl rfl (by norm_num) (by decide)

theorem containerConfigError_grades : Grades containerConfigError := by
  intro ctx h hd
  unfold containerConfigError at hd
  split at hd
  · cases hd
  · obtain rfl := Option.some.inj hd
    refine Graded.citeUnless (Graded.ite ?_ (Graded.ite ?_ ?_)) (by norm_num)
    · exact Graded.single 90 rfl rfl (by norm_num) (by decide)
    · exact Graded.single 90 rfl rfl (by norm_num) (by decide)
    · exact Graded.single 85 rfl rfl (by norm_num) (by decide)

theorem oomKilled_grades : Grades oomKilled := by
  intro ctx h hd
  unfold oomKilled at hd
  dsimp only at hd
  split at hd
  · cases hd
  · obtain rfl := Option.some.inj hd
    refine Graded.ite ?_ ?_
    · exact Graded.pair 95 rfl rfl (by norm_num) (by norm_num) (by decide)
    · exact Graded.single 90 rfl rfl (by norm_num) (by decide)

theorem initContainerFailure_grades : Grades initContainerFailure := by
  intro ctx h hd
  unfold initContainerFailure at hd
  dsimp only at hd
  split at hd
  · cases hd
  · obtain rfl := Option.some.inj hd
    refine Graded.ite ?_ ?_
    · exact Graded.single 85 rfl rfl (by norm_num) (by decide)
    · exact Graded.pair 90 rfl rfl (by norm_num) (by norm_num) (by decide)

theorem jobFailure_grades : Grades jobFailure := by
  intro ctx h hd
  unfold jobFailure at hd
  dsimp only at hd
  split at hd
  · cases hd
  split at hd
  · cases hd
  split at hd
  · obtain rfl := Option.some.inj hd
    -- with a line of the logs, and without
    exact Graded.pair 90 rfl rfl (by norm_num) (by norm_num) (by decide)
  · obtain rfl := Option.some.inj hd
    exact Graded.single 85 rfl rfl (by norm_num) (by decide)

theorem probeFailure_grades : Grades probeFailure := by
  intro ctx h hd
  unfold probeFailure at hd
  dsimp only at hd
  split at hd
  · obtain rfl := Option.some.inj hd
    refine Graded.ite ?_ ?_
    · exact Graded.pair 78 rfl rfl (by norm_num) (by norm_num) (by decide)
    · exact Graded.single 78 rfl rfl (by norm_num) (by decide)
  · -- no event: the failure is inferred, or nothing is said
    split at hd
    · obtain rfl := Option.some.inj hd
      exact Graded.single 62 rfl rfl (by norm_num) (by decide)
    · cases hd

theorem pendingUnschedulable_grades : Grades pendingUnschedulable := by
  intro ctx h hd
  unfold pendingUnschedulable at hd
  dsimp only at hd
  split at hd
  · cases hd
  split at hd
  · cases hd
  · obtain rfl := Option.some.inj hd
    -- every branch keeps the confidence and the evidence, which may be empty
    refine Graded.ite ?_ (Graded.ite ?_ (Graded.ite ?_ (Graded.ite ?_ ?_))) <;>
    · refine ⟨(by decide : 40 ≤ 80), (by decide : 80 ≤ 95), fun e he => ?_⟩
      dsimp only at he
      split at he
      · cases he
      · rw [List.mem_singleton.mp he]
        exact ⟨by norm_num, by norm_num⟩

theorem storageEviction_grades : Grades storageEviction := by
  intro ctx h hd
  unfold storageEviction at hd
  dsimp only at hd
  split at hd
  · cases hd
  · obtain rfl := Option.some.inj hd
    refine Graded.single _ rfl rfl (by norm_num) ?_
    dsimp only
    split <;> decide

theorem hpaCannotScale_grades : Grades hpaCannotScale := by
  intro ctx h hd
  obtain ⟨hpa, -, hbad⟩ := List.exists_of_findSome?_eq_some hd
  obtain ⟨bad, -, rfl⟩ := Option.map_eq_some_iff.mp hbad
  exact Graded.single 85 rfl rfl (by norm_num) (by decide)

theorem pdbBlocking_grades : Grades pdbBlocking := by
  intro ctx h hd
  obtain ⟨p, -, rfl⟩ := Option.map_eq_some_iff.mp hd
  exact Graded.single 80 rfl rfl (by norm_num) (by decide)

theorem nodePressure_grades : Grades nodePressure := by
  intro ctx h hd
  obtain ⟨n, -, rfl⟩ := Option.map_eq_some_iff.mp hd
  exact Graded.single 85 rfl rfl (by norm_num) (by decide)

theorem istioSidecarNotReady_grades : Grades istioSidecarNotReady := by
  intro ctx h hd
  unfold istioSidecarNotReady at hd
  dsimp only at hd
  split at hd
  · cases hd
  split at hd
  · cases hd
  · obtain rfl := Option.some.inj hd
    refine Graded.ite ?_ (Graded.ite ?_ ?_)  -- killed, waiting for its image, or just not ready
    · exact Graded.single 91 rfl rfl (by norm_num) (by decide)
    · exact Graded.single 88 rfl rfl (by norm_num) (by decide)
    · exact Graded.single 80 rfl rfl (by norm_num) (by decide)

theorem tlsCertificate_grades : Grades tlsCertificate := by
  intro ctx h hd
  unfold tlsCertificate at hd
  split at hd
  · cases hd
  · obtain rfl := Option.some.inj hd
    exact Graded.single 75 rfl rfl (by norm_num) (by decide)

theorem dnsFailure_grades : Grades dnsFailure := by
  intro ctx h hd
  unfold dnsFailure at hd
  dsimp only at hd
  split at hd
  · cases hd
  · obtain rfl := Option.some.inj hd
    refine Graded.single _ rfl rfl (by norm_num) ?_
    dsimp only
    split <;> decide

/-- **Every finding** has a confidence between 40 and 95, and evidence of weights up to 1. -/
theorem evaluate_graded {ctx : Context} (hh : h ∈ evaluate ctx) : Graded h := by
  obtain ⟨d, hd, hfire⟩ := mem_evaluate.mp hh
  -- one fact for each detector, in the order of registration
  have hall : ∀ d ∈ allDetectors, Grades d := by
    simp only [allDetectors, List.forall_mem_cons]
    exact ⟨crashloopDbConnection_grades, imagePull_grades, containerConfigError_grades,
      oomKilled_grades, initContainerFailure_grades, jobFailure_grades, probeFailure_grades,
      pendingUnschedulable_grades, storageEviction_grades, hpaCannotScale_grades,
      pdbBlocking_grades, nodePressure_grades, istioSidecarNotReady_grades, tlsCertificate_grades,
      dnsFailure_grades, by simp⟩
  exact hall d hd ctx h hfire

end SreAgent.Rca
