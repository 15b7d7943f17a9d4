import Mathlib.Data.Rat.Lemmas
import Mathlib.Tactic.NormNum
import SreAgent.Rca.Ordinary

/-!
# What every hypothesis has in common

A detector never leaves evidence without weight, and none asks for a rollback to nowhere as long as
no release is in play (`evaluate_modest`). So a report can always be built from what `evaluate`
returns, and the evidence of weight zero in it is what `diagnose` adds.

A hypothesis's fields are assigned one by one in the source, so nothing checks it before the report
does. That check fails on a target of `None`, which a release without a predecessor brings about.
-/

namespace SreAgent.Rca

/-! ## Building hypotheses

The same combinators as for other properties of hypotheses: one piece of evidence, one more, or two
fields that are left alone. -/

/-- There is a rollback target, and every piece of evidence counts for something. -/
structure Modest (h : Hypothesis) : Prop where
  target   : h.rollbackTarget = some ""
  weighted : ∀ e ∈ h.evidence, e.weight ≠ 0

/-- One more piece of evidence that counts. -/
theorem Modest.cite {h : Hypothesis} (hh : Modest h) {e : Evidence} (he : e.weight ≠ 0) :
    Modest (h.cite e) := by
  refine ⟨hh.target, fun e' he' => ?_⟩
  rcases List.mem_append.mp he' with he' | he'
  · exact hh.weighted e' he'
  · rw [List.mem_singleton.mp he']
    exact he

/-- A hypothesis with one piece of evidence. -/
theorem Modest.single {h : Hypothesis} {e : Evidence} (htarget : h.rollbackTarget = some "")
    (hevidence : h.evidence = [e]) (he : e.weight ≠ 0) : Modest h := by
  refine ⟨htarget, fun e' he' => ?_⟩
  rw [hevidence] at he'
  rw [List.mem_singleton.mp he']
  exact he

/-- `Modest` looks at two fields. -/
theorem Modest.of_eq {h h' : Hypothesis} (hh : Modest h) (htarget : h'.rollbackTarget = h.rollbackTarget)
    (hevidence : h'.evidence = h.evidence) : Modest h' :=
  ⟨htarget.trans hh.target, hevidence ▸ hh.weighted⟩

/-! ## The crash loop and the others

Every branch of the crash loop is modest on its own; crediting a release is the one step that may
break it, and with a secret it does nothing. -/

variable {ctx : Context} {h : Hypothesis}

theorem genericCrashloop_modest : Modest genericCrashloop :=
  Modest.single rfl rfl (by norm_num)

theorem crashloopAuth_modest (change : Option Change) (hh : Modest h) :
    Modest (crashloopAuth change h) := by
  have hrejected : Modest (h.cite { source := "logs", summary := "DB authentication failure in crash logs", weight := 0.42 }) :=
    hh.cite (by norm_num)
  unfold crashloopAuth
  dsimp only
  split
  · split
    · exact (hrejected.cite (by norm_num)).of_eq rfl rfl
    · exact hrejected.of_eq rfl rfl
  · exact hrejected.of_eq rfl rfl

theorem crashloopReach_modest (logs : String) (services : Option (List String)) (hh : Modest h) :
    Modest (crashloopReach logs services h) := by
  have hrefused : Modest (h.cite { source := "logs", summary := "DB connection timeout/refused in crash logs", weight := 0.4 }) :=
    hh.cite (by norm_num)
  unfold crashloopReach
  dsimp only
  split
  · exact (hrefused.cite (by norm_num)).of_eq rfl rfl
  · exact hrefused.of_eq rfl rfl

theorem crashloop_modest (hsecret : ∀ c ∈ ctx.recentChange, c.kind = .secret)
    (hd : crashloopDbConnection ctx = some h) : Modest h := by
  cases crashloopDbConnection_iff.mp hd with
  | generic => exact genericCrashloop_modest
  | auth =>
      rw [creditRelease_secret hsecret]
      exact crashloopAuth_modest _ genericCrashloop_modest
  | reach =>
      rw [creditRelease_secret hsecret]
      exact crashloopReach_modest _ _ genericCrashloop_modest

theorem Ordinary.modest {issues : List String} (hh : Ordinary issues h) : Modest h :=
  ⟨hh.target, fun e he => (hh.evidence e he).weighted⟩

/-- **Everything `evaluate` returns is modest**, where the recent change, if any, is that of a
secret. -/
theorem evaluate_modest (hsecret : ∀ c ∈ ctx.recentChange, c.kind = .secret)
    (hh : h ∈ evaluate ctx) : Modest h := by
  rcases crashloop_or_ordinary hh with hcrash | ⟨issues, hordinary⟩
  · exact crashloop_modest hsecret hcrash
  · exact hordinary.modest

end SreAgent.Rca
