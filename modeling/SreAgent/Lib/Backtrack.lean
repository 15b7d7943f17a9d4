import Mathlib.Data.List.Basic

/-!
# Alternatives on one state

Attempts that run one after another on the same state until one comes through. An attempt that fails
may have changed the state before it failed; where none does (`CleanRun`), the outcome is that of the
successful attempt by itself (`firstOf_eq_alone`).

The state is passed on and not restored: that is what a chain of `try` blocks does that writes to
local variables. Whether it matters is a question about failed attempts only, and the failed
attempts are those in front of the first successful one. `Spec` asks for just these two things of an
attempt, when it comes through and when, having failed, it has left something behind.
-/

namespace Backtrack

variable {σ : Type*} {a : σ → Bool × σ} {as : List (σ → Bool × σ)} {s : σ}

/-- The outcome of the first attempt that comes through. -/
def firstOf : List (σ → Bool × σ) → σ → Bool × σ
  | [], s      => (false, s)
  | a :: as, s => if (a s).1 then a s else firstOf as (a s).2

/-- The same, as if the attempts before it had not run. -/
def alone (as : List (σ → Bool × σ)) (s : σ) : Bool × σ :=
  ((as.find? fun a => (a s).1).map fun a => a s).getD (false, s)

/-- Every attempt that runs and fails leaves the state as it was. -/
def CleanRun : List (σ → Bool × σ) → σ → Prop
  | [], _      => True
  | a :: as, s => (a s).1 = false → (a s).2 = s ∧ CleanRun as (a s).2

/-- What an attempt does on a state: when it comes through, and when a failed one has changed it. -/
structure Spec (a : σ → Bool × σ) (s : σ) (came left : Prop) : Prop where
  came_iff : (a s).1 = true ↔ came
  left_iff : ¬ came → ((a s).2 ≠ s ↔ left)

/-- **The first attempt of a run** spoils it if it leaves something, or the rest does. -/
theorem Spec.not_cleanRun {came left : Prop} (h : Spec a s came left) :
    ¬ CleanRun (a :: as) s ↔ ¬ came ∧ (left ∨ ¬ CleanRun as s) := by
  rw [CleanRun, ← Bool.not_eq_true, h.came_iff]
  by_cases hcame : came
  · simp [hcame]
  · -- it failed, and either has left the state alone or has not
    by_cases hsame : (a s).2 = s
    · have hleft : ¬ left := fun hl => (h.left_iff hcame).mpr hl hsame
      rw [hsame]
      simp [hcame, hleft]
    · have hleft : left := (h.left_iff hcame).mp hsame
      simp [hcame, hsame, hleft]

/-- If the first attempt comes through, the others do not run. -/
theorem firstOf_cons_came (h : (a s).1 = true) : firstOf (a :: as) s = a s := by
  rw [firstOf, if_pos h]

/-- If it fails, they run on the state it has left. -/
theorem firstOf_cons_failed (h : (a s).1 = false) : firstOf (a :: as) s = firstOf as (a s).2 := by
  rw [firstOf, h, if_neg Bool.false_ne_true]

/-- **A clean run backtracks**: if every attempt that fails leaves the state as it was, the first
success is as if it had been tried alone. -/
theorem firstOf_eq_alone (h : CleanRun as s) : firstOf as s = alone as s := by
  induction as with
  | nil => rfl
  | cons a as ih =>
      cases hcame : (a s).1 with
      | true => rw [firstOf_cons_came hcame, alone, List.find?_cons_of_pos (by exact hcame)]; rfl
      | false =>
          obtain ⟨hsame, hrest⟩ := h hcame
          rw [hsame] at hrest
          rw [firstOf_cons_failed hcame, hsame, ih hrest, alone, alone,
            List.find?_cons_of_neg (by simp [hcame])]

/-- Where none would come through on the state, the state is what it was. -/
theorem alone_failed (h : (alone as s).1 = false) : alone as s = (false, s) := by
  cases hfind : as.find? fun a => (a s).1 with
  | none => rw [alone, hfind]; rfl
  | some a =>
      have hcame : (a s).1 = true := List.find?_some (p := fun a : σ → Bool × σ => (a s).1) hfind
      rw [alone, hfind] at h
      exact absurd (h.symm.trans hcame) Bool.false_ne_true

/-- **If all fail cleanly**, nothing has happened: the state is the one the first attempt found. -/
theorem firstOf_failed (h : CleanRun as s) (hfailed : (firstOf as s).1 = false) :
    firstOf as s = (false, s) := by
  rw [firstOf_eq_alone h] at hfailed ⊢
  exact alone_failed hfailed

end Backtrack
