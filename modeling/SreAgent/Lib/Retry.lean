import Mathlib.Data.List.Count
import Mathlib.Data.List.Pairwise

/-!
# Retried attempts

An attempt is made again as long as its outcome asks for it, up to a fixed number of times. Nothing
is known of the outcomes in advance: `outcome k` is what the `k`-th attempt would end with if it
were made. `made` lists the attempts that are. An effect the attempts may have on somebody else
happens at most once exactly when no two of them have it (`countP_made_le_one_iff`); the caller's
own view of an outcome does not come into it.

The caller sees the outcome of the last attempt. The receiver has seen all of them, and one that
timed out on the way back may have had its effect. Only the receiver's side is treated here:
`effect` is what an outcome means for it, and is independent of `again`, which is what the outcome
looks like to the caller.
-/

namespace Retry

variable {τ : Type*}

/-- The attempts from the `k`-th on, with `left` of them allowed. -/
def made (again : τ → Bool) (outcome : ℕ → τ) : (left k : ℕ) → List τ
  | 0,        _ => []
  | left + 1, k => outcome k :: if again (outcome k) then made again outcome left (k + 1) else []

variable {again : τ → Bool} {outcome : ℕ → τ}

/-- The `i`-th attempt made ends with the `i`-th outcome. -/
theorem getElem_made {left k i : ℕ} (h : i < (made again outcome left k).length) :
    (made again outcome left k)[i] = outcome (k + i) := by
  induction left generalizing k i with
  | zero => simp [made] at h
  | succ left ih =>
      cases i with
      | zero => simp [made]
      | succ i =>
          by_cases ha : again (outcome k) = true
          · simp only [made, ha, if_true, List.length_cons, Nat.add_lt_add_iff_right] at h
            simp only [made, ha, if_true, List.getElem_cons_succ]
            rw [ih h, Nat.add_assoc, Nat.add_comm 1]
          · simp [made, ha] at h

/-- An attempt is made when it is allowed and every earlier one asked for another. -/
theorem lt_length_made_iff {left k i : ℕ} :
    i < (made again outcome left k).length ↔
      i < left ∧ ∀ m < i, again (outcome (k + m)) = true := by
  induction left generalizing k i with
  | zero => simp [made]
  | succ left ih =>
      cases i with
      | zero => simp [made]
      | succ i =>
          -- the condition on all earlier attempts, split into the first and the rest
          have hshift : (∀ m < i + 1, again (outcome (k + m)) = true) ↔
              again (outcome k) = true ∧ ∀ m < i, again (outcome (k + 1 + m)) = true := by
            rw [Nat.forall_lt_succ_left]
            simp only [Nat.add_zero, Nat.add_assoc, Nat.add_comm 1]
          rw [hshift]
          by_cases ha : again (outcome k) = true
          · simp only [made, ha, if_true, List.length_cons, Nat.add_lt_add_iff_right, ih, true_and]
          · simp [made, ha]

/-- No more attempts are made than are allowed. -/
theorem length_made_le (left k : ℕ) : (made again outcome left k).length ≤ left := by
  by_contra h
  have hlt := (@lt_length_made_iff τ again outcome left k left).mp (Nat.lt_of_not_le h)
  exact absurd hlt.1 (Nat.lt_irrefl _)

/-- What happens at most once happens at no two places. -/
theorem countP_le_one_iff {p : τ → Bool} {l : List τ} :
    l.countP p ≤ 1 ↔ l.Pairwise fun a b => p a = true → p b = false := by
  induction l with
  | nil => simp
  | cons a l ih =>
      rw [List.pairwise_cons, ← ih]
      cases ha : p a with
      | false => simp [ha]
      | true =>  -- one is found, so none is left to be found behind it
          rw [List.countP_cons_of_pos ha]
          constructor
          · intro h
            have hzero : l.countP p = 0 := by omega
            refine ⟨fun b hb _ => ?_, by omega⟩
            simpa using List.countP_eq_zero.mp hzero b hb
          · rintro ⟨hnone, -⟩
            have hzero : l.countP p = 0 := by
              rw [List.countP_eq_zero]
              intro b hb
              simp [hnone b hb rfl]
            omega

/-- **An effect at most once**: of two attempts that would have it, one is not made. -/
theorem countP_made_le_one_iff {effect : τ → Bool} {left : ℕ} :
    (made again outcome left 0).countP effect ≤ 1 ↔
      ∀ i j, i < j → j < left → effect (outcome i) = true → effect (outcome j) = true →
        ∃ m < j, again (outcome m) = false := by
  rw [countP_le_one_iff, List.pairwise_iff_getElem]
  constructor
  · intro h i j hij hj hi hej
    by_contra hall
    have hmade : ∀ m < j, again (outcome m) = true := by  -- both attempts are made
      intro m hm
      by_contra hstop
      exact hall ⟨m, hm, by simpa using hstop⟩
    have hjl : j < (made again outcome left 0).length :=
      lt_length_made_iff.mpr ⟨hj, by simpa using hmade⟩
    have hno := h i j (Nat.lt_trans hij hjl) hjl hij
    rw [getElem_made, getElem_made] at hno
    simp [hi, hej] at hno
  · intro h i j hil hjl hij hi
    rw [getElem_made] at hi ⊢
    obtain ⟨hj, hmade⟩ := lt_length_made_iff.mp hjl
    by_contra hej
    obtain ⟨m, hm, hstop⟩ := h i j hij hj (by simpa using hi) (by simpa using hej)
    have hagain := hmade m hm
    simp [hstop] at hagain

end Retry
