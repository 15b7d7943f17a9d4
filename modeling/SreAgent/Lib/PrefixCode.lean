import Mathlib.Data.List.Infix

/-!
# Cut texts of a prefix code

A text is encoded piece by piece with a code no word of which begins another, closed by a mark that
begins no code word, and cut after `n` symbols. What is left determines the first `n` symbols of
the encoded text and is determined by them (`take_eq_iff`), so the mark adds nothing.

The application in mind is a text shown to a reader up to a limit. Two texts may differ behind the
limit, and then nothing can tell them apart; and two texts that look alike up to the limit have to
be continued in the same way, or the reader learns where one of them ended. The mark is what stands
between a text and its continuation, a closing quote for instance.
-/

namespace PrefixCode

variable {α β : Type*} {enc : α → List β} {mark : β}

/-- A common beginning uses up its part of the cut. -/
theorem take_append_left_inj {u x y : List β} {n : ℕ} :
    (u ++ x).take n = (u ++ y).take n ↔ x.take (n - u.length) = y.take (n - u.length) := by
  have peel : ∀ z : List β, (u ++ z).take n = u.take n ++ z.take (n - u.length) := by
    intro z
    exact List.take_append
  rw [peel, peel]
  exact ⟨List.append_cancel_left, fun h => by rw [h]⟩

/-- Two lists with the same beginning still have it when both are continued alike. -/
theorem take_append_congr {l l' : List β} {n : ℕ} (h : l.take n = l'.take n) (r : List β) :
    (l ++ r).take n = (l' ++ r).take n := by
  by_cases hn : n ≤ l.length ∧ n ≤ l'.length
  · rw [List.take_append_of_le_length hn.1, List.take_append_of_le_length hn.2, h]
  · -- a list shorter than the cut is the whole beginning, and so is the other
    have hlen := congrArg List.length h
    simp only [List.length_take] at hlen
    have heq : l = l' := by
      rwa [List.take_of_length_le (by omega), List.take_of_length_le (by omega)] at h
    rw [heq]

/-- Words that agree up to a cut inside both say nothing about what follows them. -/
theorem take_of_disagree {u v x y : List β} {n : ℕ} (huv : ¬ u <+: v) (hvu : ¬ v <+: u)
    (h : (u ++ x).take n = (v ++ y).take n) (x' y' : List β) :
    (u ++ x').take n = (v ++ y').take n := by
  -- the cut is within both words: behind the shorter one it would make it a prefix of the other
  have hn : n ≤ u.length ∧ n ≤ v.length := by
    by_contra hcut
    rcases Nat.lt_or_ge u.length v.length with hlt | hle
    · apply huv
      have hpre := congrArg (List.take u.length) h
      rw [List.take_take, List.take_take, Nat.min_eq_left (by omega),
        List.take_append_of_le_length (Nat.le_of_lt hlt), List.take_append_of_le_length (Nat.le_refl _),
        List.take_length] at hpre
      rw [hpre]
      exact List.take_prefix ..
    · apply hvu
      have hpre := congrArg (List.take v.length) h
      rw [List.take_take, List.take_take, Nat.min_eq_left (by omega),
        List.take_append_of_le_length hle, List.take_append_of_le_length (Nat.le_refl _),
        List.take_length] at hpre
      rw [← hpre]
      exact List.take_prefix ..
  rw [List.take_append_of_le_length hn.1, List.take_append_of_le_length hn.2] at h ⊢
  exact h

/-- Of two cut texts that look the same after the mark was added, one does not end before the
other. -/
theorem take_of_take_mark (hfree : ∀ a b, enc a <+: enc b → a = b)
    (hmark : ∀ a, ∃ c w, enc a = c :: w ∧ c ≠ mark) {s t : List α} {r r' : List β} {n : ℕ}
    (h : (s.flatMap enc ++ mark :: r).take n = (t.flatMap enc ++ mark :: r').take n) :
    (s.flatMap enc).take n = (t.flatMap enc).take n := by
  induction s generalizing t n with
  | nil =>
      cases t with
      | nil => rfl
      | cons b t =>
          obtain ⟨c, w, hb, hc⟩ := hmark b
          cases n with
          | zero => rfl
          | succ n =>
              simp only [List.flatMap_nil, List.flatMap_cons, hb, List.nil_append, List.cons_append,
                List.take_succ_cons] at h
              exact absurd (List.cons.inj h).1.symm hc
  | cons a s ih =>
      cases t with
      | nil =>
          obtain ⟨c, w, ha, hc⟩ := hmark a
          cases n with
          | zero => rfl
          | succ n =>
              simp only [List.flatMap_nil, List.flatMap_cons, ha, List.nil_append, List.cons_append,
                List.take_succ_cons] at h
              exact absurd (List.cons.inj h).1 hc
      | cons b t =>
          simp only [List.flatMap_cons, List.append_assoc] at h ⊢
          -- the same word on both sides uses up the same part of the cut, and
          -- different words disagree inside it
          by_cases hab : a = b
          · subst hab
            exact take_append_left_inj.mpr (ih (take_append_left_inj.mp h))
          · exact take_of_disagree (fun hpre => hab (hfree a b hpre))
              (fun hpre => hab (hfree b a hpre).symm) h _ _

/-- **A cut text shows what the cut leaves of its words**, and nothing else. -/
theorem take_eq_iff (hfree : ∀ a b, enc a <+: enc b → a = b)
    (hmark : ∀ a, ∃ c w, enc a = c :: w ∧ c ≠ mark) {s t : List α} (r : List β) {n : ℕ} :
    (s.flatMap enc ++ mark :: r).take n = (t.flatMap enc ++ mark :: r).take n ↔
      (s.flatMap enc).take n = (t.flatMap enc).take n :=
  ⟨take_of_take_mark hfree hmark, fun h => take_append_congr h _⟩

end PrefixCode
