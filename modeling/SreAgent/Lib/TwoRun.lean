import Mathlib.Data.List.Basic

/-!
# Two runs side by side

Two computations that may fail are related when they fail alike or return related values. The relation
goes through a sequence of steps (`Related.bind`), so that what two runs of one program have in common
is found out step by step. Runs that differ in the order of their inputs meet lists that are
permutations of each other, from which a search for something unique picks the same (`find?_perm`).

An error is part of the outcome. Two runs that raise different errors are not related, however alike
what they did before was; so whoever proves two runs related has to say which of several errors
comes first.
-/

namespace TwoRun

universe u v

variable {ε : Type v} {α β γ δ : Type u} {R : α → β → Prop} {S : γ → δ → Prop}

/-- Both fail with the same error, or both return and `R` holds of what they return. -/
inductive Related (R : α → β → Prop) : Except ε α → Except ε β → Prop where
  | ok {a : α} {b : β} (h : R a b) : Related R (.ok a) (.ok b)
  | error (e : ε) : Related R (.error e) (.error e)

/-- A run is related to itself, if values are to themselves. -/
theorem Related.refl {R : α → α → Prop} (h : ∀ a, R a a) (x : Except ε α) : Related R x x := by
  cases x with
  | error e => exact .error e
  | ok a => exact .ok (h a)

/-- Equal outcomes are related by equality, also when both are errors. -/
theorem Related.of_eq {x y : Except ε α} (h : x = y) : Related Eq x y := by
  rw [h]
  exact .refl (fun _ => rfl) y

/-- **One step after another**: if the first steps are related, and the second ones are for related
results, so are the two runs. -/
theorem Related.bind {x : Except ε α} {y : Except ε β} {f : α → Except ε γ} {g : β → Except ε δ}
    (h : Related R x y) (hstep : ∀ a b, R a b → Related S (f a) (g b)) :
    Related S (x >>= f) (y >>= g) := by
  cases h with
  | error e => exact .error e
  | ok hab => exact hstep _ _ hab

/-- What is related to a run that returns has returned as well. -/
theorem Related.of_ok {a : α} {y : Except ε β} (h : Related R (.ok a) y) : ∃ b, y = .ok b ∧ R a b := by
  cases h with
  | ok hab => exact ⟨_, rfl, hab⟩

/-! ## Permutations

The code picks a first element in several places. In another order it picks the same one if there is
no other that fits, and one that looks the same if all that fit look alike; there is no third way to
be safe. -/

/-- **What is unique is found in any order**: a permutation has the same first element with a
property, if no other one has it. -/
theorem find?_perm {l l' : List α} {p : α → Bool} (h : l'.Perm l)
    (hunique : ∀ a ∈ l, ∀ b ∈ l, p a = true → p b = true → a = b) : l'.find? p = l.find? p := by
  cases hl : l.find? p with
  | none =>
      rw [List.find?_eq_none] at hl ⊢
      intro a ha
      exact hl a (h.mem_iff.mp ha)
  | some a =>
      have hmem : a ∈ l := List.mem_of_find?_eq_some hl
      -- found in the one order: it is there in the other, and nothing else is
      have hpa : p a = true := List.find?_some hl
      cases hl' : l'.find? p with
      | none => exact absurd hpa (List.find?_eq_none.mp hl' a (h.mem_iff.mpr hmem))
      | some b =>
          have hb : b ∈ l := h.mem_iff.mp (List.mem_of_find?_eq_some hl')
          rw [hunique b hb a hmem (List.find?_some hl') hpa]

/-- Where all agree, it does not matter which one comes first. -/
theorem head?_perm {ι κ : Type*} {l l' : List ι} {f : ι → κ} (h : l'.Perm l)
    (hsame : ∀ a ∈ l, ∀ b ∈ l, f a = f b) : l'.head?.map f = l.head?.map f := by
  cases l with
  | nil => rw [h.eq_nil]
  | cons a l =>
      cases l' with
      | nil => cases h.symm.eq_nil
      | cons b l' =>
          have hb : b ∈ a :: l := h.mem_iff.mp (List.mem_cons_self ..)
          exact congrArg some (hsame b hb a (List.mem_cons_self ..))

end TwoRun
