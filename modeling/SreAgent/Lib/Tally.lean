import Mathlib.Algebra.BigOperators.Group.Finset.Piecewise
import Mathlib.Data.List.Count
import Mathlib.Logic.Function.Basic

/-!
# Labelled counters

A family of counters, one for each label, of which one goes up at a time. Whatever order the labels
came in, a counter stands at the number of times its own label came (`bump_apply`), and some
counters together at the number of times one of theirs came (`sum_bump`).

A counter that is read over the network is a number, and a number says little about where it came
from. The two laws give it its meaning back: what it stands for is a count of a list, and lists can
be reasoned about.
-/

/-- A counter for each label. -/
abbrev Tally (L : Type*) := L → ℕ

namespace Tally

variable {L : Type*} [DecidableEq L]

def zero : Tally L := fun _ => 0

def inc (t : Tally L) (l : L) : Tally L := Function.update t l (t l + 1)

def bump (t : Tally L) (ls : List L) : Tally L := ls.foldl inc t

omit [DecidableEq L] in
@[simp] theorem zero_apply (l : L) : (zero : Tally L) l = 0 := rfl

@[simp] theorem inc_self (t : Tally L) (l : L) : t.inc l l = t l + 1 := Function.update_self ..

/-- The counters of the other labels stay where they are. -/
theorem inc_of_ne (t : Tally L) {l l' : L} (h : l' ≠ l) : t.inc l l' = t l' :=
  Function.update_of_ne h ..

/-- One more of a label, if there is one. -/
def note (t : Tally L) : Option L → Tally L
  | some l => t.inc l
  | none   => t

/-- One more event, of which the label is counted. -/
theorem bump_filterMap_concat {E : Type*} (t : Tally L) (label : E → Option L) (es : List E)
    (e : E) :
    t.bump ((es ++ [e]).filterMap label) = (t.bump (es.filterMap label)).note (label e) := by
  rw [bump, List.filterMap_append, List.foldl_append]
  cases h : label e with
  | none => simp [h, note, bump]
  | some l => simp [h, note, bump]

/-- **A counter stands at the number of times its label came.** -/
theorem bump_apply (t : Tally L) (ls : List L) (l : L) : t.bump ls l = t l + ls.count l := by
  induction ls generalizing t with
  | nil => rfl
  | cons l' ls ih =>
      show (t.inc l').bump ls l = _
      rw [ih]
      rcases eq_or_ne l l' with rfl | h
      · rw [inc_self, List.count_cons_self]
        omega
      · rw [inc_of_ne t h, List.count_cons_of_ne h.symm]

/-- **Nothing is counted twice, and nothing is left out**: some counters together stand at the number
of times one of their labels came. -/
theorem sum_bump (ls : List L) (chosen : Finset L) :
    ∑ l ∈ chosen, zero.bump ls l = ls.countP (· ∈ chosen) := by
  induction ls with
  | nil => exact Finset.sum_const_zero
  | cons l' ls ih =>
      -- the new label raises its own counter, whether that is chosen or not
      have hstep : ∀ l, zero.bump (l' :: ls) l = zero.bump ls l + if l' = l then 1 else 0 := by
        intro l
        rw [bump_apply, bump_apply, List.count_cons, Nat.add_assoc]
        simp
      rw [Finset.sum_congr rfl fun l _ => hstep l, Finset.sum_add_distrib, ih,
        Finset.sum_ite_eq, List.countP_cons]
      simp

end Tally
