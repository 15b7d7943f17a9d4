import Mathlib.Data.List.Basic

/-!
# Tables that agree on what an observer may see

Two tables agree for an observer when they have the same rows among those the observer may see, in
the same order. A reader that looks at no other rows cannot tell them apart (`Agree.filter`), and a
row the observer may not see can be added without breaking the agreement (`Agree.concat`), which is
how a reader that looks further is caught.

This is the two-run form of a confidentiality statement for reads: the tables stand for two worlds
that differ in what the observer must not learn, and being unable to tell them apart is being
answered the same in both.
-/

namespace Isolation

variable {α : Type*} {own : α → Bool} {l l' l'' : List α}

/-- The same rows of `own`. -/
def Agree (own : α → Bool) (l l' : List α) : Prop := l.filter own = l'.filter own

/-- Neither of the two tables is the right one. -/
theorem Agree.symm (h : Agree own l l') : Agree own l' l := Eq.symm h

/-- **A reader that stays within its own rows** reads the same from both tables. -/
theorem Agree.filter (h : Agree own l l') {reads : α → Bool}
    (hreads : ∀ a, reads a = true → own a = true) : l.filter reads = l'.filter reads := by
  -- selecting the own rows first loses nothing that is read
  have hboth : ∀ k : List α, k.filter reads = (k.filter own).filter reads := by
    intro k
    rw [List.filter_filter]
    apply List.filter_congr
    intro a _
    cases hr : reads a with
    | false => rfl
    | true => rw [hreads a hr]; rfl
  rw [hboth l, hboth l', h]

/-- A foreign row at the end. -/
theorem Agree.concat (l : List α) {a : α} (ha : own a = false) : Agree own (l ++ [a]) l := by
  rw [Agree, List.filter_append, List.filter_cons_of_neg (by simp [ha]), List.filter_nil,
    List.append_nil]

end Isolation
