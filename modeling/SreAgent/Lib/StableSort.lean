import Mathlib.Data.List.Induction
import Mathlib.Data.List.Sort

/-!
# The ends of a stable sort

Which element a stable sort by a key puts last can be said without sorting: of those with the
greatest key, the one listed last (`IsLast`). Taking it away leaves what the sort has before it
(`sort_of_isLast`), so the last but one is found the same way in the rest. A scan for the greatest
key takes the one listed first (`IsFirst`). Of two elements the ranking by falling keys puts that of
the greater key first, and of equals the one listed first (`pair_sublist_rank_iff`).
-/

namespace StableSort

open scoped List

variable {α β : Type*} [LinearOrder β] {key : α → β}

/-- Sorted by `key`, elements of equal keys staying in their order. -/
abbrev sort (key : α → β) (l : List α) : List α := l.insertionSort fun a b => key a ≤ key b

/-- By falling keys, elements of equal keys staying in their order. -/
abbrev rank (key : α → β) (l : List α) : List α := l.insertionSort fun a b => key b ≤ key a

/-- The result of sorting is sorted. -/
theorem pairwise_sort (key : α → β) (l : List α) :
    (sort key l).Pairwise fun a b => key a ≤ key b := by
  have htotal : Std.Total fun a b : α => key a ≤ key b := ⟨fun a b => le_total _ _⟩
  have htrans : IsTrans α fun a b => key a ≤ key b := ⟨fun a b c => le_trans⟩
  exact List.pairwise_insertionSort _ l

/-- Ranking is sorting by the reversed order. -/
theorem pairwise_rank (key : α → β) (l : List α) :
    (rank key l).Pairwise fun a b => key b ≤ key a :=
  pairwise_sort (OrderDual.toDual ∘ key) l

/-- `x` has the greatest key in `l` and stands behind all others that have it; `rest` are the
others. -/
def IsLast (key : α → β) (l : List α) (x : α) (rest : List α) : Prop :=
  ∃ before after, l = before ++ x :: after ∧ rest = before ++ after ∧
    (∀ a ∈ before, key a ≤ key x) ∧ ∀ a ∈ after, key a < key x

/-- Behind smaller keys an element stays behind. -/
theorem orderedInsert_of_lt {x : α} {l : List α} (h : ∀ a ∈ l, key a < key x) :
    l.orderedInsert (fun a b => key a ≤ key b) x = l ++ [x] := by
  induction l with
  | nil => rfl
  | cons a l ih =>
      have ha : ¬ key x ≤ key a := not_le.mpr (h a (List.mem_cons_self ..))
      have hl := ih fun b hb => h b (List.mem_cons_of_mem _ hb)
      rw [List.orderedInsert, if_neg ha, hl]
      rfl

/-- An element that is not greater goes before the last one. -/
theorem orderedInsert_concat {a x : α} (l : List α) (h : key a ≤ key x) :
    (l ++ [x]).orderedInsert (fun a b => key a ≤ key b) a =
      l.orderedInsert (fun a b => key a ≤ key b) a ++ [x] := by
  induction l with
  | nil =>
      rw [List.nil_append]
      exact if_pos h
  | cons b l ih =>
      by_cases hab : key a ≤ key b
      · rw [List.cons_append, List.orderedInsert, if_pos hab, List.orderedInsert, if_pos hab]
        rfl
      · rw [List.cons_append, List.orderedInsert, if_neg hab, List.orderedInsert, if_neg hab, ih]
        rfl

/-- **The last element comes off a stable sort**: it is the last of those with the greatest key, and
the others are sorted before it. -/
theorem sort_of_isLast {l rest : List α} {x : α} (h : IsLast key l x rest) :
    sort key l = sort key rest ++ [x] := by
  obtain ⟨before, after, rfl, rfl, hbefore, hafter⟩ := h
  induction before with
  | nil =>
      show (after.insertionSort _).orderedInsert _ x = _
      apply orderedInsert_of_lt
      intro a ha
      exact hafter a ((List.mem_insertionSort _).mp ha)
  | cons a before ih =>
      have hrest := ih fun b hb => hbefore b (List.mem_cons_of_mem _ hb)
      show (sort key (before ++ x :: after)).orderedInsert _ a = _
      rw [hrest, orderedInsert_concat _ (hbefore a (List.mem_cons_self ..))]
      rfl

/-- Every list but the empty one has a last element. -/
theorem exists_isLast {l : List α} (h : l ≠ []) : ∃ x rest, IsLast key l x rest := by
  induction l with
  | nil => exact absurd rfl h
  | cons a l ih =>
      rcases eq_or_ne l [] with rfl | hl
      · exact ⟨a, [], [], [], rfl, rfl, by simp, by simp⟩
      · obtain ⟨x, rest, before, after, rfl, rfl, hbefore, hafter⟩ := ih hl
        -- the new front is the last one only if it is greater than the last of the
        -- rest; on equal keys the later one stays last
        rcases le_or_gt (key a) (key x) with hle | hlt
        · refine ⟨x, a :: (before ++ after), a :: before, after, rfl, rfl, ?_, hafter⟩
          intro b hb
          rcases List.mem_cons.mp hb with rfl | hb
          · exact hle
          · exact hbefore b hb
        · refine ⟨a, before ++ x :: after, [], before ++ x :: after, rfl, rfl, by simp, ?_⟩
          intro b hb
          rcases List.mem_append.mp hb with hb | hb
          · exact lt_of_le_of_lt (hbefore b hb) hlt
          · rcases List.mem_cons.mp hb with rfl | hb
            · exact hlt
            · exact (hafter b hb).trans hlt

/-- One element less is left. -/
theorem IsLast.length {l rest : List α} {x : α} (h : IsLast key l x rest) :
    l.length = rest.length + 1 := by
  obtain ⟨before, after, rfl, rfl, -, -⟩ := h
  simp only [List.length_append, List.length_cons]
  omega

/-- `y` comes last but one. -/
def IsRunnerUp (key : α → β) (l : List α) (y : α) : Prop :=
  ∃ x rest rest', IsLast key l x rest ∧ IsLast key rest y rest'

/-- The last element is one of the list, and the others are too. -/
theorem IsLast.mem {l rest : List α} {x : α} (h : IsLast key l x rest) : x ∈ l := by
  obtain ⟨before, after, rfl, -, -, -⟩ := h
  exact List.mem_append_right _ (List.mem_cons_self ..)

theorem IsLast.subset {l rest : List α} {x : α} (h : IsLast key l x rest) : rest ⊆ l := by
  obtain ⟨before, after, rfl, rfl, -, -⟩ := h
  intro a ha
  rcases List.mem_append.mp ha with ha | ha
  · exact List.mem_append_left _ ha
  · exact List.mem_append_right _ (List.mem_cons_of_mem _ ha)

/-- The runner-up is an element of the list, which has at least two. -/
theorem IsRunnerUp.mem {l : List α} {y : α} (h : IsRunnerUp key l y) : y ∈ l := by
  obtain ⟨x, rest, rest', hx, hy⟩ := h
  exact hx.subset hy.mem

theorem IsRunnerUp.two_le {l : List α} {y : α} (h : IsRunnerUp key l y) : 2 ≤ l.length := by
  obtain ⟨x, rest, rest', hx, hy⟩ := h
  have := hx.length
  have := hy.length
  omega

/-- **The last but one of a stable sort** is the runner-up. -/
theorem getElem?_sort_of_isRunnerUp {l : List α} {y : α} (h : IsRunnerUp key l y) :
    (sort key l)[(sort key l).length - 2]? = some y := by
  obtain ⟨x, rest, rest', hx, hy⟩ := h
  rw [sort_of_isLast hx, sort_of_isLast hy]
  simp

/-- Two elements or more have a runner-up. -/
theorem exists_isRunnerUp {l : List α} (h : 2 ≤ l.length) : ∃ y, IsRunnerUp key l y := by
  have hne : l ≠ [] := by
    rintro rfl
    simp at h
  obtain ⟨x, rest, hx⟩ := @exists_isLast α β _ key l hne
  have hlen := hx.length
  have hrest : rest ≠ [] := by
    rintro rfl
    simp at hlen
    omega
  obtain ⟨y, rest', hy⟩ := @exists_isLast α β _ key rest hrest
  exact ⟨y, x, rest, rest', hx, hy⟩

/-- And one is all they have. -/
theorem IsRunnerUp.unique {l : List α} {y z : α} (hy : IsRunnerUp key l y)
    (hz : IsRunnerUp key l z) : y = z := by
  have heq := (getElem?_sort_of_isRunnerUp hy).symm.trans (getElem?_sort_of_isRunnerUp hz)
  exact Option.some.inj heq

/-- A bound below the first of a sort is a bound below all. -/
theorem le_head_sort {l : List α} {b : β} :
    (∀ a ∈ (sort key l).head?, b ≤ key a) ↔ ∀ a ∈ l, b ≤ key a := by
  have hsorted := pairwise_sort key l  -- the head of a sorted list is below all the others
  have hmem : ∀ a, a ∈ sort key l ↔ a ∈ l := fun a => List.mem_insertionSort _
  cases hs : sort key l with
  | nil =>
      have hnone : ∀ a, a ∉ l := by
        intro a ha
        rw [← hmem, hs] at ha
        cases ha
      simp [hnone]
  | cons x rest =>
      rw [hs] at hsorted
      constructor
      · intro h a ha
        have hx : b ≤ key x := h x rfl
        rw [← hmem, hs] at ha
        rcases List.mem_cons.mp ha with rfl | ha
        · exact hx
        · exact hx.trans (List.rel_of_pairwise_cons hsorted ha)
      · intro h a ha
        obtain rfl := Option.some.inj ha
        apply h
        rw [← hmem, hs]
        exact List.mem_cons_self ..

/-- **The least key** does not depend on the order of the list. -/
theorem head_sort_perm {l l' : List α} (h : l'.Perm l) :
    (sort key l').head?.map key = (sort key l).head?.map key := by
  -- both heads have the same lower bounds, since both lists have the same elements
  have hbound : ∀ b, (∀ a ∈ (sort key l').head?, b ≤ key a) ↔ ∀ a ∈ (sort key l).head?, b ≤ key a := by
    intro b
    rw [le_head_sort, le_head_sort]
    exact ⟨fun hall a ha => hall a (h.mem_iff.mpr ha), fun hall a ha => hall a (h.mem_iff.mp ha)⟩
  have hnil : sort key l' = [] ↔ sort key l = [] := by
    rw [← List.length_eq_zero_iff, ← List.length_eq_zero_iff, List.length_insertionSort,
      List.length_insertionSort, h.length_eq]
  cases hs : sort key l with
  | nil => rw [hnil.mpr hs]
  | cons x rest =>
      cases hs' : sort key l' with
      | nil => rw [hnil.mp hs'] at hs; cases hs
      | cons x' rest' =>
          rw [hs, hs'] at hbound
          have hle : key x' ≤ key x := (hbound (key x')).mp (by simp) x rfl
          have hge : key x ≤ key x' := (hbound (key x)).mpr (by simp) x' rfl
          exact congrArg some (le_antisymm hle hge)

/-! ## The first of the greatest

`max` with a key, and a loop that keeps the best so far, replace what they have only when something
strictly greater comes. Of several greatest they end with the one listed first, where a stable sort
puts last the one listed last. -/

/-- `x` has the greatest key in `l` and stands before all others that have it. -/
def IsFirst (key : α → β) (l : List α) (x : α) : Prop :=
  ∃ before after, l = before ++ x :: after ∧ (∀ a ∈ before, key a < key x) ∧
    ∀ a ∈ after, key a ≤ key x

/-- The first of the greatest is one of the list, and no key is greater than its own. -/
theorem IsFirst.mem {l : List α} {x : α} (h : IsFirst key l x) : x ∈ l := by
  obtain ⟨before, after, rfl, -, -⟩ := h
  exact List.mem_append_right _ (List.mem_cons_self ..)

theorem IsFirst.key_le {l : List α} {x a : α} (h : IsFirst key l x) (ha : a ∈ l) :
    key a ≤ key x := by
  obtain ⟨before, after, rfl, hbefore, hafter⟩ := h
  rcases List.mem_append.mp ha with ha | ha
  · exact (hbefore a ha).le
  · rcases List.mem_cons.mp ha with rfl | ha
    · exact le_rfl
    · exact hafter a ha

/-- **A scan that keeps what it has until something greater comes** ends at the first of the
greatest. -/
theorem isFirst_foldl (l : List α) (x : α) :
    IsFirst key (x :: l) (l.foldl (fun best a => if key best < key a then a else best) x) := by
  induction l using List.reverseRecOn with
  | nil => exact ⟨[], [], rfl, by simp, by simp⟩
  | append_singleton l a ih =>
      rw [List.foldl_concat]
      generalize l.foldl (fun best a => if key best < key a then a else best) x = best at *
      -- the new element takes the lead if it is strictly greater, and else nothing
      -- changes
      by_cases hlt : key best < key a
      · rw [if_pos hlt]
        refine ⟨x :: l, [], rfl, ?_, by simp⟩
        intro b hb
        exact lt_of_le_of_lt (ih.key_le hb) hlt
      · rw [if_neg hlt]
        obtain ⟨before, after, heq, hbefore, hafter⟩ := ih
        refine ⟨before, after ++ [a], ?_, hbefore, ?_⟩
        · rw [← List.cons_append, heq, List.append_assoc, List.cons_append]
        · intro b hb
          rcases List.mem_append.mp hb with hb | hb
          · exact hafter b hb
          · rw [List.mem_singleton.mp hb]
            exact not_lt.mp hlt

/-- Every list but the empty one has one. -/
theorem exists_isFirst {l : List α} (h : l ≠ []) : ∃ x, IsFirst key l x := by
  obtain ⟨a, l, rfl⟩ := List.exists_cons_of_ne_nil h
  exact ⟨_, isFirst_foldl l a⟩

/-- No element stands before itself. -/
theorem IsFirst.unique {l : List α} {x y : α} (hx : IsFirst key l x) (hy : IsFirst key l y) :
    x = y := by
  have hkey : key x = key y := le_antisymm (hy.key_le hx.mem) (hx.key_le hy.mem)
  obtain ⟨before, after, rfl, hbefore, -⟩ := hx
  obtain ⟨before', after', heq, hbefore', -⟩ := hy
  -- one of the two stands before the other, and before a first one all keys are less
  rcases List.append_eq_append_iff.mp heq with ⟨mid, rfl, hmid⟩ | ⟨mid, rfl, hmid⟩
  · cases mid with
    | nil => exact (List.cons.inj hmid).1
    | cons z mid =>
        obtain rfl : x = z := (List.cons.inj hmid).1
        exact absurd hkey (hbefore' x (by simp)).ne
  · cases mid with
    | nil => exact (List.cons.inj hmid).1.symm
    | cons z mid =>
        obtain rfl : y = z := (List.cons.inj hmid).1
        exact absurd hkey (hbefore y (by simp)).ne'

/-! ## Which of two comes first

Said with sublists: `[a, b]` is a sublist of the ranking if `a` stands before `b` in it. -/

/-- Two elements of a list stand in it one behind the other. -/
theorem pair_sublist_or {l : List α} {a b : α} (hne : a ≠ b) (ha : a ∈ l) (hb : b ∈ l) :
    [a, b] <+ l ∨ [b, a] <+ l := by
  obtain ⟨before, after, rfl⟩ := List.append_of_mem ha
  rcases List.mem_append.mp hb with hb | hb
  · right
    have hfront : [b] <+ before := List.singleton_sublist.mpr hb
    have hback : [a] <+ a :: after := List.singleton_sublist.mpr (List.mem_cons_self ..)
    exact hfront.append hback
  · left
    have hafter : b ∈ after := (List.mem_cons.mp hb).resolve_left hne.symm
    exact (List.Sublist.cons_cons a (List.singleton_sublist.mpr hafter)).trans
      (List.sublist_append_right before (a :: after))

/-- And if each stands there once, not the other way round as well. -/
theorem not_pair_sublist {l : List α} (hnd : l.Nodup) {a b : α} (h : [a, b] <+ l) :
    ¬ [b, a] <+ l := by
  intro h'
  induction l with
  | nil => cases h
  | cons c l ih =>
      obtain ⟨hc, hl⟩ := List.nodup_cons.mp hnd
      cases h with  -- the pairs begin at the head or behind it, and the head does not come again
      | cons _ h =>
          cases h' with
          | cons _ h' => exact ih hl h h'
          | cons_cons _ h' => exact hc (h.subset (by simp))
      | cons_cons _ h =>
          cases h' with
          | cons _ h' => exact hc (h'.subset (by simp))
          | cons_cons _ h' => exact hc (h.subset (by simp))

/-- **Of two ranked elements** that of the greater key comes first, and of equals the one listed
first. -/
theorem pair_sublist_rank_iff {l : List α} (hnd : l.Nodup) {a b : α} (hne : a ≠ b) (ha : a ∈ l)
    (hb : b ∈ l) :
    [a, b] <+ rank key l ↔ key b < key a ∨ key a = key b ∧ [a, b] <+ l := by
  have hsorted := pairwise_rank key l
  have hperm := List.perm_insertionSort (fun a b : α => key b ≤ key a) l
  have hranked : (rank key l).Nodup := hperm.nodup_iff.mpr hnd
  -- the law of a stable sort: what is in order already stays in its order
  have hstable : ∀ a b : α, key b ≤ key a → [a, b] <+ l → [a, b] <+ rank key l :=
    fun a b => List.pair_sublist_insertionSort (r := fun a b => key b ≤ key a)
  constructor
  · intro h
    have hle := List.pairwise_pair.mp (hsorted.sublist h)
    rcases hle.lt_or_eq with hlt | heq
    · exact .inl hlt
    · refine .inr ⟨heq.symm, ?_⟩
      rcases pair_sublist_or hne ha hb with hab | hba
      · exact hab
      · exact absurd (hstable b a heq.ge hba) (not_pair_sublist hranked h)
  · rintro (hlt | ⟨heq, hab⟩)
    · rcases pair_sublist_or hne (hperm.mem_iff.mpr ha) (hperm.mem_iff.mpr hb) with h | h
      · exact h
      · have hle := List.pairwise_pair.mp (hsorted.sublist h)
        exact absurd hlt (not_lt.mpr hle)
    · exact hstable a b heq.ge hab

end StableSort
