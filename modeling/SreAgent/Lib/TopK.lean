import SreAgent.Lib.StableSort

/-!
# Ranking a part of a list

`IsTop` says that some rows are the first `n` of a list by a key, whatever happens to elements of
equal keys. A query that ranks only a part of its candidates returns the first `n` of all of them
exactly when each candidate left out is no better than `n` of those kept (`isTop_pruned_iff`). A list
cut at the wrong end keeps the greatest keys only if there is one key (`ascending_cut_iff`).

A database may order rows of equal keys as it likes, and a program that takes the first of them
takes what it gets. So nothing here says which rows come out of a ranking, only that they are the
first of some ranking; a theorem with `IsTop` on both sides is about every way the ties may have
been broken.
-/

namespace TopK

variable {α β : Type*} [LinearOrder β] {key : α → β} {n : Nat}

/-- The greatest keys come first. -/
def Descending (key : α → β) (l : List α) : Prop := l.Pairwise fun a b => key b ≤ key a

/-- `rows` are the first `n` of `l`, in one of its descending orders. -/
def IsTop (key : α → β) (n : Nat) (l rows : List α) : Prop :=
  ∃ ranking : List α, ranking.Perm l ∧ Descending key ranking ∧ rows = ranking.take n

/-- Sorting and cutting is one way to rank. -/
theorem isTop_sort (l : List α) :
    IsTop key n l ((l.insertionSort fun a b => key b ≤ key a).take n) :=
  ⟨_, List.perm_insertionSort _ l, StableSort.pairwise_rank key l, rfl⟩

/-- **A ranking without the ranked list**: what is left out is no better than anything taken, and
nothing is left out as long as there is room. -/
theorem isTop_iff {l rows : List α} :
    IsTop key n l rows ↔
      Descending key rows ∧ ∃ rest, l.Perm (rows ++ rest) ∧ (∀ a ∈ rows, ∀ x ∈ rest, key x ≤ key a) ∧
        rows.length ≤ n ∧ (rest ≠ [] → rows.length = n) := by
  constructor
  · rintro ⟨ranking, hperm, hdesc, rfl⟩
    -- cut the ranking and read both parts off it
    have hsplit : Descending key (ranking.take n ++ ranking.drop n) := by
      rw [List.take_append_drop]
      exact hdesc
    obtain ⟨htake, -, hcross⟩ := List.pairwise_append.mp hsplit
    refine ⟨htake, ranking.drop n, ?_, hcross, List.length_take_le .., ?_⟩
    · rw [List.take_append_drop]
      exact hperm.symm
    · intro hne
      have hlong : n < ranking.length := by
        by_contra hshort
        exact hne (List.drop_of_length_le (not_lt.mp hshort))
      rw [List.length_take]
      omega
  · rintro ⟨hdesc, rest, hperm, hcross, hle, hfull⟩
    -- what is left out may stand in any descending order behind what is taken
    have hsorted := List.perm_insertionSort (fun a b : α => key b ≤ key a) rest
    refine ⟨rows ++ rest.insertionSort fun a b => key b ≤ key a,
      (List.Perm.append_left rows hsorted).trans hperm.symm, ?_, ?_⟩
    · apply List.pairwise_append.mpr
      refine ⟨hdesc, StableSort.pairwise_rank key rest, fun a ha x hx => hcross a ha x ?_⟩
      exact hsorted.mem_iff.mp hx
    · cases rest with
      | nil => rw [List.insertionSort_nil, List.append_nil, List.take_of_length_le hle]
      | cons x rest => rw [← hfull (List.cons_ne_nil x rest), List.take_left]

/-- What is left out of a ranking is no better than what it takes. -/
theorem IsTop.le_of_notMem {l rows : List α} (h : IsTop key n l rows) {a x : α} (ha : a ∈ rows)
    (hx : x ∈ l) (hout : x ∉ rows) : key x ≤ key a := by
  obtain ⟨-, rest, hperm, hcross, -⟩ := isTop_iff.mp h
  have hrest := (List.mem_append.mp (hperm.mem_iff.mp hx)).resolve_left hout
  exact hcross a ha x hrest

/-- An element has `n` of a list before it or beside it iff the first `n` of that list are there and
each is as good. -/
theorem IsTop.le_countP_iff {kept rows : List α} (hrows : IsTop key n kept rows) (x : α) :
    n ≤ kept.countP (fun a => key x ≤ key a) ↔ rows.length = n ∧ ∀ a ∈ rows, key x ≤ key a := by
  obtain ⟨-, rest, hperm, hcross, hle, hfull⟩ := isTop_iff.mp hrows
  have hcount : kept.countP (fun a => key x ≤ key a) =
      rows.countP (fun a => key x ≤ key a) + rest.countP fun a => key x ≤ key a := by
    rw [hperm.countP_eq, List.countP_append]
  constructor
  · intro hmany
    refine ⟨?_, fun a ha => ?_⟩
    · by_cases hrest : rest = []
      · have hlen := hmany.trans List.countP_le_length
        rw [hperm.length_eq, hrest, List.append_nil] at hlen
        exact le_antisymm hle hlen
      · exact hfull hrest
    · by_contra hlt
      -- otherwise only elements taken before `a` count for `x`, and they are too few
      have hnone : rest.countP (fun b => key x ≤ key b) = 0 := by
        rw [List.countP_eq_zero]
        intro b hb hle'
        exact hlt ((of_decide_eq_true hle').trans (hcross a ha b hb))
      have hfew : rows.countP (fun b => key x ≤ key b) < rows.length := by
        apply lt_of_le_of_ne List.countP_le_length
        intro heq
        exact hlt (of_decide_eq_true (List.countP_eq_length.mp heq a ha))
      rw [hcount, hnone] at hmany
      omega
  · rintro ⟨hlen, hall⟩
    have hrows' : rows.countP (fun a => key x ≤ key a) = rows.length :=
      List.countP_eq_length.mpr fun a ha => decide_eq_true (hall a ha)
    rw [hcount, hrows', hlen]
    exact Nat.le_add_right _ _

/-- **Ranking a part.** The first `n` of the part that is kept are the first `n` of the whole iff
each element that is cut has `n` elements before it or beside it in that part. -/
theorem isTop_pruned_iff {l kept cut rows : List α} (hl : l.Perm (kept ++ cut))
    (hrows : IsTop key n kept rows) :
    IsTop key n l rows ↔ ∀ x ∈ cut, n ≤ kept.countP fun a => key x ≤ key a := by
  simp only [hrows.le_countP_iff]
  obtain ⟨hdesc, rest, hkept, hcross, hle, hfull⟩ := isTop_iff.mp hrows
  -- what is not taken was left over in the part, or cut before it
  have hwhole : l.Perm (rows ++ (rest ++ cut)) := by
    rw [← List.append_assoc]
    exact hl.trans (hkept.append_right cut)
  constructor
  · intro h x hx
    obtain ⟨-, rest', hperm, hcross', -, hfull'⟩ := isTop_iff.mp h
    have hrest : (rest ++ cut).Perm rest' :=
      (List.perm_append_left_iff rows).mp (hwhole.symm.trans hperm)
    have hmem : x ∈ rest' := hrest.mem_iff.mp (List.mem_append_right _ hx)
    exact ⟨hfull' (List.ne_nil_of_mem hmem), fun a ha => hcross' a ha x hmem⟩
  · intro h
    refine isTop_iff.mpr ⟨hdesc, rest ++ cut, hwhole, ?_, hle, ?_⟩
    · intro a ha x hx
      rcases List.mem_append.mp hx with hx | hx
      · exact hcross a ha x hx
      · exact (h x hx).2 a ha
    · intro hne
      by_cases hrest : rest = []
      · rw [hrest, List.nil_append] at hne
        obtain ⟨x, hx⟩ := List.exists_mem_of_ne_nil cut hne
        exact (h x hx).1
      · exact hfull hrest

/-- **The first of an ascending list** are as great as what is cut off exactly if nothing is cut off, or
all keys are the same. -/
theorem ascending_cut_iff {l : List α} (hl : l.Pairwise fun a b => key a ≤ key b) :
    (∀ a ∈ l.take n, ∀ x ∈ l.drop n, key x ≤ key a) ↔
      (0 < n → n < l.length → ∀ a ∈ l, ∀ x ∈ l, key a = key x) := by
  constructor
  · intro h hpos hlong
    -- something is kept and something is cut off
    obtain ⟨first, rest, hfirst⟩ : ∃ first rest, l.take n = first :: rest :=
      List.exists_cons_of_ne_nil (List.ne_nil_of_length_pos (by rw [List.length_take]; omega))
    obtain ⟨last, hlast⟩ : ∃ last, last ∈ l.drop n :=
      List.exists_mem_of_ne_nil _ (List.ne_nil_of_length_pos (by rw [List.length_drop]; omega))
    have hsplit : (l.take n ++ l.drop n).Pairwise fun a b => key a ≤ key b := by
      rwa [List.take_append_drop]
    obtain ⟨htake, -, hcross⟩ := List.pairwise_append.mp hsplit
    have hmem : first ∈ l.take n := hfirst ▸ List.mem_cons_self
    -- the least key is at the front, and what is cut off is not greater
    have hone : ∀ a ∈ l, key a = key first := by
      intro a ha
      rw [← List.take_append_drop n l, List.mem_append] at ha
      rcases ha with ha | ha
      · refine le_antisymm ((hcross a ha last hlast).trans (h first hmem last hlast)) ?_
        rw [hfirst] at ha htake
        rcases List.mem_cons.mp ha with rfl | ha
        · exact le_rfl
        · exact List.rel_of_pairwise_cons htake ha
      · exact le_antisymm (h first hmem a ha) (hcross first hmem a ha)
    intro a ha x hx
    rw [hone a ha, hone x hx]
  · intro h a ha x hx
    have hpos : 0 < n := by
      by_contra hzero
      rw [Nat.eq_zero_of_not_pos hzero, List.take_zero] at ha
      cases ha
    have hlong : n < l.length := by
      have hrest := List.length_pos_of_mem hx
      rw [List.length_drop] at hrest
      omega
    exact (h hpos hlong x (List.mem_of_mem_drop hx) a (List.mem_of_mem_take ha)).le

/-- What comes first in a list makes a beginning of it. -/
theorem filter_append_filter {p : α → Bool} {l : List α}
    (h : l.Pairwise fun a b => p b = true → p a = true) :
    l.filter p ++ l.filter (fun a => !p a) = l := by
  induction l with
  | nil => rfl
  | cons a l ih =>
      obtain ⟨hhead, htail⟩ := List.pairwise_cons.mp h
      have hall := ih htail
      cases ha : p a with
      | true => simp [ha, hall]
      | false =>
          -- behind the first element without the property nothing has it
          have hnone : l.filter p = [] := by
            rw [List.filter_eq_nil_iff]
            intro b hb hpb
            rw [hhead b hb hpb] at ha
            cases ha
          rw [hnone, List.nil_append] at hall
          simp [ha, hnone, hall]

/-- **Two classes in one list**, each of them ascending, the one of `p` in front: the class that is cut
has to be of one key. -/
theorem class_cut_iff {p : α → Bool} {l : List α} (hp : l.Pairwise fun a b => p b = true → p a = true)
    (hl : l.Pairwise fun a b => p a = p b → key a ≤ key b) :
    (∀ a ∈ l.take n, ∀ x ∈ l.drop n, p a = p x → key x ≤ key a) ↔
      (0 < n → n < (l.filter p).length → ∀ a ∈ l.filter p, ∀ x ∈ l.filter p, key a = key x) ∧
      (0 < n - (l.filter p).length → n - (l.filter p).length < (l.filter fun a => !p a).length →
        ∀ a ∈ l.filter fun a => !p a, ∀ x ∈ l.filter fun a => !p a, key a = key x) := by
  -- within a class the list is ascending, so the lemma above applies to each
  have hfront : (l.filter p).Pairwise fun a b => key a ≤ key b :=
    (hl.filter p).imp_of_mem fun ha hb hab => hab
      ((List.mem_filter.mp ha).2.trans (List.mem_filter.mp hb).2.symm)
  have hback : (l.filter fun a => !p a).Pairwise fun a b => key a ≤ key b :=
    (hl.filter _).imp_of_mem fun ha hb hab => hab
      (Bool.not_inj ((List.mem_filter.mp ha).2.trans (List.mem_filter.mp hb).2.symm))
  have hsplit := filter_append_filter hp
  have hin : ∀ a ∈ l.filter p, p a = true := fun a ha => (List.mem_filter.mp ha).2
  have hout : ∀ a ∈ l.filter fun a => !p a, p a = false := fun a ha =>
    Bool.not_eq_true' _ ▸ (List.mem_filter.mp ha).2
  rw [← ascending_cut_iff hfront, ← ascending_cut_iff hback]
  generalize l.filter p = front at hsplit hin
  generalize l.filter (fun a => !p a) = back at hsplit hout
  subst hsplit
  rw [List.take_append, List.drop_append]
  constructor
  · intro h
    constructor
    · intro a ha x hx
      apply h a (List.mem_append_left _ ha) x (List.mem_append_left _ hx)
      rw [hin a (List.mem_of_mem_take ha), hin x (List.mem_of_mem_drop hx)]
    · intro a ha x hx
      apply h a (List.mem_append_right _ ha) x (List.mem_append_right _ hx)
      rw [hout a (List.mem_of_mem_take ha), hout x (List.mem_of_mem_drop hx)]
  · rintro ⟨hfront, hback⟩ a ha x hx hclass
    rcases List.mem_append.mp ha with ha | ha <;> rcases List.mem_append.mp hx with hx | hx
    · exact hfront a ha x hx
    · rw [hin a (List.mem_of_mem_take ha), hout x (List.mem_of_mem_drop hx)] at hclass
      cases hclass
    · rw [hout a (List.mem_of_mem_take ha), hin x (List.mem_of_mem_drop hx)] at hclass
      cases hclass
    · exact hback a ha x hx

end TopK
