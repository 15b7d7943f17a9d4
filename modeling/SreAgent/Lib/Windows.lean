import Mathlib.Data.List.Chain
import Mathlib.Data.List.Range

/-!
# Windows at regular distances

Windows of `size` positions over `n` positions, one starting at each multiple of `step`. They cover all
positions if no step is larger than a window (`covers_spans`). Some windows may add nothing to the one
before them: none does iff the last one ends beyond the one before it (`isChain_fresh_iff`).

The rounding up in `starts` is where the last window comes from: it may hold a single position, or
only positions the window before it has too. The second case is what `isChain_fresh_iff` is about,
and a remainder decides it.
-/

namespace Windows

/-- Where the windows start: `range(0, n, step)`. -/
def starts (step n : Nat) : List Nat := (List.range ((n + step - 1) / step)).map (· * step)

/-- The window from `i` on: its first position, and the first position behind it. -/
def span (size n i : Nat) : Nat × Nat := (i, min (i + size) n)

/-- All the windows, in the order in which they start. -/
def spans (size step n : Nat) : List (Nat × Nat) := (starts step n).map (span size n)

/-- The windows are in order, within bounds, and leave out no position. -/
structure Covers (n : Nat) (windows : List (Nat × Nat)) : Prop where
  ordered : windows.Pairwise fun a b => a.1 < b.1
  bounded : ∀ a ∈ windows, a.2 ≤ n
  covered : ∀ p < n, ∃ a ∈ windows, a.1 ≤ p ∧ p < a.2

/-- `b` covers a position that `a` does not. -/
def Fresh (a b : Nat × Nat) : Prop := ∃ p, (b.1 ≤ p ∧ p < b.2) ∧ ¬ (a.1 ≤ p ∧ p < a.2)

variable {size step n : Nat}

/-- There is a `k`-th window if it starts before the end. -/
theorem lt_count_iff (hstep : 0 < step) {k : Nat} : k < (n + step - 1) / step ↔ k * step < n := by
  rw [← Nat.succ_le_iff, Nat.le_div_iff_mul_le hstep, Nat.succ_mul]
  omega

/-- **Every position is in a window**, if the windows advance, and by no more than their size. -/
theorem covers_spans (hstep : 0 < step) (hsize : step ≤ size) : Covers n (spans size step n) := by
  constructor
  case ordered =>
    rw [spans, starts, List.map_map, List.pairwise_map]
    refine List.pairwise_lt_range.imp fun {a b} hab => ?_
    exact Nat.mul_lt_mul_of_pos_right hab hstep
  case bounded =>
    intro a ha
    obtain ⟨i, -, rfl⟩ := List.mem_map.mp ha
    exact min_le_right _ _
  case covered =>
    intro p hp
    -- the window that starts at the last multiple of the step before `p`
    have hstart : p / step * step ≤ p := Nat.div_mul_le_self p step
    have hend : p < p / step * step + step := Nat.lt_div_mul_add hstep
    refine ⟨span size n (p / step * step), ?_, hstart, ?_⟩
    · refine List.mem_map_of_mem (List.mem_map.mpr ⟨p / step, ?_, rfl⟩)
      rw [List.mem_range, lt_count_iff hstep]
      omega
    · exact lt_min (by omega) hp

/-- A window adds something iff the one before it ends before the last position. -/
theorem fresh_iff (hstep : 0 < step) (hsize : step ≤ size) {i : Nat} :
    Fresh (span size n i) (span size n (i + step)) ↔ i + size < n := by
  simp only [Fresh, span, Nat.lt_min]
  constructor
  · rintro ⟨p, ⟨hfrom, -, hto⟩, hnot⟩
    omega
  · intro hend
    exact ⟨i + size, by omega, by omega⟩

/-- **No window is redundant** iff the last one reaches further than its overlap with the one before
it. -/
theorem isChain_fresh_iff (hstep : 0 < step) (hsize : step ≤ size) (hlong : size < n) :
    (spans size step n).IsChain Fresh ↔ size - step ≤ (n - 1) % step := by
  -- neighbours are the `k`-th window and the next one, for as many `k` as there are
  -- neighbours
  have hpairs : (spans size step n).IsChain Fresh ↔
      ∀ k, (k + 1) * step < n → k * step + size < n := by
    rw [spans, starts, List.map_map, List.isChain_map, List.isChain_range]
    refine forall_congr' fun k => ?_
    rw [Nat.lt_sub_iff_add_lt, lt_count_iff hstep]
    have hnext : k.succ * step = k * step + step := Nat.succ_mul k step
    rw [Function.comp_apply, Function.comp_apply, hnext, fresh_iff hstep hsize]
  rw [hpairs]
  have hdiv : step * ((n - 1) / step) + (n - 1) % step = n - 1 := Nat.div_add_mod _ _
  constructor
  · intro h
    -- the last window, and the one before it
    have hone : 1 ≤ (n - 1) / step := (Nat.one_le_div_iff hstep).mpr (by omega)
    obtain ⟨k, hk⟩ := Nat.exists_eq_add_of_le' hone
    have hlast := h k
    rw [hk, Nat.mul_add, Nat.mul_one] at hdiv
    rw [Nat.add_mul, Nat.one_mul, Nat.mul_comm k] at hlast
    omega
  · intro h k hk
    have hle : k + 1 ≤ (n - 1) / step := (Nat.le_div_iff_mul_le hstep).mpr (by omega)
    have hmul := Nat.mul_le_mul_left step hle
    rw [Nat.mul_add, Nat.mul_one, Nat.mul_comm step k] at hmul
    omega

end Windows
