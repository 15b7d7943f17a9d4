import Mathlib.Data.Int.ConditionallyCompleteOrder
import Mathlib.Data.Int.Log
import Mathlib.Data.Rat.Floor
import Mathlib.Algebra.Ring.Int.Parity
import Mathlib.Algebra.Order.Field.Power
import Mathlib.Tactic.Linarith

/-!
# Rounded arithmetic

A floating-point operation computes the exact result and hands back a number that its format can
hold. What a program can rely on, whatever the format and the direction, is little: a larger
result is not rounded to a smaller number, and a result that the format holds is left alone. That
is a `Rounding`, and it is enough for an invariant that bounds a rounded quantity by an integer.

* `Rounding.exact` — no rounding: the arithmetic of the rationals.
* `Rounding.double` — to the nearest number of 53 binary digits, ties to even, with the smallest
  exponent of IEEE binary64. Its two laws are `toDouble_mono` and `toDouble_intCast`.

The range is not bounded above: where a double overflows to infinity, `toDouble` has a number of
2 ^ 1024 or more.
-/

/-- A monotone function that leaves the integers of at most 53 binary digits alone. -/
structure Rounding where
  rnd   : ℚ → ℚ
  mono  : Monotone rnd
  fixed : ∀ z : ℤ, |z| ≤ 2 ^ 53 → rnd z = z

namespace Rounding

/-- Exact arithmetic rounds nothing. -/
def exact : Rounding where
  rnd := id
  mono := monotone_id
  fixed _ _ := rfl

@[simp] theorem exact_rnd (q : ℚ) : exact.rnd q = q := rfl

@[simp] theorem rnd_zero (R : Rounding) : R.rnd 0 = 0 := by
  have h := R.fixed 0 (by norm_num)
  simpa using h

/-- A count is left alone, as long as it has at most 53 binary digits. -/
theorem rnd_natCast (R : Rounding) {n : ℕ} (h : n ≤ 2 ^ 53) : R.rnd n = n := by
  have hz : |(n : ℤ)| ≤ 2 ^ 53 := by  -- as an integer, since the laws of a rounding are about these
    rw [abs_of_nonneg (Int.natCast_nonneg n)]
    exact_mod_cast h
  have := R.fixed n hz
  simpa using this

theorem rnd_nonneg (R : Rounding) {q : ℚ} (h : 0 ≤ q) : 0 ≤ R.rnd q := by
  have := R.mono h
  rwa [R.rnd_zero] at this

/-- **Integer bounds survive**: the lemma that carries an invariant through a rounded operation. -/
theorem natCast_le_rnd (R : Rounding) {n : ℕ} {q : ℚ} (hn : n ≤ 2 ^ 53) (h : (n : ℚ) ≤ q) :
    (n : ℚ) ≤ R.rnd q := by
  have := R.mono h
  rwa [R.rnd_natCast hn] at this

/-! ## To the nearest integer, ties to even

Rounding to a double is rounding to an integer in other units, so this is where ties are broken and
where monotonicity is decided. -/

/-- The integer nearest to `q`, and of two equally near the even one. -/
def halfEven (q : ℚ) : ℤ :=
  if q - ⌊q⌋ < 1 / 2 then ⌊q⌋
  else if 1 / 2 < q - ⌊q⌋ then ⌊q⌋ + 1
  else if Even ⌊q⌋ then ⌊q⌋ else ⌊q⌋ + 1

/-- It is the integer below, or the next, and never more than the next. -/
theorem floor_le_halfEven (q : ℚ) : ⌊q⌋ ≤ halfEven q := by
  unfold halfEven
  split_ifs <;> omega

theorem halfEven_le_floor_add_one (q : ℚ) : halfEven q ≤ ⌊q⌋ + 1 := by
  unfold halfEven
  split_ifs <;> omega

@[simp] theorem halfEven_intCast (z : ℤ) : halfEven z = z := by simp [halfEven]

/-- **A larger number is not rounded to a smaller integer.** Where the integers below differ they
decide; where they are the same, both numbers can be rounded differently only if one half lies
between them. -/
theorem halfEven_mono : Monotone halfEven := by
  intro p q hpq
  rcases (Int.floor_mono hpq).lt_or_eq with hlt | heq
  · calc halfEven p ≤ ⌊p⌋ + 1 := halfEven_le_floor_add_one p
      _ ≤ ⌊q⌋ := hlt
      _ ≤ halfEven q := floor_le_halfEven q
  · -- the same integer below: the fractions decide
    have hfrac : p - (⌊q⌋ : ℚ) ≤ q - ⌊q⌋ := sub_le_sub_right hpq _
    by_cases hbelow : p - (⌊q⌋ : ℚ) < 1 / 2
    · have hp : halfEven p = ⌊q⌋ := by rw [halfEven, heq, if_pos hbelow]
      exact hp.trans_le (floor_le_halfEven q)
    by_cases habove : 1 / 2 < q - (⌊q⌋ : ℚ)
    · have hq : halfEven q = ⌊q⌋ + 1 := by
        rw [halfEven, if_neg (not_lt.mpr habove.le), if_pos habove]
      calc halfEven p ≤ ⌊p⌋ + 1 := halfEven_le_floor_add_one p
        _ = halfEven q := by rw [heq, hq]
    · -- both are in the middle, so they are one number
      have hmiddle : p - (⌊q⌋ : ℚ) = q - ⌊q⌋ :=
        le_antisymm hfrac ((not_lt.mp habove).trans (not_lt.mp hbelow))
      rw [sub_left_inj.mp hmiddle]

/-- An integer below a number stays below it, and one above it above. -/
theorem le_halfEven {z : ℤ} {q : ℚ} (h : (z : ℚ) ≤ q) : z ≤ halfEven q := by
  have := halfEven_mono h
  rwa [halfEven_intCast] at this

theorem halfEven_le {z : ℤ} {q : ℚ} (h : q ≤ z) : halfEven q ≤ z := by
  have := halfEven_mono h
  rwa [halfEven_intCast] at this

/-! ## To the nearest double

The unit of a number is the weight of its last binary digit. It grows in steps, by a factor of two
at each power of two, and stops shrinking near zero. Two numbers with one unit are compared through
the integers they are rounded to; between two with different units lies a power of two that both
units measure. -/

/-- The weight of the last of 53 binary digits of `q`, or of the last digit there is at all. -/
def lastDigit (q : ℚ) : ℤ := max (Int.log 2 q - 52) (-1074)

/-- A magnitude in units of its last digit, rounded. -/
def roundAbs (q : ℚ) : ℚ := halfEven (q / 2 ^ lastDigit q) * 2 ^ lastDigit q

/-- The nearest double. -/
def toDouble (q : ℚ) : ℚ := if q < 0 then -roundAbs (-q) else roundAbs q

/-- A unit is positive, however small. -/
theorem unit_pos (q : ℚ) : (0 : ℚ) < 2 ^ lastDigit q := zpow_pos (by norm_num) _

/-- Of a larger number the last digit weighs no less. -/
theorem lastDigit_mono {p q : ℚ} (hp : 0 < p) (h : p ≤ q) : lastDigit p ≤ lastDigit q :=
  max_le_max (Int.sub_le_sub_right (Int.log_mono_right hp h) 52) le_rfl

/-- A magnitude stays one. -/
theorem roundAbs_nonneg {q : ℚ} (h : 0 ≤ q) : 0 ≤ roundAbs q := by
  have hunit := unit_pos q
  have hq : (0 : ℤ) ≤ halfEven (q / 2 ^ lastDigit q) :=
    le_halfEven (by simpa using div_nonneg h hunit.le)
  exact mul_nonneg (by exact_mod_cast hq) hunit.le

/-- A whole number of units bounds the rounded number from above if it bounds the exact one. -/
theorem roundAbs_le {q : ℚ} {k : ℤ} (hk : lastDigit q ≤ k) (h : q ≤ 2 ^ k) : roundAbs q ≤ 2 ^ k := by
  obtain ⟨d, hd⟩ := Int.eq_ofNat_of_zero_le (sub_nonneg.mpr hk)
  have hunit := unit_pos q
  have hpow : (2 : ℚ) ^ k = ((2 ^ d : ℤ) : ℚ) * 2 ^ lastDigit q := by
    have hsplit : k = d + lastDigit q := by omega
    rw [hsplit, zpow_add₀ (by norm_num)]
    norm_cast
  have hle : halfEven (q / 2 ^ lastDigit q) ≤ 2 ^ d := by
    apply halfEven_le
    rw [div_le_iff₀ hunit, ← hpow]
    exact h
  rw [hpow, roundAbs]
  exact mul_le_mul_of_nonneg_right (by exact_mod_cast hle) hunit.le

theorem le_roundAbs {q : ℚ} {k : ℤ} (hk : lastDigit q ≤ k) (h : 2 ^ k ≤ q) : 2 ^ k ≤ roundAbs q := by
  obtain ⟨d, hd⟩ := Int.eq_ofNat_of_zero_le (sub_nonneg.mpr hk)
  have hunit := unit_pos q
  have hpow : (2 : ℚ) ^ k = ((2 ^ d : ℤ) : ℚ) * 2 ^ lastDigit q := by
    have hsplit : k = d + lastDigit q := by omega
    rw [hsplit, zpow_add₀ (by norm_num)]
    norm_cast
  have hle : 2 ^ d ≤ halfEven (q / 2 ^ lastDigit q) := by
    apply le_halfEven
    rw [le_div_iff₀ hunit, ← hpow]
    exact h
  rw [hpow, roundAbs]
  exact mul_le_mul_of_nonneg_right (by exact_mod_cast hle) hunit.le

/-- Magnitudes keep their order. -/
theorem roundAbs_mono {p q : ℚ} (hp : 0 ≤ p) (h : p ≤ q) : roundAbs p ≤ roundAbs q := by
  rcases hp.eq_or_lt with rfl | hpos
  · have hzero : roundAbs 0 = 0 := by simp [roundAbs, halfEven]
    rw [hzero]
    exact roundAbs_nonneg h
  have hq : 0 < q := hpos.trans_le h
  rcases (lastDigit_mono hpos h).eq_or_lt with heq | hlt
  · -- the same unit: round the quotients
    have hunit := unit_pos q
    have hle : halfEven (p / 2 ^ lastDigit q) ≤ halfEven (q / 2 ^ lastDigit q) :=
      halfEven_mono ((div_le_div_iff_of_pos_right hunit).mpr h)
    rw [roundAbs, roundAbs, heq]
    exact mul_le_mul_of_nonneg_right (by exact_mod_cast hle) hunit.le
  · -- a power of two lies between them, and both units measure it
    have hlog : Int.log 2 p < Int.log 2 q := by
      unfold lastDigit at hlt
      omega
    have hlast : lastDigit q = Int.log 2 q - 52 := by
      unfold lastDigit at hlt ⊢
      omega
    have hbelow : p ≤ 2 ^ Int.log 2 q := by
      have := (Int.lt_zpow_iff_log_lt (b := 2) one_lt_two hpos).mpr hlog
      exact_mod_cast this.le
    have habove : (2 : ℚ) ^ Int.log 2 q ≤ q := by
      exact_mod_cast Int.zpow_log_le_self one_lt_two hq
    calc roundAbs p ≤ 2 ^ Int.log 2 q := roundAbs_le (by omega) hbelow
      _ ≤ roundAbs q := le_roundAbs (by omega) habove

/-- **Rounding to a double keeps the order**, across zero as well: a sign is never lost. -/
theorem toDouble_mono : Monotone toDouble := by
  intro p q h
  unfold toDouble
  split_ifs with hp hq hq
  · exact neg_le_neg (roundAbs_mono (by linarith) (by linarith))
  · have h₁ := roundAbs_nonneg (q := -p) (by linarith)
    have h₂ := roundAbs_nonneg (q := q) (by linarith)
    linarith
  · linarith
  · exact roundAbs_mono (by linarith) h

/-- A whole number of its own units is left alone. -/
theorem roundAbs_of_units {q : ℚ} {m : ℤ} (h : q = m * 2 ^ lastDigit q) : roundAbs q = q := by
  have hunit := (unit_pos q).ne'
  have hquot : q / 2 ^ lastDigit q = m := by
    rw [div_eq_iff hunit]
    exact h
  rw [roundAbs, hquot, halfEven_intCast]
  exact h.symm

/-- A count of at most 53 binary digits is a whole number of its own units: below 2 ^ 53 the unit is
one or a fraction of one. -/
theorem roundAbs_natCast {n : ℕ} (h : n ≤ 2 ^ 53) : roundAbs n = n := by
  have hlog : Int.log 2 (n : ℚ) = Nat.log 2 n := Int.log_natCast 2 n
  -- the number of digits is bounded, and so is the weight of the last one
  have hlogn : Nat.log 2 n ≤ 53 := by
    have := Nat.log_mono_right (b := 2) h
    rwa [Nat.log_pow one_lt_two] at this
  rcases h.eq_or_lt with rfl | hlt
  · have hlast : lastDigit ((2 ^ 53 : ℕ) : ℚ) = 1 := by
      rw [lastDigit, hlog, Nat.log_pow one_lt_two]
      norm_num
    apply @roundAbs_of_units _ (2 ^ 52)
    rw [hlast]
    norm_num
  · -- the last digit weighs one or less
    have hlog52 : Nat.log 2 n ≤ 52 := by
      rcases Nat.eq_zero_or_pos n with rfl | hpos
      · simp
      · exact Nat.lt_succ_iff.mp ((Nat.log_lt_iff_lt_pow one_lt_two hpos.ne').mpr hlt)
    have hlast : lastDigit n ≤ 0 := by
      rw [lastDigit, hlog]
      omega
    obtain ⟨d, hd⟩ := Int.eq_ofNat_of_zero_le (neg_nonneg.mpr hlast)
    apply @roundAbs_of_units _ (n * 2 ^ d)
    have hunit : lastDigit (n : ℚ) = -d := by omega
    rw [hunit, zpow_neg, zpow_natCast]
    push_cast
    rw [mul_assoc, mul_inv_cancel₀ (by positivity), mul_one]

/-- **Integers of 53 binary digits are doubles**, and a double is rounded to itself. -/
theorem toDouble_intCast (z : ℤ) (h : |z| ≤ 2 ^ 53) : toDouble z = z := by
  have hnat : z.natAbs ≤ 2 ^ 53 := by
    have : (z.natAbs : ℤ) ≤ 2 ^ 53 := by rwa [Int.natCast_natAbs]
    exact_mod_cast this
  -- the magnitude has at most 53 binary digits, so it is not rounded; then the sign
  have hround := roundAbs_natCast hnat
  rcases le_or_gt 0 z with hz | hz
  · have hcast : ((z.natAbs : ℕ) : ℚ) = z := by
      rw [Nat.cast_natAbs, abs_of_nonneg hz]
    rw [hcast] at hround
    rw [toDouble, if_neg (by exact_mod_cast not_lt.mpr hz), hround]
  · have hcast : ((z.natAbs : ℕ) : ℚ) = -z := by
      rw [Nat.cast_natAbs, abs_of_neg hz]
      push_cast
      rfl
    rw [hcast] at hround
    rw [toDouble, if_pos (by exact_mod_cast hz), hround, neg_neg]

/-- The arithmetic of doubles. -/
def double : Rounding where
  rnd := toDouble
  mono := toDouble_mono
  fixed := toDouble_intCast

-- A third is rounded down, and three of it are rounded back to one.
example : toDouble (1 / 3) < 1 / 3 ∧ toDouble (3 * toDouble (1 / 3)) = 1 := by decide +kernel

end Rounding
