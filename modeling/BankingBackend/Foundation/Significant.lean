import BankingBackend.Foundation.Rounding
import Mathlib.Data.Int.Log
import Mathlib.Tactic.Positivity
import Mathlib.Tactic.Ring

/-! # Significant digits

Rounding to a number of significant digits in some base, as floating-point operations and
the printing of decimals do it. The exponent is not bounded.
-/

namespace BankingBackend.Foundation

variable {K : Type*} [Field K] [LinearOrder K] [IsStrictOrderedRing K] [FloorRing K]

section Digits

variable (base digits : ℕ)

/-- The distance between the numbers of that many digits around `x`. -/
def spacing (x : K) : K := (base : K) ^ (Int.log base |x| + 1 - (digits : ℤ))

/-- The nearest number of that many digits. -/
def significant (x : K) : K :=
  (roundHalfEven (x / spacing base digits x) : K) * spacing base digits x

@[simp] theorem significant_zero : significant base digits (0 : K) = 0 := by
  have rounded : roundHalfEven (0 : K) = 0 := by exact_mod_cast roundHalfEven_intCast (K := K) 0
  rw [significant, zero_div, rounded, Int.cast_zero, zero_mul]

variable {base digits} (more : 1 < base)
include more

theorem spacing_pos (x : K) : 0 < spacing base digits x :=
  zpow_pos (by exact_mod_cast Nat.zero_lt_of_lt more) _

/-- The error is at most half a unit in the last digit. -/
theorem abs_significant_sub_le (x : K) :
    |significant base digits x - x| ≤ spacing base digits x / 2 := by
  have positive : 0 < spacing base digits x := spacing_pos more x
  have split : significant base digits x - x =
      ((roundHalfEven (x / spacing base digits x) : K) - x / spacing base digits x) *
        spacing base digits x := by
    rw [significant, sub_mul, div_mul_cancel₀ _ positive.ne']
  have near := abs_roundHalfEven_sub_le (x / spacing base digits x)
  calc |significant base digits x - x|
      = |(roundHalfEven (x / spacing base digits x) : K) - x / spacing base digits x| *
          spacing base digits x := by rw [split, abs_mul, abs_of_pos positive]
    _ ≤ 1 / 2 * spacing base digits x := mul_le_mul_of_nonneg_right near positive.le
    _ = spacing base digits x / 2 := by ring

theorem spacing_le {x : K} (nonzero : x ≠ 0) :
    spacing base digits x ≤ |x| * (base : K) ^ (1 - (digits : ℤ)) := by
  have positive : (0 : K) < base := by exact_mod_cast Nat.zero_lt_of_lt more
  have leading := Int.zpow_log_le_self (R := K) more (abs_pos.mpr nonzero)
  calc spacing base digits x
      = (base : K) ^ Int.log base |x| * (base : K) ^ (1 - (digits : ℤ)) := by
        rw [spacing, add_sub_assoc, zpow_add₀ positive.ne']
    _ ≤ |x| * (base : K) ^ (1 - (digits : ℤ)) :=
        mul_le_mul_of_nonneg_right leading (zpow_pos positive _).le

theorem abs_significant_sub_le_mul (x : K) :
    |significant base digits x - x| ≤ |x| * (base : K) ^ (1 - (digits : ℤ)) / 2 := by
  by_cases zero : x = 0
  · rw [zero]
    simp
  · have bound : |significant base digits x - x| ≤ spacing base digits x / 2 :=
      abs_significant_sub_le more x
    have spaced : spacing base digits x ≤ |x| * (base : K) ^ (1 - (digits : ℤ)) :=
      spacing_le more zero
    linarith

theorem lt_spacing (x : K) : |x| < spacing base digits x * (base : K) ^ (digits : ℤ) := by
  have positive : (0 : K) < base := by exact_mod_cast Nat.zero_lt_of_lt more
  calc |x| < (base : K) ^ (Int.log base |x| + 1) := Int.lt_zpow_succ_log_self more |x|
    _ = spacing base digits x * (base : K) ^ (digits : ℤ) := by
        rw [spacing, ← zpow_add₀ positive.ne', sub_add_cancel]

/-- A number of that many digits is found again from whatever is nearer to it than to its
neighbours. -/
theorem significant_eq {x y : K} {n e : ℤ} (multiple : x = n * (base : K) ^ e)
    (nonzero : y ≠ 0) (fits : |y| < (base : K) ^ (e + digits))
    (near : |y - x| < spacing base digits y / 2) : significant base digits y = x := by
  have baseNonzero : (base : K) ≠ 0 := by
    exact_mod_cast (Nat.zero_lt_of_lt more).ne'
  have positive : 0 < spacing base digits y := spacing_pos more y
  have coarser : Int.log base |y| + 1 - digits ≤ e := by
    have digitsOf := (Int.lt_zpow_iff_log_lt more (abs_pos.mpr nonzero)).mp fits
    omega
  obtain ⟨steps, counted⟩ := Int.eq_ofNat_of_zero_le (sub_nonneg.mpr coarser)
  have whole : x / spacing base digits y = ((n * base ^ steps : ℤ) : K) := by
    rw [multiple, spacing, mul_div_assoc, ← zpow_sub₀ baseNonzero, counted]
    push_cast
    rw [zpow_natCast]
  have close : |y / spacing base digits y - ((n * base ^ steps : ℤ) : K)| < 1 / 2 := by
    rw [← whole, ← sub_div, abs_div, abs_of_pos positive, div_lt_iff₀ positive]
    linarith
  rw [significant, roundHalfEven_eq close, ← whole, div_mul_cancel₀ _ positive.ne']

end Digits

/-! ## Doubles -/

/-- The nearest number of 53 binary digits. -/
def binary64 (x : K) : K := significant 2 53 x

theorem abs_binary64_sub_le (x : K) : |binary64 x - x| ≤ |x| / 2 ^ 53 := by
  have scale : |x| * ((2 : ℕ) : K) ^ (1 - ((53 : ℕ) : ℤ)) / 2 = |x| / 2 ^ 53 := by
    norm_num
    ring
  exact (abs_significant_sub_le_mul one_lt_two x).trans_eq scale

end BankingBackend.Foundation
