import Mathlib.Algebra.Order.Round
import Mathlib.Data.Rat.Floor
import Mathlib.Tactic.Linarith

/-! # Rounding to integers

Half away from zero is the rounding an SQL numeric column applies on assignment. Added
to or taken from an integer, the rounded quantity can be split off, but the two
directions round a tie differently. Half to even is the rounding of floating-point
arithmetic.
-/

namespace BankingBackend.Foundation

variable {K : Type*} [Field K] [LinearOrder K] [IsStrictOrderedRing K] [FloorRing K]

def roundHalfAway (x : K) : ℤ :=
  if 0 ≤ x then ⌊x + 1 / 2⌋ else ⌈x - 1 / 2⌉

/-- Ties go down: what is taken from an integer when the difference is rounded
half away from zero. -/
def roundHalfDown (x : K) : ℤ := ⌈x - 1 / 2⌉

def IsTie (x : K) : Prop := Int.fract x = 1 / 2

instance (x : ℚ) : Decidable (IsTie x) :=
  inferInstanceAs (Decidable (Int.fract x = 1 / 2))

omit [IsStrictOrderedRing K] in
theorem roundHalfAway_of_nonneg {x : K} (nonneg : 0 ≤ x) :
    roundHalfAway x = ⌊x + 1 / 2⌋ := if_pos nonneg

theorem roundHalfAway_nonneg {x : K} (nonneg : 0 ≤ x) : 0 ≤ roundHalfAway x := by
  rw [roundHalfAway_of_nonneg nonneg]
  exact Int.floor_nonneg.mpr (by linarith)

theorem le_roundHalfAway {x : K} (nonneg : 0 ≤ x) : x ≤ roundHalfAway x + 1 / 2 := by
  rw [roundHalfAway_of_nonneg nonneg]
  have below := Int.lt_floor_add_one (x + 1 / 2)
  linarith

theorem roundHalfAway_add {n : ℤ} {x : K} (integerNonneg : 0 ≤ n) (nonneg : 0 ≤ x) :
    roundHalfAway ((n : K) + x) = n + roundHalfAway x := by
  have cast : (0 : K) ≤ n := by exact_mod_cast integerNonneg
  rw [roundHalfAway_of_nonneg (add_nonneg cast nonneg), roundHalfAway_of_nonneg nonneg,
    add_assoc, Int.floor_intCast_add]

theorem roundHalfAway_add_of_pos {n : ℤ} {x : K} (nonneg : 0 ≤ x)
    (positive : 0 < n + roundHalfAway x) :
    roundHalfAway ((n : K) + x) = n + roundHalfAway x := by
  rw [roundHalfAway_of_nonneg nonneg] at positive ⊢
  have one : (1 : K) ≤ n + ⌊x + 1 / 2⌋ := by exact_mod_cast positive
  have floor := Int.floor_le (x + 1 / 2)
  rw [roundHalfAway_of_nonneg (by linarith), add_assoc, Int.floor_intCast_add]

/-- Below zero a tie is rounded down. -/
theorem roundHalfAway_add_le {n : ℤ} {x : K} (nonneg : 0 ≤ x) :
    roundHalfAway ((n : K) + x) ≤ n + roundHalfAway x := by
  rw [roundHalfAway_of_nonneg nonneg]
  unfold roundHalfAway
  split
  · rw [add_assoc, Int.floor_intCast_add]
  · rw [add_sub_assoc, Int.ceil_intCast_add]
    have above : x - 1 / 2 ≤ ⌊x + 1 / 2⌋ := by
      have below := Int.lt_floor_add_one (x + 1 / 2)
      linarith
    have ceiling := Int.ceil_le.mpr above
    omega

theorem le_roundHalfAway_add {n : ℤ} {x : K} (nonneg : 0 ≤ x) :
    n ≤ roundHalfAway ((n : K) + x) := by
  unfold roundHalfAway
  split
  · rw [add_assoc, Int.floor_intCast_add]
    have floor : 0 ≤ ⌊x + 1 / 2⌋ := Int.floor_nonneg.mpr (by linarith)
    omega
  · rw [add_sub_assoc, Int.ceil_intCast_add]
    have ceiling : -1 < ⌈x - 1 / 2⌉ := Int.lt_ceil.mpr (by push_cast; linarith)
    omega

theorem roundHalfAway_sub {n : ℤ} {x : K} (covered : x ≤ n) :
    roundHalfAway ((n : K) - x) = n - roundHalfDown x := by
  have nonneg : (0 : K) ≤ n - x := sub_nonneg.mpr covered
  rw [roundHalfAway_of_nonneg nonneg, roundHalfDown, sub_eq_add_neg n ⌈x - 1 / 2⌉,
    ← Int.floor_neg, ← Int.floor_intCast_add]
  congr 1
  ring

@[simp] theorem roundHalfAway_intCast (n : ℤ) : roundHalfAway (n : K) = n := by
  unfold roundHalfAway
  split
  · rw [Int.floor_intCast_add]
    norm_num
  · have shifted : (n : K) - 1 / 2 = n + (-(1 / 2)) := by ring
    rw [shifted, Int.ceil_intCast_add]
    norm_num

/-- Numbers less than one apart are rounded to the same integer or to neighbours. -/
theorem abs_roundHalfAway_sub_le {x y : K} (xNonneg : 0 ≤ x) (yNonneg : 0 ≤ y)
    (near : |x - y| < 1) : |roundHalfAway x - roundHalfAway y| ≤ 1 := by
  rcases abs_lt.mp near with ⟨below, above⟩
  rw [roundHalfAway_of_nonneg xNonneg, roundHalfAway_of_nonneg yNonneg]
  have xLower := Int.floor_le (x + 1 / 2)
  have xUpper := Int.lt_floor_add_one (x + 1 / 2)
  have yLower := Int.floor_le (y + 1 / 2)
  have yUpper := Int.lt_floor_add_one (y + 1 / 2)
  have first : ⌊x + 1 / 2⌋ < ⌊y + 1 / 2⌋ + 2 := by
    rw [← Int.cast_lt (R := K)]
    push_cast
    linarith
  have second : ⌊y + 1 / 2⌋ < ⌊x + 1 / 2⌋ + 2 := by
    rw [← Int.cast_lt (R := K)]
    push_cast
    linarith
  rw [abs_le]
  omega

theorem roundHalfAway_eq {n : ℤ} {x : K} (nonneg : 0 ≤ x) (near : |x - n| < 1 / 2) :
    roundHalfAway x = n := by
  rcases abs_lt.mp near with ⟨below, above⟩
  rw [roundHalfAway_of_nonneg nonneg, Int.floor_eq_iff]
  constructor <;> linarith

theorem roundHalfDown_nonneg {x : K} (nonneg : 0 ≤ x) : 0 ≤ roundHalfDown x := by
  have bound : (-1 : K) < x - 1 / 2 := by linarith
  have ceiling : (-1 : ℤ) < ⌈x - 1 / 2⌉ := Int.lt_ceil.mpr (by push_cast; exact bound)
  unfold roundHalfDown
  omega

theorem roundHalfDown_le {n : ℤ} {x : K} (covered : x ≤ n) : roundHalfDown x ≤ n := by
  unfold roundHalfDown
  exact Int.ceil_le.mpr (by linarith)

/-- The two roundings differ exactly on ties, and there by one. -/
theorem roundHalfAway_eq_down {x : K} (nonneg : 0 ≤ x) [Decidable (IsTie x)] :
    roundHalfAway x = roundHalfDown x + if IsTie x then 1 else 0 := by
  rw [roundHalfAway_of_nonneg nonneg, roundHalfDown]
  have split := Int.floor_add_fract x
  have lower := Int.fract_nonneg x
  have upper := Int.fract_lt_one x
  have floorOf : ⌊x + 1 / 2⌋ = ⌊x⌋ + ⌊Int.fract x + 1 / 2⌋ := by
    conv_lhs => rw [← split, add_assoc, Int.floor_intCast_add]
  have ceilOf : ⌈x - 1 / 2⌉ = ⌊x⌋ + ⌈Int.fract x - 1 / 2⌉ := by
    conv_lhs => rw [← split, add_sub_assoc, Int.ceil_intCast_add]
  rw [floorOf, ceilOf]
  by_cases tie : IsTie x
  · rw [if_pos tie, show Int.fract x = 1 / 2 from tie]
    norm_num
  · rw [if_neg tie]
    rcases lt_or_gt_of_ne tie with below | above
    · have floorZero : ⌊Int.fract x + 1 / 2⌋ = 0 :=
        Int.floor_eq_zero_iff.mpr ⟨by linarith, by linarith⟩
      have ceilZero : ⌈Int.fract x - 1 / 2⌉ = 0 :=
        Int.ceil_eq_zero_iff.mpr ⟨by linarith, by linarith⟩
      omega
    · have floorOne : ⌊Int.fract x + 1 / 2⌋ = 1 := by
        rw [Int.floor_eq_iff]
        constructor <;> push_cast <;> linarith
      have ceilOne : ⌈Int.fract x - 1 / 2⌉ = 1 := by
        rw [Int.ceil_eq_iff]
        constructor <;> push_cast <;> linarith
      omega

theorem not_isTie_intCast (n : ℤ) : ¬IsTie (n : K) := by
  unfold IsTie
  rw [Int.fract_intCast]
  norm_num

/-! ## Ties to even -/

/-- A tie goes to the even neighbour. -/
def roundHalfEven (x : K) : ℤ :=
  if Int.fract x < 1 / 2 then ⌊x⌋
  else if 1 / 2 < Int.fract x then ⌊x⌋ + 1
  else if ⌊x⌋ % 2 = 0 then ⌊x⌋ else ⌊x⌋ + 1

omit [IsStrictOrderedRing K] in
theorem roundHalfEven_cases (x : K) :
    roundHalfEven x = ⌊x⌋ ∧ Int.fract x ≤ 1 / 2 ∨
      roundHalfEven x = ⌊x⌋ + 1 ∧ 1 / 2 ≤ Int.fract x := by
  unfold roundHalfEven
  split
  · rename_i below
    exact .inl ⟨rfl, below.le⟩
  · rename_i notBelow
    split
    · exact .inr ⟨rfl, not_lt.mp notBelow⟩
    · rename_i notAbove
      split
      · exact .inl ⟨rfl, not_lt.mp notAbove⟩
      · exact .inr ⟨rfl, not_lt.mp notBelow⟩

theorem abs_roundHalfEven_sub_le (x : K) : |(roundHalfEven x : K) - x| ≤ 1 / 2 := by
  have split := Int.floor_add_fract x
  have lower := Int.fract_nonneg x
  rcases roundHalfEven_cases x with ⟨rounded, side⟩ | ⟨rounded, side⟩
  · rw [rounded, abs_le]
    constructor <;> linarith
  · have upper := Int.fract_lt_one x
    rw [rounded, abs_le]
    push_cast
    constructor <;> linarith

theorem roundHalfEven_eq {n : ℤ} {x : K} (near : |x - n| < 1 / 2) : roundHalfEven x = n := by
  have rounded := abs_roundHalfEven_sub_le x
  have close : |(roundHalfEven x : K) - n| < 1 := by
    have through := abs_sub_le (roundHalfEven x : K) x n
    linarith
  have apart : |roundHalfEven x - n| < 1 := by exact_mod_cast close
  exact sub_eq_zero.mp (Int.abs_lt_one_iff.mp apart)

@[simp] theorem roundHalfEven_intCast (n : ℤ) : roundHalfEven (n : K) = n := by
  have half : (0 : K) < 1 / 2 := by norm_num
  rw [roundHalfEven, Int.fract_intCast, if_pos half, Int.floor_intCast]

end BankingBackend.Foundation
