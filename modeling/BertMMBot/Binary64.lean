import Mathlib.Data.Rat.Floor
import Mathlib.Algebra.Order.Field.Power
import Mathlib.Algebra.Order.Ring.Rat
import Mathlib.Tactic.Linarith

/-! # Double precision

The numbers of binary64 as the rationals they are: 53 binary digits, with the last place not
below the smallest subnormal number. -/
namespace Binary64

/-- The place of the leading binary digit. -/
def exponent (q : ℚ) : ℤ :=
  let e : ℤ := q.num.natAbs.log2 - q.den.log2
  if (2 : ℚ) ^ e ≤ |q| then e else e - 1

def ulp (q : ℚ) : ℚ := 2 ^ max (exponent q - 52) (-1074)

/-- The nearest integer, the even one of two. -/
def roundToEven (x : ℚ) : ℤ :=
  if x - ⌊x⌋ < 1 / 2 ∨ (x - ⌊x⌋ = 1 / 2 ∧ ⌊x⌋ % 2 = 0) then ⌊x⌋ else ⌊x⌋ + 1

def nearest (q : ℚ) : ℚ := roundToEven (q / ulp q) * ulp q

/-- The double nearest to a number, if it is not infinite. -/
def ofRat (q : ℚ) : Option ℚ := if |nearest q| < 2 ^ 1024 then some (nearest q) else none

theorem ulp_pos (q : ℚ) : 0 < ulp q := zpow_pos (by norm_num) _

theorem abs_roundToEven_sub_le (x : ℚ) : |(roundToEven x : ℚ) - x| ≤ 1 / 2 := by
  have hfloor := Int.floor_le x
  have hlt := Int.lt_floor_add_one x
  unfold roundToEven
  split
  · next hbelow =>
    have hhalf : x - ⌊x⌋ ≤ 1 / 2 := by
      rcases hbelow with h | ⟨h, -⟩
      · exact h.le
      · exact h.le
    rw [abs_le]
    constructor <;> linarith
  · next habove =>
    rw [not_or] at habove
    have hhalf := not_lt.mp habove.1
    push_cast
    rw [abs_le]
    constructor <;> linarith

/-- A number and the double next to it differ by half a place at most. -/
theorem abs_nearest_sub_le (q : ℚ) : |nearest q - q| ≤ ulp q / 2 := by
  have hpos := ulp_pos q
  have hscaled : nearest q - q = (roundToEven (q / ulp q) - q / ulp q) * ulp q := by
    rw [nearest, sub_mul, div_mul_cancel₀ _ hpos.ne']
  rw [hscaled, abs_mul, abs_of_pos hpos]
  have hround := abs_roundToEven_sub_le (q / ulp q)
  calc |(roundToEven (q / ulp q) : ℚ) - q / ulp q| * ulp q
      ≤ 1 / 2 * ulp q := mul_le_mul_of_nonneg_right hround hpos.le
    _ = ulp q / 2 := by ring

example : ofRat (1 / 10) = some (3602879701896397 / 36028797018963968) ∧
    ofRat (10 ^ 400) = none ∧ ofRat (1 / 10 ^ 400) = some 0 := by decide +kernel

end Binary64
