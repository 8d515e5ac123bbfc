import ConfigDelivery.Decimal.Binary64
import Mathlib.Data.Rat.Floor
import Mathlib.Tactic.Linarith
/-!
# Binary64 numbers cut to whole numbers

A finite binary64 number is a rational number, and its truncation is that number without its
fractional part: nothing is rounded on the way.
-/

namespace ConfigDelivery.Decimal

/-- A rational number without its fractional part. -/
def towardZero (number : ℚ) : ℤ := if 0 ≤ number then ⌊number⌋ else ⌈number⌉

/-- An integer is truncated to itself. -/
theorem towardZero_intCast (number : ℤ) : towardZero number = number := by
  unfold towardZero
  split
  · exact Int.floor_intCast number
  · exact Int.ceil_intCast number

/-- Truncation treats both signs alike. -/
theorem towardZero_neg (number : ℚ) : towardZero (-number) = -towardZero number := by
  unfold towardZero
  rcases lt_trichotomy number 0 with below | rfl | above
  · rw [if_pos (by linarith), if_neg (by linarith), Int.floor_neg]
  · simp
  · rw [if_neg (by linarith), if_pos (by linarith), Int.ceil_neg]

namespace Binary64

/-- The rational number that a finite number is. -/
def exactValue (number : Binary64) : ℚ :=
  let magnitude : ℚ := number.mantissa * 2 ^ number.exponent
  if number.isNegative then -magnitude else magnitude

/-- The ratio of a number is its mantissa times its power of two. -/
theorem ratio_eq (number : Binary64) :
    (number.ratio.1 : ℚ) / number.ratio.2 = number.mantissa * 2 ^ number.exponent := by
  rcases Int.le_total 0 number.exponent with high | low
  · obtain ⟨power, same⟩ := Int.eq_ofNat_of_zero_le high
    simp [ratio, same]
  · obtain ⟨power, same⟩ := Int.eq_ofNat_of_zero_le (Int.neg_nonneg_of_nonpos low)
    have negated : number.exponent = -(power : ℤ) := by omega
    simp [ratio, negated, div_eq_mul_inv]

/-- A number is truncated as the exact value it stands for. -/
theorem truncated_eq (number : Binary64) : number.truncated = towardZero number.exactValue := by
  have magnitude : towardZero (number.mantissa * 2 ^ number.exponent)
      = (number.ratio.1 / number.ratio.2 : ℕ) := by
    have positive : (0 : ℚ) ≤ number.mantissa * 2 ^ number.exponent :=
      mul_nonneg (Nat.cast_nonneg _) (zpow_nonneg (by norm_num) _)
    have floored := Rat.floor_intCast_div_natCast number.ratio.1 number.ratio.2
    rw [Int.cast_natCast] at floored
    rw [towardZero, if_pos positive, ← ratio_eq, floored]
    rfl
  unfold truncated exactValue
  dsimp only
  split
  · rw [towardZero_neg, magnitude]
  · rw [magnitude]

end Binary64

end ConfigDelivery.Decimal
