import Mathlib.Data.Rat.Floor
import TableDiff.Proofs.Numeric.ExactValue

/-!
# The whole part of a number

The whole part of a number is what is left without its decimal places, the integer next to it on the
side of zero (`towardZero`). A decimal is truncated to the whole part of its number
(`Decimal.truncate_eq`).
-/

namespace TableDiff.Numeric

/-- The integer next to a number on the side of zero. -/
def towardZero (q : ℚ) : ℤ := if 0 ≤ q then ⌊q⌋ else ⌈q⌉

theorem towardZero_neg (q : ℚ) : towardZero (-q) = -towardZero q := by
  unfold towardZero
  rcases lt_trichotomy q 0 with hneg | rfl | hpos
  · rw [if_pos (neg_nonneg.2 hneg.le), if_neg (not_le.2 hneg), Int.floor_neg]
  · simp
  · rw [if_neg (not_le.2 (neg_neg_of_pos hpos)), if_pos hpos.le, Int.ceil_neg]

theorem towardZero_natCast_div (m d : ℕ) : towardZero ((m : ℚ) / d) = (m / d : ℕ) := by
  have hnonneg : (0 : ℚ) ≤ m / d := by positivity
  rw [towardZero, if_pos hnonneg]
  exact Rat.floor_intCast_div_natCast m d

/-- The whole part of a number as a word of 64 bits, if it fits one. -/
def wholePart? (q : ℚ) : Option Int64 :=
  if fitsInt64 (towardZero q) then some (Int64.ofInt (towardZero q)) else none

namespace Decimal

/-- **A decimal is truncated to the whole part of its number.** -/
theorem truncate_eq (d : Decimal) : d.truncate = towardZero d.toRat := by
  have hpow : (10 : ℚ) ^ d.scale = (Nat.pow 10 d.scale : ℕ) := by simp
  rw [toRat_eq_div, truncate, unscaled, hpow]
  cases d.negative with
  | false => rw [if_neg (by decide), if_neg (by decide), Int.cast_natCast, towardZero_natCast_div]
  | true =>
    rw [if_pos rfl, if_pos rfl, Int.cast_neg, neg_div, towardZero_neg, Int.cast_natCast,
      towardZero_natCast_div]

theorem wholePart?_toRat (d : Decimal) :
    wholePart? d.toRat =
      if fitsInt64 d.truncate then some (Int64.ofInt d.truncate) else none := by
  rw [wholePart?, truncate_eq]

end Decimal

end TableDiff.Numeric
