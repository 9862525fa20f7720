/-!
# Rounding of quotients

The nearest integer to a quotient of natural numbers, with the two customary rules for a quotient
that lies half-way between two integers, and the position of its leading binary and decimal digit.
-/

namespace TableDiff.Numeric

/-- The integer nearest to `num / den`; half-way cases go to the even neighbour. -/
def divHalfEven (num den : Nat) : Nat :=
  let q := num / den
  let r := num % den
  if 2 * r < den then q
  else if den < 2 * r then q + 1
  else if q % 2 = 0 then q else q + 1

/-- The integer nearest to `num / den`; half-way cases go up. -/
def divHalfUp (num den : Nat) : Nat := (2 * num + den) / (2 * den)

/-- The quotient `num / den` multiplied by a power of `base`, as numerator and denominator. -/
def scaleBy (base : Nat) (e : Int) (num den : Nat) : Nat × Nat :=
  if 0 ≤ e then (num * Nat.pow base e.toNat, den) else (num, den * Nat.pow base (-e).toNat)

/-- The greatest `e` with `2 ^ e ≤ num / den`, for positive numbers. -/
def log2Floor (num den : Nat) : Int :=
  let e : Int := Nat.log2 num - Nat.log2 den
  let (n, d) := scaleBy 2 (-e) num den
  if d ≤ n then e else e - 1

/-- The number of decimal digits of a number, one for zero. -/
def digitCount (n : Nat) : Nat := if n < 10 then 1 else digitCount (n / 10) + 1

/-- The greatest `e` with `10 ^ e ≤ num / den`, for positive numbers. -/
def log10Floor (num den : Nat) : Int :=
  if den ≤ num then digitCount (num / den) - 1
  else -(digitCount ((den - 1) / num) : Int)

end TableDiff.Numeric
