import TableDiff.Numeric.Decimal
import TableDiff.Numeric.Decimal.Reader
import TableDiff.Numeric.Rounding
import TableDiff.Numeric.Word

/-!
# Decimal numbers of any size

An integer times a power of ten, both without limits in arithmetic. Reading accepts a sign, digits
with a point and underscores among them, and an exponent of ten; the power of ten must fit 64
bits. The order is that of the values; numbers of different magnitude are told apart by the place
of the leading digit, without writing out the power.
-/

namespace TableDiff.Numeric

open TableDiff.Text

/-- The number `unscaled / 10 ^ scale`. -/
structure ExactDecimal where
  unscaled : Int
  scale : Int
  deriving DecidableEq, Repr

namespace ExactDecimal

def ofInt (i : Int) : ExactDecimal := ⟨i, 0⟩

def ofDecimal (d : Decimal) : ExactDecimal := ⟨d.unscaled, d.scale⟩

/-! ## Arithmetic and order -/

/-- The two integers of which the numbers are the same multiple. -/
def align (a b : ExactDecimal) : Int × Int :=
  (a.unscaled * Nat.pow 10 (b.scale - a.scale).toNat,
    b.unscaled * Nat.pow 10 (a.scale - b.scale).toNat)

/-- The difference of two numbers. -/
def sub (a b : ExactDecimal) : ExactDecimal :=
  let (x, y) := align a b
  ⟨x - y, max a.scale b.scale⟩

def abs (a : ExactDecimal) : ExactDecimal := ⟨a.unscaled.natAbs, a.scale⟩

/-- One more than the exponent of the leading digit of a number other than zero. -/
def magnitude (a : ExactDecimal) : Int := digitCount a.unscaled.natAbs - a.scale

/-- The order of two numbers of the same sign other than zero. -/
def compareSameSign (a b : ExactDecimal) : Ordering :=
  if a.magnitude = b.magnitude then
    let (x, y) := align a b
    Ord.compare x y
  else
    let larger := Ord.compare a.magnitude b.magnitude
    if 0 < a.unscaled then larger else larger.swap

/-- The order of the values. -/
def compare (a b : ExactDecimal) : Ordering :=
  match Ord.compare a.unscaled.sign b.unscaled.sign with
  | .eq => if a.unscaled = 0 then .eq else compareSameSign a b
  | o => o

/-- Whether the first number is at most the second. -/
def le (a b : ExactDecimal) : Bool := a.compare b != .gt

/-! ## Reading -/

/-- An integer with an optional sign. -/
def readInt? (cs : List Char) : Option Int :=
  let (minus, ds) := match cs with
    | '-' :: ds => (true, ds)
    | '+' :: ds => (false, ds)
    | ds => (false, ds)
  if ds ≠ [] ∧ ds.all isDigit then
    let n : Int := natOfDigits ds
    some (if minus then -n else n)
  else none

/-- Digits with underscores after the first of them. -/
def readGrouped? (cs : List Char) : Option Nat :=
  match cs with
  | [] => none
  | c :: _ =>
    if isDigit c ∧ cs.all (fun c => isDigit c || c = '_') then
      some (natOfDigits (cs.filter isDigit))
    else none

/-- Digits with underscores after an optional sign. -/
def readSigned? : List Char → Option Int
  | '-' :: ds => (readGrouped? ds).map fun n => -(n : Int)
  | '+' :: ds => (readGrouped? ds).map fun n => (n : Int)
  | ds => (readGrouped? ds).map fun n => (n : Int)

/-- The text without its first point and the number of decimal places that follow the point;
underscores are no places. -/
def dropPoint (cs : List Char) : List Char × Nat :=
  match cs.span (· ≠ '.') with
  | (whole, []) => (whole, 0)
  | (whole, _ :: places) => (whole ++ places, (places.filter (· ≠ '_')).length)

/-- The number that a text denotes. -/
def ofText? (cs : List Char) : Option ExactDecimal := do
  let (base, exponent) ← match Decimal.splitExponent? cs with
    | none => some (cs, 0)
    | some (base, e) => (readInt? e).map fun e => (base, e)
  let (ds, places) := dropPoint base
  let unscaled ← readSigned? ds
  let scale := places - exponent
  if fitsInt64 scale then some ⟨unscaled, scale⟩ else none

/-! ## Writing -/

/-- The number without trailing zeros in its integer; zero gets the scale zero. -/
def normalize (a : ExactDecimal) : ExactDecimal :=
  if a.unscaled = 0 then ⟨0, 0⟩
  else
    let ds := digits a.unscaled.natAbs
    let zeros := (ds.reverse.takeWhile (· = '0')).length
    ⟨a.unscaled.tdiv (Nat.pow 10 zeros), a.scale - zeros⟩

/-- The text of a number: positional; with an exponent if more than five zeros would stand between
the point and the first digit; and with all digits before the exponent if more than fifteen zeros
would follow them. -/
def text (a : ExactDecimal) : List Char :=
  let ds := digits a.unscaled.natAbs
  let n : Int := ds.length
  let body :=
    if 5 < a.scale - n then
      let leading := match ds with
        | [] => []
        | [d] => [d]
        | d :: more => d :: '.' :: more
      leading ++ 'E' :: '-' :: digits (a.scale - n + 1).natAbs
    else if 15 < -a.scale then ds ++ 'e' :: '+' :: digits a.scale.natAbs
    else if a.scale ≤ 0 then ds ++ List.replicate a.scale.natAbs '0'
    else
      let places := a.scale.toNat
      let filled := List.replicate (places + 1 - ds.length) '0' ++ ds
      let whole := filled.length - places
      filled.take whole ++ '.' :: filled.drop whole
  if a.unscaled < 0 then '-' :: body else body

end ExactDecimal

end TableDiff.Numeric
