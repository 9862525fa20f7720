import TableDiff.Text.Digits

/-!
# Decimal numbers of limited size

A decimal number is an integer of at most 96 bits divided by a power of ten with an exponent of at
most 28. The scale is kept, so that `1.5` and `1.50` are different decimals of the same value;
`compare` and `same` look at the value only. Zero may carry a minus sign.
-/

namespace TableDiff.Numeric

open TableDiff.Text

/-- One more than the largest mantissa, which has 96 bits. -/
def Decimal.mantissaLimit : Nat := 79228162514264337593543950336

/-- A decimal number: `mantissa / 10 ^ scale` with a sign. -/
structure Decimal where
  negative : Bool
  mantissa : Nat
  scale : Nat
  mantissa_lt : mantissa < Decimal.mantissaLimit := by decide
  scale_le : scale ≤ 28 := by decide
  deriving DecidableEq, Repr

namespace Decimal

def zero : Decimal := { negative := false, mantissa := 0, scale := 0 }

def one : Decimal := { negative := false, mantissa := 1, scale := 0 }

/-- Zero with or without a minus sign. -/
def signedZero (negative : Bool) : Decimal := { zero with negative }

instance : Inhabited Decimal := ⟨zero⟩

/-- The decimal with these parts if they are within the limits. -/
def ofParts? (negative : Bool) (mantissa scale : Nat) : Option Decimal :=
  if h : mantissa < mantissaLimit ∧ scale ≤ 28 then some ⟨negative, mantissa, scale, h.1, h.2⟩ else none

/-- The decimal with these parts, zero without a sign, if they are within the limits. -/
def ofUnsigned? (negative : Bool) (mantissa scale : Nat) : Option Decimal :=
  ofParts? (negative && mantissa != 0) mantissa scale

/-- The decimal for a machine integer. -/
def ofInt64 (i : Int64) : Decimal where
  negative := i.toInt < 0
  mantissa := i.toInt.natAbs
  scale := 0
  mantissa_lt := by
    have h1 := i.toInt_lt
    have h2 := i.le_toInt
    simp only [mantissaLimit]
    omega

/-- The decimal for one of two truth values. -/
def ofBool (b : Bool) : Decimal := if b then one else zero

/-- The integer that is divided by `10 ^ scale`. -/
def unscaled (d : Decimal) : Int := if d.negative then -d.mantissa else d.mantissa

def isZero (d : Decimal) : Bool := d.mantissa == 0

/-- The order of the values. -/
def compare (a b : Decimal) : Ordering :=
  Ord.compare (a.unscaled * Nat.pow 10 b.scale) (b.unscaled * Nat.pow 10 a.scale)

/-- Whether two decimals have the same value. -/
def same (a b : Decimal) : Bool := a.compare b == .eq

/-- The value without its decimal places, as an integer. -/
def truncate (d : Decimal) : Int :=
  let n : Nat := d.mantissa / Nat.pow 10 d.scale
  if d.negative then -n else n

/-- The digits with all decimal places of the scale and at least one digit before the point. -/
def text (d : Decimal) : List Char :=
  let ds := paddedDigits (d.scale + 1) d.mantissa
  let whole := ds.length - d.scale
  let body := if d.scale = 0 then ds else ds.take whole ++ '.' :: ds.drop whole
  if d.negative then '-' :: body else body

end Decimal

end TableDiff.Numeric
