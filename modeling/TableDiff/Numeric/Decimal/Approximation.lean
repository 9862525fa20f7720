import TableDiff.Numeric.Binary64
import TableDiff.Numeric.Decimal

/-!
# Decimals and floating point numbers

`ofBinary64?` gives the decimal with the fifteen or sixteen leading digits of a floating point
number, as far as it fits; `toBinary64` gives a floating point number near a decimal, computed from
the whole and the fractional part and rounded back to the decimal's places.
-/

namespace TableDiff.Numeric.Decimal

/-! ## From floating point -/

/-- Multiplies a mantissa by `5 ^ n` and divides by `10 ^ n`, the tens going to the exponent. A
factor two is cancelled where possible, and dropped where the mantissa would overflow. -/
def absorbFives : Nat → Nat → Int → Nat × Int
  | 0, m, e => (m, e)
  | n + 1, m, e =>
    if m % 2 = 0 then absorbFives n (m / 2) (e + 1)
    else if m * 5 < mantissaLimit then absorbFives n (m * 5) e
    else absorbFives n (m / 2) (e + 1)

/-- Drops `n` decimal places, each rounded half up; a mantissa that vanishes is plain zero. The
second component counts the places that are left of `places`. -/
def dropPlaces : Nat → Nat → Nat → Nat × Nat
  | 0, m, places => (m, places)
  | n + 1, m, places =>
    if m / 10 = 0 then (0, 0) else dropPlaces n (divHalfUp m 10) places

/-- Drops decimal places, each rounded half up, until the mantissa has at most 52 bits. -/
def trimPrecision : Nat → Nat → Nat × Nat
  | 0, m => (m, 0)
  | s + 1, m => if Binary64.hiddenBit ≤ m then trimPrecision s (divHalfUp m 10) else (m, s + 1)

/-- Drops decimal places that are zero. -/
def stripZeros : Nat → Nat → Nat × Nat
  | 0, m => (m, 0)
  | s + 1, m => if m % 10 = 0 then stripZeros s (m / 10) else (m, s + 1)

/-- The decimal near a finite floating point number, none if the number is too large. A number
without a fractional part is taken as it is. -/
def ofBinary64? (x : Binary64) : Option Decimal :=
  if !x.isFinite then none
  else if x.isZero then some (signedZero x.negative)
  else if 0 ≤ x.exponent then ofParts? x.negative (x.significand * Nat.pow 2 x.exponent.toNat) 0
  else
    let (m, e) := absorbFives (-x.exponent).toNat x.significand x.exponent
    let places := (-e).toNat
    let (m, places) := dropPlaces (places - 28) m (min places 28)
    let (m, places) := trimPrecision places m
    let (m, places) := stripZeros places m
    ofParts? x.negative m places

/-! ## To floating point -/

/-- The floating point number near a decimal. -/
def toBinary64 (d : Decimal) : Binary64 :=
  if d.scale = 0 then Binary64.ofRatio (d.negative && d.mantissa != 0) d.mantissa 1
  else
    let unit := Nat.pow 10 d.scale
    let whole := Binary64.ofNat (d.mantissa / unit)
    let fraction := (Binary64.ofNat (d.mantissa % unit)).divAbs (Binary64.ofNat unit)
    if fraction.isZero then whole.withSign d.negative
    else
      let scaled := (whole.addAbs fraction).mulAbs (Binary64.ofNat unit)
      (scaled.roundAbs.divAbs (Binary64.ofNat unit)).withSign d.negative

end TableDiff.Numeric.Decimal
