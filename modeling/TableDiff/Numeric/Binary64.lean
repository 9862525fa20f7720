import TableDiff.Numeric.Rounding

/-!
# Binary floating point numbers of 64 bits

The numbers are kept as their bits: a sign, eleven bits of exponent and fifty-two bits of fraction.
All arithmetic is exact arithmetic on natural numbers followed by one rounding to the nearest
number, half-way cases to the even fraction (`ofRatio`).

There are two notions of equality. `=` is that of the bits; `same` is that of the numbers, under
which the two zeros are equal and a NaN differs from itself. `totalCompare` orders all bit
patterns.
-/

namespace TableDiff.Numeric

/-- A binary floating point number of 64 bits. -/
structure Binary64 where
  bits : UInt64
  deriving DecidableEq, Repr

namespace Binary64

/-- The weight of the sign bit, the highest one. -/
def signBit : Nat := 9223372036854775808

/-- The weight of the lowest exponent bit, and of the leading bit of a significand, which is not
stored: one more than the largest fraction. -/
def hiddenBit : Nat := 4503599627370496

/-- Whether the sign bit is set. -/
def negative (x : Binary64) : Bool := signBit ≤ x.bits.toNat

/-- The bits below the sign. -/
def magnitudeBits (x : Binary64) : Nat := x.bits.toNat % signBit

/-- The eleven exponent bits. -/
def exponentBits (x : Binary64) : Nat := x.magnitudeBits / hiddenBit

/-- The fifty-two fraction bits. -/
def fractionBits (x : Binary64) : Nat := x.magnitudeBits % hiddenBit

/-- The magnitude bits of the infinities; those of the NaNs are greater. -/
def infinityBits : Nat := 2047 * hiddenBit

def isNaN (x : Binary64) : Bool := infinityBits < x.magnitudeBits

def isInfinite (x : Binary64) : Bool := x.magnitudeBits == infinityBits

def isFinite (x : Binary64) : Bool := x.magnitudeBits < infinityBits

def isZero (x : Binary64) : Bool := x.magnitudeBits == 0

/-- The number with the given sign and magnitude bits. -/
def ofParts (negative : Bool) (magnitude : Nat) : Binary64 :=
  ⟨UInt64.ofNat (if negative then signBit + magnitude else magnitude)⟩

def zero : Binary64 := ofParts false 0

def one : Binary64 := ofParts false (1023 * hiddenBit)

def infinity (negative : Bool) : Binary64 := ofParts negative infinityBits

/-- The quiet NaN with no further bits. -/
def nan (negative : Bool) : Binary64 := ofParts negative (infinityBits + hiddenBit / 2)

/-- The number with the opposite sign. -/
def neg (x : Binary64) : Binary64 := ofParts (!x.negative) x.magnitudeBits

/-- The number with the given sign. -/
def withSign (negative : Bool) (x : Binary64) : Binary64 := ofParts negative x.magnitudeBits

/-! ## The exact value -/

/-- The integer of which a finite number is a multiple by a power of two. -/
def significand (x : Binary64) : Nat :=
  if x.exponentBits = 0 then x.fractionBits else hiddenBit + x.fractionBits

/-- The power of two that multiplies the significand of a finite number. -/
def exponent (x : Binary64) : Int :=
  if x.exponentBits = 0 then -1074 else x.exponentBits - 1075

/-- The absolute value of a finite number as numerator and denominator. -/
def ratio (x : Binary64) : Nat × Nat := scaleBy 2 x.exponent x.significand 1

/-! ## Rounding -/

/-- The magnitude bits of the number nearest to `num / den`, half-way cases to the even fraction;
beyond the largest finite number the bits of infinity. -/
def roundRatio (num den : Nat) : Nat :=
  if num = 0 then 0 else
    let e : Int := max (log2Floor num den - 52) (-1074)
    let (n, d) := scaleBy 2 (-e) num den
    min ((e + 1074).toNat * hiddenBit + divHalfEven n d) infinityBits

/-- The number nearest to `num / den` with the given sign. -/
def ofRatio (negative : Bool) (num den : Nat) : Binary64 := ofParts negative (roundRatio num den)

def ofNat (n : Nat) : Binary64 := ofRatio false n 1

def ofInt (i : Int) : Binary64 := ofRatio (i < 0) i.natAbs 1

/-! ## Arithmetic on the absolute values of finite numbers -/

/-- The rounded sum of two absolute values. -/
def addAbs (x y : Binary64) : Binary64 :=
  let (a, b) := x.ratio
  let (c, d) := y.ratio
  ofRatio false (a * d + c * b) (b * d)

/-- The rounded product of two absolute values. -/
def mulAbs (x y : Binary64) : Binary64 :=
  let (a, b) := x.ratio
  let (c, d) := y.ratio
  ofRatio false (a * c) (b * d)

/-- The rounded quotient of two absolute values, the second of them positive. -/
def divAbs (x y : Binary64) : Binary64 :=
  let (a, b) := x.ratio
  let (c, d) := y.ratio
  ofRatio false (a * d) (b * c)

/-- The integer nearest to an absolute value, half-way cases up, as a rounded number. -/
def roundAbs (x : Binary64) : Binary64 :=
  let (a, b) := x.ratio
  ofNat (divHalfUp a b)

/-! ## Equality and order -/

/-- Whether two numbers are equal as numbers: no NaN is, and the two zeros are. -/
def same (x y : Binary64) : Bool :=
  !x.isNaN && !y.isNaN && (x == y || (x.isZero && y.isZero))

/-- The place of a bit pattern in the total order: negative patterns descend from minus one. -/
def rank (x : Binary64) : Int :=
  if x.negative then -1 - x.magnitudeBits else x.magnitudeBits

/-- The total order of all bit patterns. -/
def totalCompare (x y : Binary64) : Ordering := compare x.rank y.rank

end Binary64

end TableDiff.Numeric
