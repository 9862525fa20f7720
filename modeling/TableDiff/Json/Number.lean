import TableDiff.Json
import TableDiff.Numeric.Binary64.Reader
import TableDiff.Numeric.Word

/-!
# Numbers of JSON

What a number literal stands for. A literal without a point and an exponent is an integer if it fits
64 bits, signed or unsigned. All other literals, and `-0`, are floating point numbers: as many
leading digits as fit 64 bits, as a floating point number, multiplied or divided once by a power of
ten. A literal beyond the finite numbers is an error.
-/

namespace TableDiff.Json

open TableDiff.Numeric TableDiff.Text

/-- The number that a literal stands for. -/
inductive Number where
  | int (i : Int)
  | float (x : Binary64)
  deriving DecidableEq, Repr

/-- The parts of a number literal: sign, digits before and after the point, and the sign and digits
of the exponent, if there is one. -/
structure NumberParts where
  negative : Bool
  whole : List Char
  fraction : Option (List Char)
  exponent : Option (Bool × List Char)

/-- The parts of a literal. -/
def NumberParts.ofLiteral (literal : List Char) : NumberParts :=
  let (negative, cs) := match literal with
    | '-' :: rest => (true, rest)
    | _ => (false, literal)
  let (whole, cs) := cs.span isDigit
  let (fraction, cs) := match cs with
    | '.' :: rest => ((some (rest.takeWhile isDigit), rest.dropWhile isDigit) : _ × _)
    | _ => (none, cs)
  let exponent := match cs with
    | _ :: '-' :: ds => some (true, ds)
    | _ :: '+' :: ds => some (false, ds)
    | _ :: ds => some (false, ds)
    | [] => none
  { negative, whole, fraction, exponent }

/-- Appends digits to a number as long as the result fits a word; the second component counts the
digits that were left over. -/
def appendDigits (n : Nat) : List Char → Nat × Nat
  | [] => (n, 0)
  | c :: cs =>
    let next := 10 * n + digitValue c
    if fitsNat64 next then appendDigits next cs else (n, cs.length + 1)

/-- Divides by `10 ^ n` in steps of at most `10 ^ 308`. -/
def scaleDown (x : Binary64) (n : Nat) : Binary64 :=
  if n ≤ 308 then x.divAbs (.ofNat (Nat.pow 10 n))
  else if x.isZero then x
  else scaleDown (x.divAbs (.ofNat (Nat.pow 10 308))) (n - 308)
termination_by n

/-- The floating point number for leading digits and a power of ten, if it is finite. -/
def scaled? (significand : Nat) (e : Int) : Option Binary64 :=
  let x := Binary64.ofNat significand
  if e < 0 then some (scaleDown x e.natAbs)
  else if 308 < e then if x.isZero then some x else none
  else
    let y := x.mulAbs (.ofNat (Nat.pow 10 e.toNat))
    if y.isFinite then some y else none

/-- The greatest exponent that is computed with. -/
def maxExponent : Nat := 2147483647

/-- The absolute value of a floating point literal. -/
def NumberParts.absFloat? (p : NumberParts) : Option Binary64 :=
  let (n, dropped) := appendDigits 0 p.whole
  let (significand, left) := appendDigits n (p.fraction.getD [])
  let e : Int := dropped + left - (p.fraction.getD []).length
  match p.exponent with
  | none => scaled? significand e
  | some (minus, ds) =>
    let x := natOfDigits ds
    if maxExponent < x then
      if significand ≠ 0 ∧ !minus then none else some .zero
    else scaled? significand (if minus then e - x else e + x)

/-- The number that a literal stands for, if it is within the finite numbers. -/
def Number.ofLiteral? (literal : List Char) : Option Number :=
  let p := NumberParts.ofLiteral literal
  let asFloat := p.absFloat?.map fun x => float (x.withSign p.negative)
  if p.fraction = none ∧ p.exponent = none then
    let n := natOfDigits p.whole
    if p.negative then if 0 < n ∧ fitsInt64 (-n) then some (int (-n)) else asFloat
    else if fitsNat64 n then some (int n) else asFloat
  else asFloat

/-! ## What fits a number -/

/-- A signed integer of 64 bits. -/
def int64? (j : Json) : Option Int64 :=
  match j with
  | number literal =>
    match Number.ofLiteral? literal with
    | some (.int i) => if fitsInt64 i then some (Int64.ofInt i) else none
    | _ => none
  | _ => none

/-- A signed integer of 32 bits. -/
def int32? (j : Json) : Option Int :=
  match j with
  | number literal =>
    match Number.ofLiteral? literal with
    | some (.int i) => if fitsInt32 i then some i else none
    | _ => none
  | _ => none

/-- A natural number of at most 64 bits. -/
def nat? (j : Json) : Option Nat :=
  match j with
  | number literal =>
    match Number.ofLiteral? literal with
    | some (.int i) => if 0 ≤ i then some i.toNat else none
    | _ => none
  | _ => none

/-- A byte. -/
def byte? (j : Json) : Option UInt8 :=
  j.nat?.bind fun n => if n < 256 then some (UInt8.ofNat n) else none

/-- A number of any sort as a floating point number. -/
def float? (j : Json) : Option Binary64 :=
  match j with
  | number literal =>
    match Number.ofLiteral? literal with
    | some (.int i) => some (.ofInt i)
    | some (.float x) => some x
    | none => none
  | _ => none

end TableDiff.Json
