import TableDiff.ConversionError
import TableDiff.Numeric.Decimal.Approximation
import TableDiff.Numeric.ExactDecimal
import TableDiff.Text.Blank

/-!
# The number that a value denotes

A value denotes a number if it is an integer, a truth value (one or zero), a decimal, a finite
floating point number (taken by its shortest decimal text) or text that is a decimal literal. Two
readings exist: the limited one as a `Decimal`, and the exact one of any size, by which numbers are
compared. `comparableNumber` keeps the limited form where there is one and else the exact text.
-/

namespace TableDiff.Value

open TableDiff.Numeric

/-- The number of a value as a decimal of limited size. A floating point number is cut to the
digits it can hold; text must fit or have an exponent. -/
def toDecimal (v : Value) : Except ConversionFault Decimal :=
  match v with
  | decimal d => .ok d
  | int i => .ok (.ofInt64 i)
  | bool b => .ok (.ofBool b)
  | float x =>
    match Decimal.ofBinary64? x with
    | some d => .ok d
    | none => .error .notADecimal
  | text s =>
    let cs := Text.trim s.toList
    match (Decimal.ofTextExact? cs).or (Decimal.ofScientific? cs) with
    | some d => .ok d
    | none => .error .notANumber
  | _ => .error .notANumber

/-- The exact number of a value. -/
def toExact? : Value → Option ExactDecimal
  | int i => some (.ofInt i.toInt)
  | bool b => some (.ofInt (if b then 1 else 0))
  | decimal d => some (.ofDecimal d)
  | float x => if x.isFinite then ExactDecimal.ofText? x.text else none
  | text s => ExactDecimal.ofText? (Text.trim s.toList)
  | _ => none

/-- The exact number of a value, or the fault that it denotes none. -/
def toExact (v : Value) : Except ConversionFault ExactDecimal :=
  match v.toExact? with
  | some n => .ok n
  | none => .error .notANumber

/-- The number of a value in the form in which values of exact numeric types are kept: a decimal
where one is found, else the text of the exact number without trailing zeros. -/
def comparableNumber (v : Value) : Except ConversionFault Value :=
  match v.toDecimal with
  | .ok d => .ok (decimal d)
  | .error fault =>
    match v.toExact? with
    | some n => .ok (text (String.ofList n.normalize.text))
    | none => .error fault

end TableDiff.Value
