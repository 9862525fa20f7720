import TableDiff.DataType.Conversion

/-!
# Logical types

The type of a column: a plain data type, or a numeric type that tolerates an absolute difference
of at most `delta` between two values. `agree` decides whether an expected and an actual cell
agree.
-/

namespace TableDiff

open TableDiff.Numeric

/-- The type by which the cells of a column are compared. -/
inductive LogicalType where
  | plain (type : DataType)
  | tolerant (base : DataType) (delta : Decimal)
  deriving DecidableEq

namespace LogicalType

/-- The type that leaves values as they are. -/
def unknown : LogicalType := plain .unknown

def dataType : LogicalType → DataType
  | plain t => t
  | tolerant base _ => base

/-- The tolerated difference, if there is one. -/
def delta? : LogicalType → Option Decimal
  | plain _ => none
  | tolerant _ delta => some delta

def isUnknown (t : LogicalType) : Bool := t.dataType == .unknown

/-- The name of a type in reports. -/
def name : LogicalType → String
  | plain t => t.name
  | tolerant _ _ => "NUMERIC_WITH_TOLERATED_DELTA"

/-- The name of the data type, with the tolerated difference if there is one. -/
def render : LogicalType → String
  | plain t => t.name
  | tolerant base delta => s!"{base.name} (±{String.ofList delta.text})"

/-- Whether two types are the same, tolerated differences being compared as numbers. -/
def same : LogicalType → LogicalType → Bool
  | plain a, plain b => a == b
  | tolerant a d, tolerant b e => a == b && d.same e
  | _, _ => false

/-- A value in the form in which the type's values are kept. -/
def convert (t : LogicalType) (v : Value) : Except ConversionError Value :=
  match t with
  | plain d => d.convert v
  | tolerant _ _ => if v.isNull then .ok .null else v.orError t.name v.comparableNumber

/-- Whether two numbers differ by at most `delta`. -/
def within (delta : Decimal) (l r : ExactDecimal) : Bool := (l.sub r).abs.le (.ofDecimal delta)

/-- Whether an expected and an actual value agree. Null agrees with null only; the unknown type
asks for equal values. -/
def agree (t : LogicalType) (expected actual : Value) : Except ConversionError Bool :=
  if expected.isNull || actual.isNull then .ok (expected.isNull && actual.isNull)
  else match t with
    | plain .unknown => .ok (expected.same actual)
    | plain d => do return (← d.compare expected actual) == .eq
    | tolerant _ delta => do
      let l ← expected.orError t.name expected.toExact
      let r ← actual.orError t.name actual.toExact
      return within delta l r

/-- The order of two values as the type sees it; values that agree are equal. -/
def compare (t : LogicalType) (left right : Value) : Except ConversionError Ordering :=
  match t with
  | plain d => d.compare left right
  | tolerant _ _ => do
    if ← t.agree left right then return .eq
    let l ← left.orError t.name left.toExact
    let r ← right.orError t.name right.toExact
    return l.compare r

end LogicalType

end TableDiff
