import TableDiff.Numeric.Binary64.Reader
import TableDiff.Value

/-!
# Conversion errors

Why a value cannot be brought into the form of a type.
-/

namespace TableDiff

open TableDiff.Numeric

/-- The cause of a failed conversion. -/
inductive ConversionFault where
  | notANumber
  | outOfRange
  /-- A floating point number that is infinite, no number, or too large for a decimal. -/
  | notADecimal
  | floatText (fault : Binary64.TextFault)
  | notABoolean
  | notABooleanLiteral
  | notADate
  | dateText
  /-- The clock of a zoned timestamp shows a day beyond all dates. The caller gets no error then: the
  program stops with the message. -/
  | clockOutOfRange
  | notATime
  | timeText
  | notATimestamp
  | timestampText
  | zonedText
  | epochOutOfRange
  | notBinary
  | base64 (fault : Text.Base64.Fault)
  | notAUuid
  | uuid (fault : Uuid.Fault)
  | notBindable
  deriving DecidableEq, Repr

def ConversionFault.message : ConversionFault → String
  | notANumber => "not a number"
  | outOfRange => "out of range"
  | notADecimal => "Error while converting to Decimal"
  | floatText fault => fault.message
  | notABoolean => "not a boolean"
  | notABooleanLiteral => "not a boolean literal"
  | notADate => "not a date"
  | dateText => "expected yyyy-mm-dd"
  | clockOutOfRange => "Local time out of range for `NaiveDateTime`"
  | notATime => "not a time"
  | timeText => "expected hh:mm:ss"
  | notATimestamp => "not a timestamp"
  | timestampText => "expected yyyy-mm-dd hh:mm:ss"
  | zonedText => "expected timestamp with offset"
  | epochOutOfRange => "epoch millis out of range"
  | notBinary => "not binary data"
  | base64 fault => "invalid base64: " ++ fault.message
  | notAUuid => "not a uuid"
  | uuid fault => fault.message
  | notBindable => "not bindable as a PostgreSQL object"

/-- A value that cannot be brought into the form of the type named `target`. -/
structure ConversionError where
  value : Value
  target : String
  fault : ConversionFault
  deriving DecidableEq

/-- The name of the kind of the value. -/
def ConversionError.kind (e : ConversionError) : String := e.value.kind.name

def ConversionError.reason (e : ConversionError) : String := e.fault.message

def ConversionError.message (e : ConversionError) : String :=
  s!"Cannot convert {e.kind} value '{e.value.render}' to {e.target}: {e.reason}"

end TableDiff
