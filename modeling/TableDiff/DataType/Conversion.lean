import TableDiff.Calendar.Reading
import TableDiff.DataType
import TableDiff.DataType.Number
import TableDiff.Numeric.Word
import TableDiff.Text.CaseMap

/-!
# Conversion to data types

`convert` brings a value into the form in which a type's values are kept; `normalize` also removes
the differences of format that the type ignores; `compare` orders two values as the type does. Null
converts to null under every type. The unknown type leaves all values as they are, and the exact
numeric types compare numbers without rounding.
-/

namespace TableDiff

open TableDiff.Calendar TableDiff.Numeric

namespace Value

/-- The integer of a value: the number that it denotes without its decimal places. -/
def toInteger : Value → Except ConversionFault Int64
  | int i => .ok i
  | bool b => .ok (if b then 1 else 0)
  | v => do
    let n := (← v.toDecimal).truncate
    if fitsInt64 n then .ok (Int64.ofInt n) else .error .outOfRange

/-- The floating point number of a value. -/
def toFloating : Value → Except ConversionFault Binary64
  | float x => .ok x
  | int i => .ok (.ofInt i.toInt)
  | bool b => .ok (if b then .one else .zero)
  | decimal d => .ok d.toBinary64
  | text s =>
    match Binary64.ofText (Text.trim s.toList) with
    | .ok x => .ok x
    | .error fault => .error (.floatText fault)
  | _ => .error .notANumber

/-- The truth value that a word stands for, in any case of letters. -/
def truthOfWord? (cs : List Char) : Option Bool :=
  let word := String.ofList (Text.toLower cs)
  if word ∈ ["true", "t", "yes", "y", "1"] then some true
  else if word ∈ ["false", "f", "no", "n", "0"] then some false
  else none

/-- The truth value of a value. -/
def toBoolean : Value → Except ConversionFault Bool
  | bool b => .ok b
  | int i => .ok (i != 0)
  | decimal d => .ok (!d.isZero)
  | text s =>
    match truthOfWord? (Text.trim s.toList) with
    | some b => .ok b
    | none => .error .notABooleanLiteral
  | _ => .error .notABoolean

/-- The timestamp at a number of milliseconds since the start of 1970. -/
def ofEpoch (i : Int64) : Except ConversionFault Timestamp :=
  match Timestamp.ofEpochMillis? i.toInt with
  | some t => .ok t
  | none => .error .epochOutOfRange

/-- The date of a value; of a zoned timestamp the one that its own clock shows. -/
def toDate : Value → Except ConversionFault Date
  | date d => .ok d
  | timestamp t => .ok t.date
  | zoned z =>
    match z.reading? with
    | some t => .ok t.date
    | none => .error .clockOutOfRange
  | int i => do return (← ofEpoch i).date
  | text s =>
    let cs := Text.trim s.toList
    match (Date.ofText? cs).or ((Timestamp.ofText? cs).map (·.date)) with
    | some d => .ok d
    | none => .error .dateText
  | _ => .error .notADate

/-- The time of day of a value; of a zoned timestamp the one that its own clock shows. -/
def toTime : Value → Except ConversionFault TimeOfDay
  | time t => .ok t
  | timestamp t => .ok t.time
  | zoned z => .ok z.clock
  | text s =>
    match TimeOfDay.ofText? (Text.trim s.toList) with
    | some t => .ok t
    | none => .error .timeText
  | _ => .error .notATime

/-- The timestamp of a value; of a zoned timestamp the reading in UTC. -/
def toTimestamp : Value → Except ConversionFault Timestamp
  | timestamp t => .ok t
  | date d => .ok (.ofDate d)
  | zoned z => .ok z.utc
  | int i => ofEpoch i
  | text s =>
    match Timestamp.ofText? (Text.trim s.toList) with
    | some t => .ok t
    | none => .error .timestampText
  | _ => .error .notATimestamp

/-- The zoned timestamp of a value; what has no offset is a reading in UTC. -/
def toZoned : Value → Except ConversionFault ZonedTimestamp
  | zoned z => .ok z
  | timestamp t => .ok (.ofUtc t)
  | date d => .ok (.ofUtc (.ofDate d))
  | int i => do return .ofUtc (← ofEpoch i)
  | text s =>
    match ZonedTimestamp.ofText? (Text.trim s.toList) with
    | some z => .ok z
    | none => .error .zonedText
  | _ => .error .notATimestamp

/-- The bytes of a value; text is read as base 64. -/
def toBytes : Value → Except ConversionFault (List UInt8)
  | bytes bs => .ok bs
  | text s =>
    match Text.Base64.decode (Text.trim s.toList) with
    | .ok bs => .ok bs
    | .error fault => .error (.base64 fault)
  | _ => .error .notBinary

/-- The UUID of a value. -/
def toUuid : Value → Except ConversionFault Uuid
  | uuid u => .ok u
  | text s =>
    match Uuid.ofText (Text.trim s.toList) with
    | .ok u => .ok u
    | .error fault => .error (.uuid fault)
  | bytes bs =>
    match Uuid.ofBytes bs with
    | .ok u => .ok u
    | .error fault => .error (.uuid fault)
  | _ => .error .notAUuid

/-- A value other than null in the form of a family of types. -/
def convertTo (v : Value) : TypeFamily → Except ConversionFault Value
  | .unknown => .ok v
  | .text => .ok (text v.render)
  | .exactNumeric => v.comparableNumber
  | .integer => v.toInteger.map int
  | .floating => v.toFloating.map float
  | .boolean => v.toBoolean.map bool
  | .date => v.toDate.map date
  | .time => v.toTime.map time
  | .timestamp => v.toTimestamp.map timestamp
  | .zoned => v.toZoned.map zoned
  | .binary => v.toBytes.map bytes
  | .uuid => v.toUuid.map uuid

/-- A result whose fault is turned into an error about this value and the named type. -/
def orError (v : Value) (target : String) {α : Type} (r : Except ConversionFault α) :
    Except ConversionError α :=
  r.mapError fun fault => ⟨v, target, fault⟩

end Value

namespace DataType

/-- A value in the form in which the type's values are kept. -/
def convert (t : DataType) (v : Value) : Except ConversionError Value :=
  if v.isNull then .ok .null else v.orError t.name (v.convertTo t.family)

/-- Text without the differences of format that the type ignores. -/
def dropFormat (t : DataType) : Value → Value
  | .text s =>
    if t = citext then .text (String.ofList (Text.toLower s.toList))
    else .text (String.ofList (Text.dropTailWhile (· = ' ') s.toList))
  | v => v

/-- A value in the form of the type, without the differences of format that the type ignores. -/
def normalize (t : DataType) (v : Value) : Except ConversionError Value := do
  let w ← t.convert v
  return if t.isFormatInsensitive then t.dropFormat w else w

/-- The order of two values as the type sees it. -/
def compare (t : DataType) (left right : Value) : Except ConversionError Ordering :=
  match t.family with
  | .unknown => .ok (left.compare right)
  | .exactNumeric => do
    let l ← left.orError t.name left.toExact
    let r ← right.orError t.name right.toExact
    return l.compare r
  | _ => do
    let l ← t.normalize left
    let r ← t.normalize right
    return l.compare r

end DataType

end TableDiff
