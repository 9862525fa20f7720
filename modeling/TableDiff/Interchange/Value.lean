import TableDiff.Calendar.Reading
import TableDiff.Json.Number
import TableDiff.Json.Record
import TableDiff.Numeric.Decimal.Reader
import TableDiff.Value

/-!
# Values as JSON

A value is an object with its type and its content; null has no content. Numbers that JSON cannot
hold exactly are text, dates and times have their interchange form, and bytes are a list of
numbers. Floating point numbers are written as JSON numbers or as text (`FloatForm`).
-/

namespace TableDiff

open TableDiff.Calendar TableDiff.Numeric

/-- How floating point numbers are written and read. -/
structure FloatForm where
  write : Binary64 → Json
  read? : Json → Option Binary64

namespace FloatForm

/-- A JSON number; what is not finite is written as null, which cannot be read. -/
def number : FloatForm where
  write x := if x.isFinite then .number x.jsonText else .null
  read? j := j.float?

/-- The positional text, which exists for every number; JSON numbers are read too. -/
def text : FloatForm where
  write x := .string (String.ofList x.text)
  read? j :=
    match j with
    | .string s => (Binary64.ofText s.toList).toOption
    | _ => j.float?

end FloatForm

/-- The name of a kind as the type of a value. -/
def Kind.tag : Kind → String
  | zoned => "timestamp_tz"
  | k => k.name

/-- All kinds. -/
def Kind.all : List Kind :=
  [null, bool, int, float, decimal, text, bytes, date, time, timestamp, zoned, uuid]

/-- The kind with a type name. -/
def Kind.ofTag? (tag : String) : Option Kind := all.find? fun k => k.tag = tag

/-- A decimal as text. -/
def Numeric.Decimal.toJson (d : Decimal) : Json := .string (String.ofList d.text)

/-- A decimal from text, with or without an exponent, or from a number. -/
def Numeric.Decimal.ofJson? (j : Json) : Option Decimal :=
  match j with
  | .string s => (Decimal.ofText? s.toList).or (Decimal.ofScientific? s.toList)
  | .number literal =>
    match Json.Number.ofLiteral? literal with
    | some (.int i) => Decimal.ofParts? (i < 0) i.natAbs 0
    | some (.float x) => Decimal.ofText? x.text
    | none => none
  | _ => none

namespace Value

/-- The content of a value other than null. -/
def content (form : FloatForm) : Value → Json
  | null => .null
  | bool b => .bool b
  | int i => .ofInt i.toInt
  | float x => form.write x
  | decimal d => d.toJson
  | text s => .string s
  | bytes bs => .array (bs.map fun b => .ofNat b.toNat)
  | date d => .string (String.ofList d.text)
  | time t => .string (String.ofList t.text)
  | timestamp t => .string (String.ofList t.interchange)
  | zoned z => .string (String.ofList z.interchange)
  | uuid u => .string (String.ofList u.text)

def toJson (form : FloatForm) (v : Value) : Json :=
  .object <| ("type", .string v.kind.tag) ::
    if v.isNull then [] else [("value", v.content form)]

/-- A text read by the given reader. -/
def ofJsonText? {α : Type} (read : List Char → Option α) (j : Json) : Option α :=
  j.string?.bind fun s => read s.toList

/-- The value of a kind with the given content. -/
def ofContent? (form : FloatForm) (j : Json) : Kind → Option Value
  | .null => match j with
    | .null => some null
    | _ => none
  | .bool => match j with
    | .bool b => some (bool b)
    | _ => none
  | .int => j.int64?.map int
  | .float => (form.read? j).map float
  | .decimal => (Decimal.ofJson? j).map decimal
  | .text => j.string?.map text
  | .bytes => (j.list? Json.byte?).map bytes
  | .date => (ofJsonText? Date.ofInterchange? j).map date
  | .time => (ofJsonText? TimeOfDay.ofInterchange? j).map time
  | .timestamp => (ofJsonText? Timestamp.ofInterchange? j).map timestamp
  | .zoned => (ofJsonText? ZonedTimestamp.ofInterchange? j).map zoned
  | .uuid => (ofJsonText? (fun cs => (Uuid.ofText cs).toOption) j).map uuid

def ofJson? (form : FloatForm) (j : Json) : Option Value := do
  let r ← j.record? ["type", "value"]
  let kind ← r.required "type" fun t => t.string?.bind Kind.ofTag?
  match r.get? "value" with
  | some c => ofContent? form c kind
  | none => if kind = .null ∧ !r.positional then some null else none

end Value

end TableDiff
