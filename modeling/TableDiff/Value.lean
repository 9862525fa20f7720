import TableDiff.Calendar.Writing
import TableDiff.Numeric.Binary64.Shortest
import TableDiff.Numeric.Decimal
import TableDiff.Text.Base64
import TableDiff.Uuid

/-!
# Cell values

A value is what a cell of a table holds, as it was supplied or after conversion to a type. Each
value has a kind, a text for reports, an equality (`same`) and a place in a total order (`compare`).

The two relations differ from `=`: decimals of different scale may be equal, zoned timestamps are
equal as instants, and floating point numbers are equal as numbers but ordered by their bits.
-/

namespace TableDiff

open TableDiff.Calendar TableDiff.Numeric

/-- The kinds of cell values. -/
inductive Kind where
  | null
  | bool
  | int
  | float
  | decimal
  | text
  | bytes
  | date
  | time
  | timestamp
  | zoned
  | uuid
  deriving DecidableEq, Repr

namespace Kind

/-- The name of a kind in messages. -/
def name : Kind → String
  | null => "null"
  | bool => "bool"
  | int => "int"
  | float => "float"
  | decimal => "decimal"
  | text => "string"
  | bytes => "bytes"
  | date => "date"
  | time => "time"
  | timestamp => "timestamp"
  | zoned => "timestamptz"
  | uuid => "uuid"

/-- The place of a kind among the kinds; null comes first. -/
def rank : Kind → Nat
  | null => 0
  | bool => 1
  | int => 2
  | float => 3
  | decimal => 4
  | text => 5
  | bytes => 6
  | date => 7
  | time => 8
  | timestamp => 9
  | zoned => 10
  | uuid => 11

end Kind

/-- The content of a cell. -/
inductive Value where
  | null
  | bool (b : Bool)
  | int (i : Int64)
  | float (x : Binary64)
  | decimal (d : Decimal)
  | text (s : String)
  | bytes (bs : List UInt8)
  | date (d : Date)
  | time (t : TimeOfDay)
  | timestamp (t : Timestamp)
  | zoned (z : ZonedTimestamp)
  | uuid (u : Uuid)
  deriving DecidableEq

namespace Value

def kind : Value → Kind
  | null => .null
  | bool _ => .bool
  | int _ => .int
  | float _ => .float
  | decimal _ => .decimal
  | text _ => .text
  | bytes _ => .bytes
  | date _ => .date
  | time _ => .time
  | timestamp _ => .timestamp
  | zoned _ => .zoned
  | uuid _ => .uuid

def isNull : Value → Bool
  | null => true
  | _ => false

/-- The text that a value holds, if it holds text. -/
def text? : Value → Option String
  | text s => some s
  | _ => none

/-- The value of an optional one; nothing is null. -/
def ofOption (v : Option Value) : Value := v.getD null

/-- The characters of a value in a report. -/
def display : Value → List Char
  | null => "null".toList
  | bool b => (if b then "true" else "false").toList
  | int i => Text.intDigits i.toInt
  | float x => x.text
  | decimal d => d.text
  | text s => s.toList
  | bytes bs => Text.Base64.encode bs
  | date d => d.text
  | time t => t.text
  | timestamp t => t.text
  | zoned z => z.text
  | uuid u => u.text

/-- The text of a value in a report. -/
def render (v : Value) : String := String.ofList v.display

/-- Whether two values are equal, values of different kinds never being so. -/
def same : Value → Value → Bool
  | null, null => true
  | bool a, bool b => a == b
  | int a, int b => a == b
  | float a, float b => a.same b
  | decimal a, decimal b => a.same b
  | text a, text b => a == b
  | bytes a, bytes b => a == b
  | date a, date b => a == b
  | time a, time b => a == b
  | timestamp a, timestamp b => a == b
  | zoned a, zoned b => a.same b
  | uuid a, uuid b => a == b
  | _, _ => false

/-- The total order of values: by kind, within a kind by its natural order. -/
def compare : Value → Value → Ordering
  | bool a, bool b => Ord.compare a b
  | int a, int b => Ord.compare a b
  | float a, float b => a.totalCompare b
  | decimal a, decimal b => a.compare b
  | text a, text b => Ord.compare a b
  | bytes a, bytes b => Ord.compare a b
  | date a, date b => a.compare b
  | time a, time b => a.compare b
  | timestamp a, timestamp b => a.compare b
  | zoned a, zoned b => a.compare b
  | uuid a, uuid b => a.compare b
  | a, b => Ord.compare a.kind.rank b.kind.rank

end Value

end TableDiff
