import TableDiff.Interchange.Value
import TableDiff.Schema

/-!
# Types and table metadata as JSON
-/

namespace TableDiff

open TableDiff.Numeric

/-! ## Types -/

/-- The name of a data type in structured data. -/
def DataType.tag : DataType → String
  | longVarchar => "LONG_VARCHAR"
  | nChar => "N_CHAR"
  | nVarchar => "N_VARCHAR"
  | longNVarchar => "LONG_N_VARCHAR"
  | nClob => "N_CLOB"
  | tinyInt => "TINY_INT"
  | smallInt => "SMALL_INT"
  | bigInt => "BIG_INT"
  | timestampWithTimeZone => "TIMESTAMP_WITH_TIME_ZONE"
  | varBinary => "VAR_BINARY"
  | longVarBinary => "LONG_VAR_BINARY"
  | t => t.name

def DataType.toJson (t : DataType) : Json := .string t.tag

def DataType.ofJson? (j : Json) : Option DataType :=
  j.word? (DataType.all.map fun t => (t.tag, t))

namespace LogicalType

def toJson : LogicalType → Json
  | plain t => .object [("Plain", t.toJson)]
  | tolerant base delta =>
    .object [("TolerantNumeric", .object [("base", base.toJson), ("delta", delta.toJson)])]

def ofJson? (j : Json) : Option LogicalType :=
  match j with
  | .object [("Plain", t)] => (DataType.ofJson? t).map plain
  | .object [("TolerantNumeric", t)] => do
    let r ← t.record? ["base", "delta"]
    return tolerant (← r.required "base" DataType.ofJson?) (← r.required "delta" Decimal.ofJson?)
  | _ => none

end LogicalType

/-! ## Columns and keys -/

namespace Nullability

def tag : Nullability → String
  | yes => "yes"
  | no => "no"
  | unknown => "unknown"

def toJson (n : Nullability) : Json := .string n.tag

def ofJson? (j : Json) : Option Nullability := j.word? ([yes, no, unknown].map fun n => (n.tag, n))

end Nullability

namespace Column

def toJson (c : Column) : Json :=
  .object [("name", .string c.name), ("logical_type", c.type.toJson),
    ("nullable", c.nullable.toJson)]

def ofJson? (j : Json) : Option Column := do
  let r ← j.record? ["name", "logical_type", "nullable"]
  return {
    name := ← r.required "name" Json.string?
    type := ← r.required "logical_type" LogicalType.ofJson?
    nullable := ← r.required "nullable" Nullability.ofJson? }

end Column

namespace ForeignKey

def toJson (k : ForeignKey) : Json :=
  .object [("name", match k.name with | some n => .string n | none => .null),
    ("columns", .ofStrings k.columns), ("referenced_table", .string k.referencedTable),
    ("referenced_columns", .ofStrings k.referencedColumns)]

def ofJson? (j : Json) : Option ForeignKey := do
  let r ← j.record? ["name", "columns", "referenced_table", "referenced_columns"]
  return {
    name := ← r.nullable "name" Json.string?
    columns := ← r.required "columns" Json.strings?
    referencedTable := ← r.required "referenced_table" Json.string?
    referencedColumns := ← r.required "referenced_columns" Json.strings? }

end ForeignKey

namespace Metadata

def toJson (m : Metadata) : Json :=
  .object [("name", .string m.name), ("columns", .array (m.columns.map Column.toJson)),
    ("primary_key", .ofStrings m.primaryKey),
    ("foreign_keys", .array (m.foreignKeys.map ForeignKey.toJson))]

/-- Metadata; the keys may be missing. -/
def ofJson? (j : Json) : Option Metadata := do
  let r ← j.record? ["name", "columns", "primary_key", "foreign_keys"]
  return {
    name := ← r.required "name" Json.string?
    columns := ← r.required "columns" (Json.list? Column.ofJson?)
    primaryKey := ← r.optional "primary_key" [] Json.strings?
    foreignKeys := ← r.optional "foreign_keys" [] (Json.list? ForeignKey.ofJson?) }

end Metadata

end TableDiff
