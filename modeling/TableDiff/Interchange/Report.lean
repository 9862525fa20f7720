import TableDiff.Interchange.Value
import TableDiff.Json.Reader
import TableDiff.Report

/-!
# Reports as JSON

A mismatch is an object whose member `kind` tells what it is about; as an array it has the kind as
its first item.
-/

namespace TableDiff

namespace MismatchCode

def all : List MismatchCode :=
  [missingTable, missingColumn, rowCount, unexpectedTable, unexpectedColumn, cellValue]

def toJson (c : MismatchCode) : Json := .string c.name

def ofJson? (j : Json) : Option MismatchCode := j.word? (all.map fun c => (c.name, c))

/-- The kind of the mismatches with a code. -/
def kindTag : MismatchCode → String
  | missingTable => "missing_table"
  | missingColumn => "missing_column"
  | rowCount => "row_count"
  | unexpectedTable => "unexpected_table"
  | unexpectedColumn => "unexpected_column"
  | cellValue => "cell"

end MismatchCode

namespace Mismatch

/-- The members of a mismatch other than its kind. -/
def members (form : FloatForm) : Mismatch → List (String × Json)
  | missingTable t | unexpectedTable t => [("table", .string t)]
  | missingColumn t c | unexpectedColumn t c => [("table", .string t), ("column", .string c)]
  | rowCount t e a => [("table", .string t), ("expected", .ofNat e), ("actual", .ofNat a)]
  | cell c =>
    [("table", .string c.table), ("row", .ofNat c.row), ("column", .string c.column),
      ("expected", c.expected.toJson form), ("actual", c.actual.toJson form),
      ("compared_as", .string c.comparedAs)]

def toJson (form : FloatForm) (m : Mismatch) : Json :=
  .object (("kind", .string m.code.kindTag) :: m.members form)

/-- The kind of a mismatch and the rest of it. -/
def splitKind? (j : Json) : Option (MismatchCode × Json) :=
  let ofTag? (tag : Json) := tag.string?.bind fun t => MismatchCode.all.find? (·.kindTag = t)
  match j with
  | .object members =>
    match members.filter (·.1 = "kind") with
    | [(_, tag)] => (ofTag? tag).map fun c => (c, .object (members.filter (·.1 ≠ "kind")))
    | _ => none
  | .array (tag :: items) => (ofTag? tag).map fun c => (c, .array items)
  | _ => none

/-- A mismatch about a table. -/
def ofTable? (make : String → Mismatch) (j : Json) : Option Mismatch := do
  let r ← j.record? ["table"]
  return make (← r.required "table" Json.string?)

/-- A mismatch about a column. -/
def ofColumn? (make : String → String → Mismatch) (j : Json) : Option Mismatch := do
  let r ← j.record? ["table", "column"]
  return make (← r.required "table" Json.string?) (← r.required "column" Json.string?)

/-- A mismatch of row counts. -/
def ofCounts? (j : Json) : Option Mismatch := do
  let r ← j.record? ["table", "expected", "actual"]
  return rowCount (← r.required "table" Json.string?) (← r.required "expected" Json.nat?)
    (← r.required "actual" Json.nat?)

/-- A mismatch of two cells. -/
def ofCell? (form : FloatForm) (j : Json) : Option Mismatch := do
  let r ← j.record? ["table", "row", "column", "expected", "actual", "compared_as"]
  return cell {
    table := ← r.required "table" Json.string?
    row := ← r.required "row" Json.nat?
    column := ← r.required "column" Json.string?
    expected := ← r.required "expected" (Value.ofJson? form)
    actual := ← r.required "actual" (Value.ofJson? form)
    comparedAs := ← r.required "compared_as" Json.string? }

def ofJson? (form : FloatForm) (j : Json) : Option Mismatch := do
  let (code, rest) ← splitKind? j
  match code with
  | .missingTable => ofTable? missingTable rest
  | .missingColumn => ofColumn? missingColumn rest
  | .rowCount => ofCounts? rest
  | .unexpectedTable => ofTable? unexpectedTable rest
  | .unexpectedColumn => ofColumn? unexpectedColumn rest
  | .cellValue => ofCell? form rest

end Mismatch

namespace Summary

def toJson (s : Summary) : Json :=
  .object [("tables_compared", .ofNat s.tablesCompared), ("cells_compared", .ofNat s.cellsCompared),
    ("structural", .ofNat s.structural), ("cells", .ofNat s.cells)]

def ofJson? (j : Json) : Option Summary := do
  let r ← j.record? ["tables_compared", "cells_compared", "structural", "cells"]
  return {
    tablesCompared := ← r.required "tables_compared" Json.nat?
    cellsCompared := ← r.required "cells_compared" Json.nat?
    structural := ← r.required "structural" Json.nat?
    cells := ← r.required "cells" Json.nat? }

end Summary

namespace Report

def toJson (form : FloatForm) (r : Report) : Json :=
  .object [("summary", r.summary.toJson),
    ("mismatches", .array (r.mismatches.map (Mismatch.toJson form)))]

def ofJson? (form : FloatForm) (j : Json) : Option Report := do
  let r ← j.record? ["summary", "mismatches"]
  return {
    summary := ← r.required "summary" Summary.ofJson?
    mismatches := ← r.required "mismatches" (Json.list? (Mismatch.ofJson? form)) }

/-- The indented JSON text of a report. -/
def jsonText (r : Report) : String := (r.toJson .number).pretty

/-- The report that a JSON text holds. -/
def ofJsonText? (text : String) : Option Report := (Json.ofText? text).bind (ofJson? .number)

end Report

end TableDiff
