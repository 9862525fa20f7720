import TableDiff.Value

/-!
# Mismatches

The entries of a comparison report. Each has a stable code; all but differing cells are structural,
that is about tables, columns and row counts.
-/

namespace TableDiff

/-- The stable codes of mismatches. -/
inductive MismatchCode where
  | missingTable
  | missingColumn
  | rowCount
  | unexpectedTable
  | unexpectedColumn
  | cellValue
  deriving DecidableEq, Repr

namespace MismatchCode

def name : MismatchCode → String
  | missingTable => "MISSING_TABLE"
  | missingColumn => "MISSING_COLUMN"
  | rowCount => "ROW_COUNT_MISMATCH"
  | unexpectedTable => "UNEXPECTED_TABLE"
  | unexpectedColumn => "UNEXPECTED_COLUMN"
  | cellValue => "CELL_VALUE_MISMATCH"

def isStructural (c : MismatchCode) : Bool := c != cellValue

end MismatchCode

/-- Two cells that differ: where they stand, by the names of the expected side, what they hold and
the name of the type by which they were compared. -/
structure CellMismatch where
  table : String
  row : Nat
  column : String
  expected : Value
  actual : Value
  comparedAs : String
  deriving DecidableEq

/-- One entry of a report. -/
inductive Mismatch where
  | missingTable (table : String)
  | missingColumn (table column : String)
  | rowCount (table : String) (expected actual : Nat)
  | unexpectedTable (table : String)
  | unexpectedColumn (table column : String)
  | cell (cell : CellMismatch)
  deriving DecidableEq

namespace Mismatch

def code : Mismatch → MismatchCode
  | missingTable _ => .missingTable
  | missingColumn _ _ => .missingColumn
  | rowCount _ _ _ => .rowCount
  | unexpectedTable _ => .unexpectedTable
  | unexpectedColumn _ _ => .unexpectedColumn
  | cell _ => .cellValue

/-- The table that an entry is about. -/
def table : Mismatch → String
  | missingTable t | missingColumn t _ | rowCount t _ _ | unexpectedTable t
  | unexpectedColumn t _ => t
  | cell c => c.table

def isStructural (m : Mismatch) : Bool := m.code.isStructural

/-- The differing cell of an entry, if it is about one. -/
def cell? : Mismatch → Option CellMismatch
  | cell c => some c
  | _ => none

/-- What an entry says, without its code. -/
def describe : Mismatch → String
  | missingTable t => s!"table '{t}' expected but not found"
  | missingColumn t c => s!"column '{t}.{c}' expected but not found"
  | rowCount t expected actual => s!"table '{t}' row count: expected {expected}, got {actual}"
  | unexpectedTable t => s!"table '{t}' not in expected dataset"
  | unexpectedColumn t c => s!"column '{t}.{c}' not in expected table"
  | cell c =>
    s!"{c.table}[row {c.row}].{c.column} ({c.comparedAs}): expected <{c.expected.render}>, " ++
      s!"got <{c.actual.render}>"

/-- The line of an entry in a report. -/
def render (m : Mismatch) : String := s!"[{m.code.name}] {m.describe}"

end Mismatch

end TableDiff
