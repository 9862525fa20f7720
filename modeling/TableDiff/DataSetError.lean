import TableDiff.ConversionError

/-!
# Errors of tables and data sets
-/

namespace TableDiff

/-- Why a table or data set cannot be built or read. -/
inductive DataSetError where
  | noSuchTable (name : String)
  | noSuchColumn (table column : String)
  | rowOutOfBounds (table : String) (row rowCount : Nat)
  | columnOutOfBounds (table : String) (column : Nat)
  | rowWidth (table : String) (expected actual : Nat)
  | duplicateTable (name : String)
  | unsortable (table : String) (cause : ConversionError)
  deriving DecidableEq

def DataSetError.message : DataSetError → String
  | noSuchTable name => s!"Table not found: {name}"
  | noSuchColumn table column => s!"Column '{column}' not found in table {table}"
  | rowOutOfBounds table row rowCount =>
    s!"Row {row} out of bounds for table {table} ({rowCount} rows)"
  | columnOutOfBounds table column => s!"Column index {column} out of bounds for table {table}"
  | rowWidth table expected actual =>
    s!"Table {table} expects {expected} values per row, got {actual}"
  | duplicateTable name => s!"Duplicate table name: {name}"
  | unsortable table cause => s!"Cannot sort table {table}: {cause.message}"

end TableDiff
