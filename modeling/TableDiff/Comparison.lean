import TableDiff.Filter
import TableDiff.Registry
import TableDiff.Report

/-!
# Comparing tables and data sets

A comparison goes by the expected side. Every expected column that takes part must exist in the
actual table; the cells of such columns are compared row by row, as far as both tables have rows.
In strict mode columns and tables that are not expected are reported too. All mismatches are
collected; only a value that cannot be converted to the type of its column ends a comparison.
-/

namespace TableDiff

/-- Why a comparison cannot be carried out, or did not pass where it had to. -/
inductive DiffError where
  /-- A value in the named cell cannot be converted to the column's type. -/
  | conversion (table : String) (row : Nat) (column : String) (cause : ConversionError)
  | dataSet (cause : DataSetError)
  | configuration (cause : ConfigurationError)
  | config (cause : ConfigError)
  | assertion (failure : Report.Failure)

/-- Where the cell of a failed conversion stands and why it failed. -/
def conversionMessage (table : String) (row : Nat) (column : String) (cause : ConversionError) :
    String :=
  s!"Cannot compare {table}[row {row}].{column}: {cause.message}"

/-- The columns that take no part in a comparison: those that a filter does not accept and those
of an ignored name. -/
structure Exclusions where
  filters : List ColumnFilter := []
  ignored : List String := []

def Exclusions.excludes (e : Exclusions) (table column : String) : Bool :=
  e.ignored.any (Text.sameName · column) || e.filters.any fun accepts => !accepts table column

/-- Two columns of one name whose cells are compared. -/
structure ColumnPair where
  name : String
  expectedIndex : Nat
  actualIndex : Nat
  type : LogicalType

/-- A comparison: the registry that types come from and the treatment of what is not expected. -/
structure Comparer where
  registry : Registry
  mode : ComparisonMode := .nonStrict

namespace Comparer

/-- The comparer of a configuration. -/
def ofConfig (c : Config) : Except ConfigurationError Comparer := do
  return { registry := ← Registry.ofConfig c, mode := c.mode }

def isStrict (c : Comparer) : Bool := c.mode == .strict

/-! ## Columns -/

/-- The type by which two columns are compared: that of the actual one, or of the expected one if
the actual type is unknown, with the tolerance registered for the expected column. -/
def columnType (c : Comparer) (table : String) (expected actual : Column) : LogicalType :=
  c.registry.withTolerance table expected.name
    (if actual.type.isUnknown then expected.type else actual.type)

/-- What becomes of an expected column: a mismatch if it is missing, else a pair to compare. -/
def pairColumn (c : Comparer) (table : String) (actual : List Column) (index : Nat)
    (column : Column) : Mismatch ⊕ ColumnPair :=
  match actual.findIdx? (·.hasName column.name), actual.find? (·.hasName column.name) with
  | some actualIndex, some found =>
    .inr ⟨column.name, index, actualIndex, c.columnType table column found⟩
  | _, _ => .inl (.missingColumn table column.name)

/-- What becomes of the expected columns that take part, in their order. -/
def pairColumns (c : Comparer) (e : Exclusions) (expected actual : Table) :
    List (Mismatch ⊕ ColumnPair) :=
  (expected.columns.zipIdx.filter fun p => !e.excludes expected.name p.1.name).map fun p =>
    c.pairColumn expected.name actual.columns p.2 p.1

/-- The pairs among what became of the expected columns. -/
def pairsOf (found : List (Mismatch ⊕ ColumnPair)) : List ColumnPair :=
  found.filterMap Sum.getRight?

/-- The mismatches among what became of the expected columns. -/
def missingOf (found : List (Mismatch ⊕ ColumnPair)) : List Mismatch :=
  found.filterMap Sum.getLeft?

/-- The columns of the actual table that are not expected, unless they are excluded. -/
def unexpectedColumns (e : Exclusions) (expected actual : Table) : List Mismatch :=
  (actual.columns.filter fun column =>
    !expected.columns.any (·.hasName column.name) && !e.excludes expected.name column.name).map
    fun column => .unexpectedColumn expected.name column.name

/-- The mismatch of row counts, if they differ. -/
def rowCounts (expected actual : Table) : List Mismatch :=
  if expected.rowCount = actual.rowCount then []
  else [.rowCount expected.name expected.rowCount actual.rowCount]

/-! ## Cells -/

/-- A result of reading a table, taken as one of comparing. -/
def readCell (t : Table) (row column : Nat) : Except DiffError Value :=
  (t.value row column).mapError .dataSet

/-- The mismatch of two cells, if they differ. -/
def compareCell (expected actual : Table) (row : Nat) (pair : ColumnPair) :
    Except DiffError (List Mismatch) := do
  let e ← readCell expected row pair.expectedIndex
  let a ← readCell actual row pair.actualIndex
  let equal ← (pair.type.agree e a).mapError (.conversion expected.name row pair.name)
  return if equal then []
    else [.cell ⟨expected.name, row, pair.name, e, a, pair.type.name⟩]

/-- The cells of all pairs of columns in the order of rows, then of columns. -/
def cellPlaces (rows : Nat) (pairs : List ColumnPair) : List (Nat × ColumnPair) :=
  (List.range rows).flatMap fun row => pairs.map fun pair => (row, pair)

/-- The mismatches of the given cells, up to the first that cannot be compared. -/
def compareCells (expected actual : Table) :
    List (Nat × ColumnPair) → Except DiffError (List Mismatch)
  | [] => .ok []
  | (row, pair) :: more => do
    let found ← compareCell expected actual row pair
    return found ++ (← compareCells expected actual more)

/-! ## Tables and data sets -/

/-- The report about an expected and an actual table. -/
def compareTables (c : Comparer) (e : Exclusions) (expected actual : Table) :
    Except DiffError Report := do
  let found := c.pairColumns e expected actual
  let pairs := pairsOf found
  let unexpected := if c.isStrict then unexpectedColumns e expected actual else []
  let rows := min expected.rowCount actual.rowCount
  let cells ← compareCells expected actual (cellPlaces rows pairs)
  let mismatches := missingOf found ++ unexpected ++ rowCounts expected actual ++ cells
  return (Report.pushAll {} mismatches).recordTable (rows * pairs.length)

/-- The report about expected tables, each looked up by name among the actual ones. -/
def compareExpected (c : Comparer) (e : Exclusions) (actual : DataSet) (report : Report) :
    List Table → Except DiffError Report
  | [] => .ok report
  | t :: ts =>
    match actual.table? t.name with
    | some found => do
      let tableReport ← c.compareTables e t found
      c.compareExpected e actual (report.merge tableReport) ts
    | none => c.compareExpected e actual (report.push (.missingTable t.name)) ts

/-- The actual tables that are not expected. -/
def unexpectedTables (expected actual : DataSet) : List Mismatch :=
  (actual.tables.filter fun t => !expected.contains t.name).map fun t => .unexpectedTable t.name

/-- The report about an expected and an actual data set. -/
def compareDataSets (c : Comparer) (e : Exclusions) (expected actual : DataSet) :
    Except DiffError Report := do
  let report ← c.compareExpected e actual {} expected.tables
  return if c.isStrict then report.pushAll (unexpectedTables expected actual) else report

end Comparer

end TableDiff
