import TableDiff.Mismatch
import TableDiff.Numeric.Word

/-!
# Comparison reports

A report lists every mismatch that a comparison found, in the order of discovery, and counts the
tables and cells that were compared and the mismatches of either sort. Reports are built from the
empty one by `push`, `recordTable` and `merge`.

These three count exactly, as happens in a comparison, whose cells lie in memory. A caller may record
any number of cells, though, and counts are kept in machine words: `push?`, `recordTable?` and
`merge?` are the operations with what becomes of a count that fits no word (`Overflow`).
-/

namespace TableDiff

open TableDiff.Numeric

/-- The counts of a report. -/
structure Summary where
  tablesCompared : Nat := 0
  cellsCompared : Nat := 0
  structural : Nat := 0
  cells : Nat := 0
  deriving DecidableEq, Repr

/-- The outcome of a comparison. -/
structure Report where
  summary : Summary := {}
  mismatches : List Mismatch := []
  deriving DecidableEq

namespace Report

/-- Whether no mismatch was found. -/
def passed (r : Report) : Bool := r.mismatches.isEmpty

/-- Adds a mismatch at the end. -/
def push (r : Report) (m : Mismatch) : Report where
  summary :=
    if m.isStructural then { r.summary with structural := r.summary.structural + 1 }
    else { r.summary with cells := r.summary.cells + 1 }
  mismatches := r.mismatches ++ [m]

/-- Adds several mismatches at the end. -/
def pushAll (r : Report) (ms : List Mismatch) : Report := ms.foldl push r

/-- Counts one more table, with the number of its cells that were compared. -/
def recordTable (r : Report) (cells : Nat) : Report :=
  { r with summary :=
    { r.summary with
      tablesCompared := r.summary.tablesCompared + 1
      cellsCompared := r.summary.cellsCompared + cells } }

/-- Adds the tables and cells that another summary counts as compared. -/
def addCompared (r : Report) (s : Summary) : Report :=
  { r with summary :=
    { r.summary with
      tablesCompared := r.summary.tablesCompared + s.tablesCompared
      cellsCompared := r.summary.cellsCompared + s.cellsCompared } }

/-- Appends another report. -/
def merge (r other : Report) : Report :=
  (r.addCompared other.summary).pushAll other.mismatches

end Report

/-! ## Counts in machine words -/

namespace Summary

/-- All counts are machine words. -/
structure WordSized (s : Summary) : Prop where
  tablesCompared : IsWord s.tablesCompared
  cellsCompared : IsWord s.cellsCompared
  structural : IsWord s.structural
  cells : IsWord s.cells

theorem wordSized_iff {s : Summary} : s.WordSized ↔
    IsWord s.tablesCompared ∧ IsWord s.cellsCompared ∧ IsWord s.structural ∧ IsWord s.cells :=
  ⟨fun h => ⟨h.tablesCompared, h.cellsCompared, h.structural, h.cells⟩,
    fun ⟨htables, hcompared, hstructural, hcells⟩ => ⟨htables, hcompared, hstructural, hcells⟩⟩

instance (s : Summary) : Decidable s.WordSized := decidable_of_iff _ wordSized_iff.symm

/-- The summary, each count wrapped around. -/
def wrapped (s : Summary) : Summary where
  tablesCompared := wrapNat64 s.tablesCompared
  cellsCompared := wrapNat64 s.cellsCompared
  structural := wrapNat64 s.structural
  cells := wrapNat64 s.cells

end Summary

/-- What becomes of a count that fits no machine word. -/
inductive Overflow where
  /-- The program stops. -/
  | stops
  /-- The count wraps around. -/
  | wraps
  deriving DecidableEq, Repr

namespace Report

/-- The report, each count wrapped around. -/
def wrapped (r : Report) : Report := { r with summary := r.summary.wrapped }

/-- The report with the counts that are kept of it, if the program goes on. -/
def kept? (overflow : Overflow) (r : Report) : Option Report :=
  if r.summary.WordSized then some r
  else match overflow with
    | .stops => none
    | .wraps => some r.wrapped

def push? (overflow : Overflow) (r : Report) (m : Mismatch) : Option Report :=
  (r.push m).kept? overflow

def recordTable? (overflow : Overflow) (r : Report) (cells : Nat) : Option Report :=
  (r.recordTable cells).kept? overflow

def merge? (overflow : Overflow) (r other : Report) : Option Report := do
  let counted ← (r.addCompared other.summary).kept? overflow
  other.mismatches.foldlM (push? overflow) counted

/-! ## Reading a report -/

/-- The entries about tables, columns and row counts. -/
def structuralMismatches (r : Report) : List Mismatch := r.mismatches.filter (·.isStructural)

/-- The differing cells. -/
def cellMismatches (r : Report) : List CellMismatch := r.mismatches.filterMap (·.cell?)

/-- The text of a report: one line if it passed, else a heading and a line for each entry. -/
def render (r : Report) : String :=
  let s := r.summary
  if r.passed then s!"comparison passed ({s.tablesCompared} tables, {s.cellsCompared} cells)"
  else
    s!"comparison failed: {s.structural} structural, {s.cells} cell mismatches\n" ++
      String.join (r.mismatches.map fun m => s!"  {m.render}\n")

/-- A report that did not pass, taken as a failure. -/
structure Failure where
  report : Report
  failed : report.passed = false

/-- Nothing if the report passed, else the failure. -/
def toResult (r : Report) : Except Failure Unit :=
  if h : r.passed = false then .error ⟨r, h⟩ else .ok ()

end Report

end TableDiff
