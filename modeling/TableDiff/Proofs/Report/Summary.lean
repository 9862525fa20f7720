import Mathlib.Algebra.Ring.Nat
import TableDiff.Report

/-!
# The counts of a report

Every operation on reports is one explicit report: `pushAll_eq` and `merge_eq` say what is listed
and what is counted, and `foldl_merge_eq` says it of any number of reports that are merged in turn.
The counts of structural and of differing cells always come from the list that is added, never from
the summary of the other report.
-/

namespace TableDiff.Report

variable {r s : Report} {ms : List Mismatch}

attribute [ext] Summary Report

/-- The number of entries about tables, columns and row counts. -/
def structuralCount (ms : List Mismatch) : Nat := ms.countP (·.isStructural)

/-- The number of entries about differing cells. -/
def cellCount (ms : List Mismatch) : Nat := ms.countP fun m => !m.isStructural

theorem structuralCount_append (ms ns : List Mismatch) :
    structuralCount (ms ++ ns) = structuralCount ms + structuralCount ns := List.countP_append

theorem cellCount_append (ms ns : List Mismatch) :
    cellCount (ms ++ ns) = cellCount ms + cellCount ns := List.countP_append

/-- The summary counts the entries of the report. -/
structure CountsEntries (r : Report) : Prop where
  structural : r.summary.structural = structuralCount r.mismatches
  cells : r.summary.cells = cellCount r.mismatches

/-! ## Adding entries -/

@[simp] theorem mismatches_push (r : Report) (m : Mismatch) :
    (r.push m).mismatches = r.mismatches ++ [m] := rfl

theorem pushAll_eq (r : Report) (ms : List Mismatch) : r.pushAll ms =
    { summary :=
        { r.summary with
          structural := r.summary.structural + structuralCount ms
          cells := r.summary.cells + cellCount ms }
      mismatches := r.mismatches ++ ms } := by
  induction ms generalizing r with
  | nil => simp [pushAll, structuralCount, cellCount]
  | cons m ms ih =>
    rw [pushAll, List.foldl_cons, ← pushAll, ih]
    cases hm : m.isStructural with
    | true => simp [push, hm, structuralCount, cellCount, Nat.add_assoc, Nat.add_comm 1]
    | false => simp [push, hm, structuralCount, cellCount, Nat.add_assoc, Nat.add_comm 1]

@[simp] theorem mismatches_pushAll (r : Report) (ms : List Mismatch) :
    (r.pushAll ms).mismatches = r.mismatches ++ ms := by
  rw [pushAll_eq]

@[simp] theorem mismatches_recordTable (r : Report) (n : Nat) :
    (r.recordTable n).mismatches = r.mismatches := rfl

theorem tablesCompared_recordTable (r : Report) (cells : Nat) :
    (r.recordTable cells).summary.tablesCompared = r.summary.tablesCompared + 1 := rfl

theorem cellsCompared_recordTable (r : Report) (cells : Nat) :
    (r.recordTable cells).summary.cellsCompared = r.summary.cellsCompared + cells := rfl

theorem tablesCompared_pushAll (r : Report) (ms : List Mismatch) :
    (r.pushAll ms).summary.tablesCompared = r.summary.tablesCompared := by
  rw [pushAll_eq]

theorem cellsCompared_pushAll (r : Report) (ms : List Mismatch) :
    (r.pushAll ms).summary.cellsCompared = r.summary.cellsCompared := by
  rw [pushAll_eq]

/-! ## Merging -/

theorem merge_eq (r s : Report) : r.merge s =
    { summary :=
        { tablesCompared := r.summary.tablesCompared + s.summary.tablesCompared
          cellsCompared := r.summary.cellsCompared + s.summary.cellsCompared
          structural := r.summary.structural + structuralCount s.mismatches
          cells := r.summary.cells + cellCount s.mismatches }
      mismatches := r.mismatches ++ s.mismatches } := pushAll_eq _ _

theorem merge_push_empty (r : Report) (m : Mismatch) : r.merge (push {} m) = r.push m := by
  cases hm : m.isStructural with
  | true => simp [merge_eq, push, hm, structuralCount, cellCount]
  | false => simp [merge_eq, push, hm, structuralCount, cellCount]

theorem merge_recordTable_empty (r : Report) (cells : Nat) :
    r.merge (recordTable {} cells) = r.recordTable cells := by
  simp [merge_eq, recordTable, structuralCount, cellCount]

/-- Reports that are merged in turn list their entries one after another, and count them all. -/
theorem foldl_merge_eq (r : Report) (reports : List Report) : reports.foldl merge r =
    { summary :=
        { tablesCompared :=
            r.summary.tablesCompared + (reports.map (·.summary.tablesCompared)).sum
          cellsCompared := r.summary.cellsCompared + (reports.map (·.summary.cellsCompared)).sum
          structural := r.summary.structural + structuralCount (reports.flatMap (·.mismatches))
          cells := r.summary.cells + cellCount (reports.flatMap (·.mismatches)) }
      mismatches := r.mismatches ++ reports.flatMap (·.mismatches) } := by
  induction reports generalizing r with
  | nil => simp [structuralCount, cellCount]
  | cons s reports ih =>
    rw [List.foldl_cons, ih, merge_eq]
    simp only [List.map_cons, List.sum_cons, List.flatMap_cons, structuralCount_append,
      cellCount_append, Nat.add_assoc, List.append_assoc]

end TableDiff.Report
