import TableDiff.Table

/-!
# Sorted tables

A table with its rows reordered by some of its columns. A row's key holds the values of these
columns, normalized by the type that each column is sorted by; keys are compared value by value.
Rows with equal keys keep their order.
-/

namespace TableDiff.Table

/-- The order of two keys: that of the first values that differ. -/
def compareKeys : List Value → List Value → Ordering
  | x :: xs, y :: ys => (x.compare y).then (compareKeys xs ys)
  | _, _ => .eq

/-- A column to sort by: its position in the table and the type that orders it. -/
structure SortColumn where
  index : Nat
  type : DataType

/-- The key of a row. -/
def sortKey (t : Table) (columns : List SortColumn) (row : List Value) :
    Except DataSetError (List Value) :=
  columns.mapM fun c =>
    (c.type.normalize (row.getD c.index .null)).mapError (.unsortable t.name)

/-- The columns to sort by, each found by its name. -/
def sortColumns (t : Table) (columns : List Column) : Except DataSetError (List SortColumn) :=
  columns.mapM fun c => return ⟨← t.columnIndex c.name, c.type.dataType⟩

/-- Rows with their keys in the order of the keys, rows with equal keys in their old order. -/
def sortRows (keyed : List (List Value × List Value)) : List (List Value × List Value) :=
  keyed.mergeSort fun a b => (compareKeys a.1 b.1).isLE

/-- The rows of a table with their keys. -/
def keyedRows (t : Table) (columns : List SortColumn) :
    Except DataSetError (List (List Value × List Value)) := do
  return (← t.rows.mapM (t.sortKey columns)).zip t.rows

/-- Every keyed row is a row of the table. -/
theorem mem_rows_of_mem_keyedRows {t : Table} {columns : List SortColumn}
    {keyed : List (List Value × List Value)} (h : t.keyedRows columns = .ok keyed) :
    ∀ p ∈ keyed, p.2 ∈ t.rows := by
  obtain ⟨keys, -, h⟩ := bind_eq_ok.1 h
  intro p hp
  rw [← pure_eq_ok.1 h] at hp
  exact (List.of_mem_zip hp).2

/-- The table sorted by the given columns, which are found by name; each is ordered by its given
type, which may differ from the type it has in the table. -/
def sortedByColumns (t : Table) (columns : List Column) : Except DataSetError Table := do
  let keys ← t.sortColumns columns
  match h : t.keyedRows keys with
  | .error e => .error e
  | .ok keyed => .ok ⟨t.metadata, (sortRows keyed).map (·.2), by
      intro row hrow
      obtain ⟨p, hp, rfl⟩ := List.mem_map.1 hrow
      have hp := (List.mergeSort_perm keyed _).mem_iff.1 hp
      exact t.width_eq _ (mem_rows_of_mem_keyedRows h p hp)⟩

/-- The table sorted by columns given by name, each ordered by its own type. -/
def sortedByNames (t : Table) (names : List String) : Except DataSetError Table := do
  let columns ← names.mapM fun name =>
    match t.metadata.findColumn? name with
    | some c => .ok c
    | none => .error (.noSuchColumn t.name name)
  t.sortedByColumns columns

/-- The table sorted by its primary key, or by all its columns if it has none. -/
def sorted (t : Table) : Except DataSetError Table :=
  t.sortedByColumns <|
    if t.metadata.hasPrimaryKey then t.metadata.primaryKeyColumns else t.columns

end TableDiff.Table
