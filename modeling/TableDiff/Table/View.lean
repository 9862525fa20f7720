import TableDiff.Table.Sorted

/-!
# Views

A view answers what a table answers: its metadata, the number of its rows, and the value in a row
and a column. A table is a view of its own rows. Views can be laid end to end and sorted without
copying a row: the new view finds the row to be asked for and passes the question on.

A view of tables in memory can have more rows than they have together, as parts may be shared. Its
number of rows (`totalRows`) is a natural number here and a machine word in a program: what is said
of views is said of those with fewer than 2 to the 64 rows, and of their parts, which have no more.
-/

namespace TableDiff

/-- A table as it is read. -/
structure View where
  metadata : Metadata
  rowCount : Nat
  /-- The value in a row and column, both counted from zero. -/
  value : Nat → Nat → Except DataSetError Value

namespace View

def ofTable (t : Table) : View := ⟨t.metadata, t.rowCount, t.value⟩

def name (v : View) : String := v.metadata.name

def columns (v : View) : List Column := v.metadata.columns

/-- A table of the same metadata without rows; columns are found in a view as they are in it. -/
def rowless (v : View) : Table := Table.empty v.metadata

/-- The value in a row under the first column of a name. -/
def valueByName (v : View) (row : Nat) (column : String) : Except DataSetError Value := do
  v.value row (← v.rowless.columnIndex column)

/-! ## Laying views end to end -/

/-- A part of a longer view, with the position in it of each column of the whole. -/
structure Part where
  view : View
  indexes : List Nat

/-- The number of rows of all parts. -/
def totalRows (parts : List Part) : Nat := parts.foldr (fun part n => part.view.rowCount + n) 0

/-- The part that a row of the whole falls on, and the row in this part. -/
def locate : List Part → Nat → Option (Part × Nat)
  | [], _ => none
  | part :: parts, row =>
    if row < part.view.rowCount then some (part, row)
    else locate parts (row - part.view.rowCount)

/-- The rows of all parts one after another. -/
def endToEnd (m : Metadata) (parts : List Part) : View where
  metadata := m
  rowCount := totalRows parts
  value row column :=
    match locate parts row with
    | none => .error (.rowOutOfBounds m.name row (totalRows parts))
    | some (part, offset) =>
      match part.indexes[column]? with
      | none => .error (.columnOutOfBounds m.name column)
      | some index => part.view.value offset index

/-- Views laid end to end under the metadata of the first of them. Every other view must have all
columns of the first; their order may differ. -/
def concat : List View → Except DataSetError View
  | [] => .error (.noSuchTable "<empty composite>")
  | v :: vs => do
    let indexes ← (v :: vs).mapM fun part => part.rowless.columnIndexes v.metadata.columnNames
    return endToEnd v.metadata (List.zipWith Part.mk (v :: vs) indexes)

/-! ## Sorting -/

/-- The rows of a view in another order. -/
def reordered (v : View) (order : List Nat) : View where
  metadata := v.metadata
  rowCount := order.length
  value row column :=
    match order[row]? with
    | none => .error (.rowOutOfBounds v.name row order.length)
    | some source => v.value source column

/-- The key of a row. -/
def sortKey (v : View) (columns : List Table.SortColumn) (row : Nat) :
    Except DataSetError (List Value) :=
  columns.mapM fun c => do
    (c.type.normalize (← v.value row c.index)).mapError (.unsortable v.name)

/-- The rows in the order of their keys, rows with equal keys in their old order. -/
def sortOrder (v : View) (columns : List Table.SortColumn) : Except DataSetError (List Nat) := do
  let keys ← (List.range v.rowCount).mapM (v.sortKey columns)
  let keyed := keys.zip (List.range v.rowCount)
  return (keyed.mergeSort fun a b => (Table.compareKeys a.1 b.1).isLE).map (·.2)

/-- The view sorted by the given columns, which are found by name; each is ordered by its given
type, which may differ from the type it has in the view. -/
def sortedByColumns (v : View) (columns : List Column) : Except DataSetError View := do
  let keys ← v.rowless.sortColumns columns
  return v.reordered (← v.sortOrder keys)

/-- The view sorted by columns given by name, each ordered by its own type. -/
def sortedByNames (v : View) (names : List String) : Except DataSetError View := do
  let columns ← names.mapM fun name =>
    match v.metadata.findColumn? name with
    | some c => .ok c
    | none => .error (.noSuchColumn v.name name)
  v.sortedByColumns columns

/-- The view sorted by its primary key, or by all its columns if it has none. -/
def sorted (v : View) : Except DataSetError View :=
  v.sortedByColumns <|
    if v.metadata.hasPrimaryKey then v.metadata.primaryKeyColumns else v.columns

end View

end TableDiff
