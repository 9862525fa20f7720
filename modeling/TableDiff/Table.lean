import TableDiff.DataSetError
import TableDiff.Result
import TableDiff.Schema

/-!
# Tables

A table is its metadata and its rows, every row with one value for each column. Tables are built
row by row (`ofRows`, `addRow`) or by laying several tables end to end (`concat`).

Rows and columns are counted by natural numbers. Their rows lie in memory, so that all these counts
are machine words.
-/

namespace TableDiff

/-- A table whose rows are as wide as its list of columns. -/
structure Table where
  metadata : Metadata
  rows : List (List Value)
  width_eq : ∀ row ∈ rows, row.length = metadata.columns.length

namespace Table

def name (t : Table) : String := t.metadata.name

def columns (t : Table) : List Column := t.metadata.columns

def rowCount (t : Table) : Nat := t.rows.length

/-! ## Building row by row -/

/-- A table without rows. -/
def empty (m : Metadata) : Table := ⟨m, [], by simp⟩

/-- The table with one more row at its end. -/
def addRow (t : Table) (row : List Value) : Except DataSetError Table :=
  if h : row.length = t.metadata.columns.length then
    .ok ⟨t.metadata, t.rows ++ [row], by
      intro r hr
      rcases List.mem_append.1 hr with hr | hr
      · exact t.width_eq r hr
      · rw [List.mem_singleton.1 hr, h]⟩
  else .error (.rowWidth t.name t.columns.length row.length)

/-- The table after a row was offered to it: a row that does not fit is refused. -/
def offer (t : Table) (row : List Value) : Table :=
  match t.addRow row with
  | .ok u => u
  | .error _ => t

/-- The table with the given rows added at its end, up to the first that does not fit. -/
def addRows (t : Table) : List (List Value) → Except DataSetError Table
  | [] => .ok t
  | row :: rows => do (← t.addRow row).addRows rows

/-- The table of the given rows. -/
def ofRows (m : Metadata) (rows : List (List Value)) : Except DataSetError Table :=
  (empty m).addRows rows

/-! ## Reading -/

/-- The position of the first column of a name. -/
def columnIndex (t : Table) (column : String) : Except DataSetError Nat :=
  match t.metadata.columnIndex? column with
  | some i => .ok i
  | none => .error (.noSuchColumn t.name column)

/-- The value in a row and column, both counted from zero. -/
def value (t : Table) (row column : Nat) : Except DataSetError Value :=
  match t.rows[row]? with
  | none => .error (.rowOutOfBounds t.name row t.rowCount)
  | some values =>
    match values[column]? with
    | none => .error (.columnOutOfBounds t.name column)
    | some v => .ok v

theorem value_eq_ok {t : Table} {row column : Nat} {cells : List Value}
    (hrow : t.rows[row]? = some cells) (hcolumn : column < t.columns.length) :
    t.value row column = .ok (cells.getD column .null) := by
  have hwidth : column < cells.length := by
    rw [t.width_eq cells (List.mem_of_getElem? hrow)]
    exact hcolumn
  unfold value
  rw [hrow]
  simp [List.getElem?_eq_getElem hwidth]

theorem value_of_rowCount_le {t : Table} {row column : Nat} (h : t.rowCount ≤ row) :
    t.value row column = .error (.rowOutOfBounds t.name row t.rowCount) := by
  unfold value
  rw [List.getElem?_eq_none h]

theorem value_of_columns_le {t : Table} {row column : Nat} (hrow : row < t.rowCount)
    (h : t.columns.length ≤ column) :
    t.value row column = .error (.columnOutOfBounds t.name column) := by
  have hcells : t.rows[row]? = some t.rows[row] := List.getElem?_eq_getElem hrow
  have hwidth : t.rows[row].length ≤ column := by
    rw [t.width_eq _ (List.getElem_mem hrow)]
    exact h
  unfold value
  rw [hcells]
  simp [List.getElem?_eq_none hwidth]

/-- The value in a row under the first column of a name. -/
def valueByName (t : Table) (row : Nat) (column : String) : Except DataSetError Value := do
  t.value row (← t.columnIndex column)

/-! ## Laying tables end to end -/

/-- The positions of the named columns in a table. -/
def columnIndexes (t : Table) (names : List String) : Except DataSetError (List Nat) :=
  names.mapM t.columnIndex

/-- The values of a row at the given positions. -/
def pick (row : List Value) (indexes : List Nat) : List Value :=
  indexes.map fun i => row.getD i .null

/-- The rows of a table with the columns of the given names only, in the order of the names. -/
def project (t : Table) (names : List String) : Except DataSetError (List (List Value)) := do
  let indexes ← t.columnIndexes names
  return t.rows.map (pick · indexes)

/-- The rows of tables one after another, each under the columns of the given names. -/
def projectAll (names : List String) : List Table → Except DataSetError (List (List Value))
  | [] => .ok []
  | t :: ts => do
    let rows ← t.project names
    return rows ++ (← projectAll names ts)

theorem project_width {t : Table} {names : List String} {rows : List (List Value)}
    (h : t.project names = .ok rows) : ∀ row ∈ rows, row.length = names.length := by
  obtain ⟨indexes, hi, h⟩ := bind_eq_ok.1 h
  intro row hrow
  rw [← pure_eq_ok.1 h] at hrow
  obtain ⟨r, -, rfl⟩ := List.mem_map.1 hrow
  rw [pick, List.length_map, mapM_length hi]

theorem projectAll_width {names : List String} {ts : List Table} {rows : List (List Value)}
    (h : projectAll names ts = .ok rows) : ∀ row ∈ rows, row.length = names.length := by
  induction ts generalizing rows with
  | nil =>
    cases h
    simp
  | cons t ts ih =>
    obtain ⟨first, ht, h⟩ := bind_eq_ok.1 h
    obtain ⟨more, hts, h⟩ := bind_eq_ok.1 h
    intro row hrow
    rw [← pure_eq_ok.1 h] at hrow
    rcases List.mem_append.1 hrow with hrow | hrow
    · exact project_width ht row hrow
    · exact ih hts row hrow

/-- Tables laid end to end under the metadata of the first of them. Every other table must have
all columns of the first; their order may differ. -/
def concat : List Table → Except DataSetError Table
  | [] => .error (.noSuchTable "<empty composite>")
  | t :: ts =>
    match h : projectAll t.metadata.columnNames (t :: ts) with
    | .error e => .error e
    | .ok rows => .ok ⟨t.metadata, rows, by
        intro row hrow
        simp [projectAll_width h row hrow, Metadata.columnNames]⟩

end Table

end TableDiff
