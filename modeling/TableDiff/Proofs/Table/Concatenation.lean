import TableDiff.Proofs.Table.Sorting

/-!
# Tables laid end to end

Tables can be laid end to end where every later one has the columns of the first, by name. The rows
of the result are then those of the tables in turn, each cell taken from the column of its name
(`concat_eq_ok`); else the result is an error about one of the columns that a later table lacks
(`concat_eq_error`).

The cell of a row under a name (`Table.cell?`) says this without positions, and without the null
that stands for a cell that does not exist, as there is none.
-/

namespace TableDiff.Table

open TableDiff.Text

variable {t u : Table} {ts : List Table} {row : List Value} {names : List String} {name : String}

/-! ## Cells by name -/

/-- A column of the table has the name. -/
def HasColumn (t : Table) (name : String) : Prop := ∃ c ∈ t.columns, c.hasName name = true

/-- The cell of a row of the table under the first column of a name. -/
def cell? (t : Table) (row : List Value) (name : String) : Option Value :=
  (t.metadata.columnIndex? name).bind fun i => row[i]?

theorem hasColumn_iff : t.HasColumn name ↔ (t.metadata.columnIndex? name).isSome = true := by
  simp [HasColumn, Metadata.columnIndex?, columns]

theorem hasColumn_self {c : Column} (hc : c ∈ t.columns) : t.HasColumn c.name :=
  ⟨c, hc, sameName_refl c.name⟩

/-- What a table gives for a row and a name is the cell of the row under the name. -/
theorem valueByName_eq_ok {k : Nat} {v : Value} : t.valueByName k name = .ok v ↔
    ∃ row, t.rows[k]? = some row ∧ t.cell? row name = some v := by
  have hvalue : ∀ i, t.value k i = .ok v ↔ ∃ row, t.rows[k]? = some row ∧ row[i]? = some v := by
    intro i
    unfold value
    cases t.rows[k]? with
    | none => simp
    | some row => cases hi : row[i]? <;> simp [hi]
  simp only [valueByName, bind_eq_ok, columnIndex_eq_ok, hvalue, cell?, Option.bind_eq_some_iff]
  constructor
  · rintro ⟨i, hi, row, hrow, hv⟩
    exact ⟨row, hrow, i, hi, hv⟩
  · rintro ⟨row, hrow, i, hi, hv⟩
    exact ⟨i, hi, row, hrow, hv⟩

theorem cell?_eq (hrow : row ∈ t.rows) (h : t.HasColumn name) :
    t.cell? row name = some (row.getD ((t.metadata.columnIndex? name).getD 0) .null) := by
  obtain ⟨i, hi⟩ := Option.isSome_iff_exists.1 (hasColumn_iff.1 h)
  obtain ⟨hlt, -⟩ := List.findIdx?_eq_some_iff_getElem.1 hi
  rw [← t.width_eq row hrow] at hlt
  rw [cell?, hi, Option.bind_some, Option.getD_some, List.getD_eq_getElem?_getD,
    List.getElem?_eq_getElem hlt, Option.getD_some]

theorem cell?_congr {a b : String} (h : sameName a b = true) : t.cell? row a = t.cell? row b := by
  have hname : ∀ c : Column, c.hasName a = c.hasName b := fun c => sameName_congr h c.name
  simp only [cell?, Metadata.columnIndex?, hname]

/-! ## Columns of one table -/

/-- The cells of a table under the given names, row by row. -/
def cellsByName (names : List String) (t : Table) : List (List (Option Value)) :=
  t.rows.map fun row => names.map (t.cell? row)

theorem map_some_injective :
    Function.Injective fun rows : List (List Value) => rows.map (·.map some) :=
  List.map_injective_iff.2 (List.map_injective_iff.2 (Option.some_injective Value))

theorem columnIndexes_eq_ok {indexes : List Nat} : t.columnIndexes names = .ok indexes ↔
    (∀ n ∈ names, t.HasColumn n) ∧
      indexes = names.map fun n => (t.metadata.columnIndex? n).getD 0 := by
  refine mapM_eq_ok fun n i => ?_
  rw [columnIndex_eq_ok, hasColumn_iff]
  cases t.metadata.columnIndex? n <;> simp [eq_comm]

theorem project_eq_ok {rows : List (List Value)} : t.project names = .ok rows ↔
    (∀ n ∈ names, t.HasColumn n) ∧ rows.map (·.map some) = t.cellsByName names := by
  have hcells (h : ∀ n ∈ names, t.HasColumn n) :
      (t.rows.map (pick · (names.map fun n => (t.metadata.columnIndex? n).getD 0))).map
        (·.map some) = t.cellsByName names := by
    rw [List.map_map, cellsByName]
    refine List.map_congr_left fun row hrow => ?_
    rw [Function.comp_apply, pick, List.map_map, List.map_map]
    exact List.map_congr_left fun n hn => (cell?_eq hrow (h n hn)).symm
  simp only [project, bind_eq_ok, columnIndexes_eq_ok, pure_eq_ok]
  constructor
  · rintro ⟨-, ⟨h, rfl⟩, rfl⟩
    exact ⟨h, hcells h⟩
  · rintro ⟨h, hrows⟩
    exact ⟨_, ⟨h, rfl⟩, map_some_injective ((hcells h).trans hrows.symm)⟩

theorem project_eq_error {e : DataSetError} (h : t.project names = .error e) :
    ∃ n ∈ names, ¬ t.HasColumn n ∧ e = .noSuchColumn t.name n := by
  rcases bind_eq_error.1 h with h | ⟨indexes, -, h⟩
  · obtain ⟨n, hn, h⟩ := mapM_eq_error h
    refine ⟨n, hn, ?_⟩
    unfold columnIndex at h
    rw [hasColumn_iff]
    cases hi : t.metadata.columnIndex? n with
    | none =>
      rw [hi] at h
      cases h
      exact ⟨by simp, rfl⟩
    | some i =>
      rw [hi] at h
      cases h
  · cases h

/-! ## Several tables -/

theorem projectAll_eq_ok {rows : List (List Value)} : projectAll names ts = .ok rows ↔
    (∀ t ∈ ts, ∀ n ∈ names, t.HasColumn n) ∧
      rows.map (·.map some) = ts.flatMap (cellsByName names) := by
  induction ts generalizing rows with
  | nil =>
    rw [projectAll, Except.ok.injEq, eq_comm]
    simp
  | cons t ts ih =>
    simp only [projectAll, bind_eq_ok, pure_eq_ok, project_eq_ok, ih, List.forall_mem_cons,
      List.flatMap_cons]
    constructor
    · rintro ⟨first, ⟨ht, hfirst⟩, more, ⟨hts, hmore⟩, rfl⟩
      rw [List.map_append, hfirst, hmore]
      exact ⟨⟨ht, hts⟩, rfl⟩
    · rintro ⟨⟨ht, hts⟩, hrows⟩
      obtain ⟨first, more, rfl, hfirst, hmore⟩ := List.map_eq_append_iff.1 hrows
      exact ⟨first, ⟨ht, hfirst⟩, more, ⟨hts, hmore⟩, rfl⟩

theorem projectAll_eq_error {e : DataSetError} (h : projectAll names ts = .error e) :
    ∃ t ∈ ts, ∃ n ∈ names, ¬ t.HasColumn n ∧ e = .noSuchColumn t.name n := by
  induction ts with
  | nil => cases h
  | cons t ts ih =>
    rcases bind_eq_error.1 h with h | ⟨first, -, h⟩
    · exact ⟨t, List.mem_cons_self, project_eq_error h⟩
    · rcases bind_eq_error.1 h with h | ⟨more, -, h⟩
      · obtain ⟨s, hs, hmissing⟩ := ih h
        exact ⟨s, List.mem_cons_of_mem t hs, hmissing⟩
      · cases h

theorem forall_hasColumn_iff :
    (∀ s ∈ t :: ts, ∀ n ∈ t.metadata.columnNames, s.HasColumn n) ↔
      ∀ s ∈ ts, ∀ c ∈ t.columns, s.HasColumn c.name := by
  simp only [Metadata.columnNames, List.forall_mem_map, List.forall_mem_cons]
  exact and_iff_right fun c hc => hasColumn_self hc

/-- **Tables laid end to end** keep the first one's metadata and all rows, with each cell taken from
the column of its name. -/
theorem concat_eq_ok : concat (t :: ts) = .ok u ↔
    (∀ s ∈ ts, ∀ c ∈ t.columns, s.HasColumn c.name) ∧ u.metadata = t.metadata ∧
      u.rows.map (·.map some) = (t :: ts).flatMap (cellsByName t.metadata.columnNames) := by
  have hresult : concat (t :: ts) = .ok u ↔ u.metadata = t.metadata ∧
      projectAll t.metadata.columnNames (t :: ts) = .ok u.rows := by
    simp only [concat]
    split
    next e he => simp [he]
    next rows hrows =>
      have hproject : projectAll t.metadata.columnNames (t :: ts) = .ok u.rows ↔ rows = u.rows := by
        rw [hrows, Except.ok.injEq]
      rw [hproject, Except.ok.injEq]
      constructor
      · rintro rfl
        exact ⟨rfl, rfl⟩
      · rintro ⟨hm, rfl⟩
        cases u
        cases hm
        rfl
  rw [hresult, projectAll_eq_ok, forall_hasColumn_iff]
  exact and_left_comm

theorem concat_eq_error {e : DataSetError} (h : concat (t :: ts) = .error e) :
    ∃ s ∈ ts, ∃ c ∈ t.columns, ¬ s.HasColumn c.name ∧ e = .noSuchColumn s.name c.name := by
  have hproject : projectAll t.metadata.columnNames (t :: ts) = .error e := by
    simp only [concat] at h
    split at h
    next e' he =>
      cases h
      exact he
    next => cases h
  obtain ⟨s, hs, n, hn, hmissing, he⟩ := projectAll_eq_error hproject
  obtain ⟨c, hc, rfl⟩ := List.mem_map.1 hn
  rcases List.mem_cons.1 hs with rfl | hs
  · exact absurd (hasColumn_self hc) hmissing
  · exact ⟨s, hs, c, hc, hmissing, he⟩

/-- The cells under the given names of tables laid end to end are those of the tables in turn. -/
theorem cellsByName_of_concat (h : concat (t :: ts) = .ok u)
    (hnames : ∀ n ∈ names, u.HasColumn n) :
    u.cellsByName names = (t :: ts).flatMap (cellsByName names) := by
  obtain ⟨-, hm, hrows⟩ := concat_eq_ok.1 h
  -- what a whole row of the result gives for the names
  let read : List (Option Value) → List (Option Value) := fun cells =>
    names.map fun n => (u.metadata.columnIndex? n).bind fun k => cells[k]?.join
  have hcell : ∀ row, names.map (u.cell? row) = read (row.map some) := by
    intro row
    refine List.map_congr_left fun n _ => ?_
    rw [cell?]
    refine congrArg _ (funext fun k => ?_)
    rw [List.getElem?_map]
    cases row[k]? <;> rfl
  -- reading the result by `n` is reading its column `k`, whose own name each part was read by
  have hpart : ∀ s : Table, ∀ row,
      read (t.metadata.columnNames.map (s.cell? row)) = names.map (s.cell? row) := by
    intro s row
    refine List.map_congr_left fun n hn => ?_
    obtain ⟨k, hk⟩ := Option.isSome_iff_exists.1 (hasColumn_iff.1 (hnames n hn))
    obtain ⟨hlt, hsame, -⟩ := List.findIdx?_eq_some_iff_getElem.1 hk
    have hcolumn : t.metadata.columnNames[k]? = some u.metadata.columns[k].name := by
      rw [← hm, Metadata.columnNames, List.getElem?_map, List.getElem?_eq_getElem hlt,
        Option.map_some]
    rw [hk, Option.bind_some, List.getElem?_map, hcolumn, Option.map_some, Option.join_some,
      cell?_congr hsame]
  calc u.cellsByName names
      = (u.rows.map (·.map some)).map read := by
        rw [cellsByName, List.map_map]
        exact List.map_congr_left fun row _ => hcell row
    _ = ((t :: ts).flatMap (cellsByName t.metadata.columnNames)).map read := by rw [hrows]
    _ = (t :: ts).flatMap (cellsByName names) := by
        rw [List.map_flatMap]
        refine congrArg (List.flatMap · _) (funext fun s => ?_)
        rw [cellsByName, List.map_map]
        exact List.map_congr_left fun row _ => hpart s row

/-- Read by the name of a column, tables laid end to end give the cells of the tables in turn. -/
theorem cell?_of_concat (h : concat (t :: ts) = .ok u) (hname : u.HasColumn name) :
    u.rows.map (u.cell? · name) = (t :: ts).flatMap fun s => s.rows.map (s.cell? · name) := by
  have hone : ∀ s : Table,
      s.rows.map (s.cell? · name) = (s.cellsByName [name]).map (·.head?.join) := by
    intro s
    simp [cellsByName]
  rw [hone, cellsByName_of_concat h (by simpa using hname), List.map_flatMap]
  simp only [hone]

end TableDiff.Table
