import TableDiff.Proofs.Comparison.Passing

/-!
# Comparisons that fail

A comparison of two tables never reads beyond their rows and columns. It fails only where the type
of a pair of columns cannot decide about two cells, with an error about the first such place in the
order of rows, then of columns (`compareTables_eq_error`).
-/

namespace TableDiff

/-- The value in a row and column, null beyond the table. -/
def Table.cellAt (t : Table) (row column : Nat) : Value := (t.rows.getD row []).getD column .null

theorem Table.value_eq_cellAt {t : Table} {row column : Nat} (hrow : row < t.rowCount)
    (hcolumn : column < t.columns.length) : t.value row column = .ok (t.cellAt row column) := by
  have hlength : row < t.rows.length := hrow
  have hcells : t.rows.getD row [] = t.rows[row] := by simp [hlength]
  rw [Table.value_eq_ok (List.getElem?_eq_getElem hlength) hcolumn, Table.cellAt, hcells]

namespace Comparer

variable {c : Comparer} {e : Exclusions} {expected actual : Table}

/-- The pairs of columns that are compared. -/
def pairs (c : Comparer) (e : Exclusions) (expected actual : Table) : List ColumnPair :=
  (participants e expected).filterMap (pairFor? c.registry expected actual)

/-- The places that are compared, in the order of rows, then of columns. -/
def places (c : Comparer) (e : Exclusions) (expected actual : Table) : List (Nat × ColumnPair) :=
  cellPlaces (min expected.rowCount actual.rowCount) (c.pairs e expected actual)

theorem mem_places {p : Nat × ColumnPair} (h : p ∈ c.places e expected actual) :
    p.1 < min expected.rowCount actual.rowCount ∧ p.2 ∈ c.pairs e expected actual := by
  obtain ⟨row, hrow, hp⟩ := List.mem_flatMap.1 h
  obtain ⟨pair, hpair, rfl⟩ := List.mem_map.1 hp
  exact ⟨List.mem_range.1 hrow, hpair⟩

theorem index_lt_of_mem_pairs {pair : ColumnPair} (h : pair ∈ c.pairs e expected actual) :
    pair.expectedIndex < expected.columns.length ∧ pair.actualIndex < actual.columns.length := by
  obtain ⟨p, hp, hpair⟩ := List.mem_filterMap.1 h
  obtain ⟨⟨found, index⟩, hq, rfl⟩ := Option.map_eq_some_iff.1 hpair
  exact ⟨lt_of_mem_participants hp, lt_of_counterpart? hq⟩

/-! ## One place -/

/-- What the type of a pair of columns says about the two cells of a place. -/
def verdictAt (expected actual : Table) (p : Nat × ColumnPair) : Except ConversionError Bool :=
  p.2.type.agree (expected.cellAt p.1 p.2.expectedIndex) (actual.cellAt p.1 p.2.actualIndex)

/-- The entry about a place, if its cells differ. -/
def entryAt (expected actual : Table) (p : Nat × ColumnPair) (equal : Bool) : List Mismatch :=
  if equal then []
  else
    [.cell ⟨expected.name, p.1, p.2.name, expected.cellAt p.1 p.2.expectedIndex,
      actual.cellAt p.1 p.2.actualIndex, p.2.type.name⟩]

/-- Comparing a place is asking for its verdict. -/
theorem compareCell_eq {p : Nat × ColumnPair} (hp : p ∈ c.places e expected actual) :
    compareCell expected actual p.1 p.2 =
      ((verdictAt expected actual p).mapError (.conversion expected.name p.1 p.2.name)).map
        (entryAt expected actual p) := by
  obtain ⟨hrow, hpair⟩ := mem_places hp
  obtain ⟨hexpected, hactual⟩ := index_lt_of_mem_pairs hpair
  have he := Table.value_eq_cellAt (Nat.lt_min.1 hrow).1 hexpected
  have ha := Table.value_eq_cellAt (Nat.lt_min.1 hrow).2 hactual
  unfold compareCell readCell verdictAt
  rw [he, ha]
  show Except.bind (Except.mapError _ (p.2.type.agree _ _)) _ = _
  cases p.2.type.agree (expected.cellAt p.1 p.2.expectedIndex)
      (actual.cellAt p.1 p.2.actualIndex) with
  | error cause => rfl
  | ok equal => rfl

theorem compareCell_eq_error {p : Nat × ColumnPair} {err : DiffError}
    (hp : p ∈ c.places e expected actual) : compareCell expected actual p.1 p.2 = .error err ↔
      ∃ cause, verdictAt expected actual p = .error cause ∧
        err = .conversion expected.name p.1 p.2.name cause := by
  rw [compareCell_eq hp, map_eq_error, mapError_eq_error]

theorem exists_compareCell_eq_ok {p : Nat × ColumnPair} (hp : p ∈ c.places e expected actual) :
    (∃ found, compareCell expected actual p.1 p.2 = .ok found) ↔
      ∃ verdict, verdictAt expected actual p = .ok verdict := by
  simp only [compareCell_eq hp, map_eq_ok, mapError_eq_ok]
  constructor
  · rintro ⟨-, verdict, hv, -⟩
    exact ⟨verdict, hv⟩
  · rintro ⟨verdict, hv⟩
    exact ⟨_, verdict, hv, rfl⟩

/-! ## All places -/

theorem compareCells_eq_mapM (ps : List (Nat × ColumnPair)) : compareCells expected actual ps =
    (ps.mapM fun p => compareCell expected actual p.1 p.2).map List.flatten := by
  induction ps with
  | nil => rfl
  | cons p ps ih =>
    rw [compareCells, ih, List.mapM_cons]
    cases compareCell expected actual p.1 p.2 with
    | error err => rfl
    | ok found => cases ps.mapM fun p => compareCell expected actual p.1 p.2 <;> rfl

/-- **A comparison fails at the first place without a verdict**, and nowhere else. -/
theorem compareTables_eq_error {err : DiffError} : c.compareTables e expected actual = .error err ↔
    ∃ before p after cause, c.places e expected actual = before ++ p :: after ∧
      verdictAt expected actual p = .error cause ∧
      err = .conversion expected.name p.1 p.2.name cause ∧
      ∀ q ∈ before, ∃ verdict, verdictAt expected actual q = .ok verdict := by
  have hcells : c.compareTables e expected actual = .error err ↔
      compareCells expected actual (c.places e expected actual) = .error err := by
    unfold compareTables places pairs
    rw [← pairsOf_pairColumns]
    exact map_eq_error
  have hmem : ∀ {before p after}, c.places e expected actual = before ++ p :: after →
      p ∈ c.places e expected actual ∧ ∀ q ∈ before, q ∈ c.places e expected actual := by
    intro before p after hsplit
    rw [hsplit]
    exact ⟨List.mem_append_right _ List.mem_cons_self, fun q => List.mem_append_left _⟩
  rw [hcells, compareCells_eq_mapM, map_eq_error, mapM_eq_error_iff]
  constructor
  · rintro ⟨before, p, after, hsplit, hp, hbefore⟩
    obtain ⟨cause, hv, rfl⟩ := (compareCell_eq_error (hmem hsplit).1).1 hp
    refine ⟨before, p, after, cause, hsplit, hv, rfl, fun q hq => ?_⟩
    exact (exists_compareCell_eq_ok ((hmem hsplit).2 q hq)).1 (hbefore q hq)
  · rintro ⟨before, p, after, cause, hsplit, hv, rfl, hbefore⟩
    refine ⟨before, p, after, hsplit,
      (compareCell_eq_error (hmem hsplit).1).2 ⟨cause, hv, rfl⟩, fun q hq => ?_⟩
    exact (exists_compareCell_eq_ok ((hmem hsplit).2 q hq)).2 (hbefore q hq)

end Comparer

end TableDiff
