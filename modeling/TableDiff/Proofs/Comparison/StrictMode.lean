import TableDiff.Proofs.Comparison.Tables

/-!
# Strict comparisons

A strict comparison of data sets fails where one that is not strict does, with the same error.
Otherwise it reports the same, and unexpected columns and tables besides: these stand between the
other entries, table by table, and are counted as structural (`compareDataSets_strict_extends`).
The relation between the two reports (`Report.Extends`) is kept by each step that adds to both.
-/

namespace TableDiff

/-- An entry that only a strict comparison makes. -/
def Mismatch.isUnexpected : Mismatch → Bool
  | unexpectedTable _ | unexpectedColumn _ _ => true
  | _ => false

/-- The entries that are about expected tables and columns. -/
def expectedEntries (ms : List Mismatch) : List Mismatch := ms.filter fun m => !m.isUnexpected

/-- The first report is the second one with unexpected tables and columns besides. -/
structure Report.Extends (strict lenient : Report) : Prop where
  mismatches : expectedEntries strict.mismatches = lenient.mismatches
  tablesCompared : strict.summary.tablesCompared = lenient.summary.tablesCompared
  cellsCompared : strict.summary.cellsCompared = lenient.summary.cellsCompared
  cells : strict.summary.cells = lenient.summary.cells
  structural : strict.summary.structural =
    lenient.summary.structural + strict.mismatches.countP (·.isUnexpected)

section Entries

variable {ms ns : List Mismatch}

theorem expectedEntries_append :
    expectedEntries (ms ++ ns) = expectedEntries ms ++ expectedEntries ns :=
  List.filter_append ms ns

theorem expectedEntries_eq_self (h : ∀ m ∈ ms, m.isUnexpected = false) :
    expectedEntries ms = ms := by
  apply List.filter_eq_self.2
  intro m hm
  rw [h m hm]
  rfl

theorem expectedEntries_eq_nil (h : ∀ m ∈ ms, m.isUnexpected = true) :
    expectedEntries ms = [] := by
  apply List.filter_eq_nil_iff.2
  intro m hm
  simp [h m hm]

theorem Mismatch.isStructural_of_isUnexpected {m : Mismatch} (h : m.isUnexpected = true) :
    m.isStructural = true := by
  cases m with
  | unexpectedTable => rfl
  | unexpectedColumn => rfl
  | missingTable => cases h
  | missingColumn => cases h
  | rowCount => cases h
  | cell => cases h

/-- Unexpected tables and columns are structural entries. -/
theorem structuralCount_eq (ms : List Mismatch) : Report.structuralCount ms =
    Report.structuralCount (expectedEntries ms) + ms.countP (·.isUnexpected) := by
  unfold Report.structuralCount expectedEntries
  rw [List.countP_eq_countP_filter_add ms (·.isStructural) fun m => !m.isUnexpected]
  congr 1
  rw [List.countP_filter]
  apply List.countP_congr
  intro m _
  cases hm : m.isUnexpected with
  | true => simp [Mismatch.isStructural_of_isUnexpected hm]
  | false => simp

theorem cellCount_expectedEntries (ms : List Mismatch) :
    Report.cellCount (expectedEntries ms) = Report.cellCount ms := by
  unfold Report.cellCount expectedEntries
  rw [List.countP_filter]
  apply List.countP_congr
  intro m _
  cases hm : m.isUnexpected with
  | true => simp [Mismatch.isStructural_of_isUnexpected hm]
  | false => simp

end Entries

/-! ## Steps that keep the relation -/

namespace Report.Extends

variable {r s r' s' : Report}

theorem empty : Extends {} {} := ⟨rfl, rfl, rfl, rfl, rfl⟩

theorem pushAll (h : r.Extends s) (ms : List Mismatch) :
    (r.pushAll ms).Extends (s.pushAll (expectedEntries ms)) := by
  rw [pushAll_eq, pushAll_eq]
  constructor
  · rw [expectedEntries_append, h.mismatches]
  · exact h.tablesCompared
  · exact h.cellsCompared
  · show r.summary.cells + cellCount ms = s.summary.cells + cellCount (expectedEntries ms)
    rw [h.cells, cellCount_expectedEntries]
  · show r.summary.structural + structuralCount ms =
      s.summary.structural + structuralCount (expectedEntries ms) + _
    rw [h.structural, structuralCount_eq ms, List.countP_append]
    omega

theorem recordTable (h : r.Extends s) (cells : Nat) :
    (r.recordTable cells).Extends (s.recordTable cells) where
  mismatches := h.mismatches
  tablesCompared := congrArg (· + 1) h.tablesCompared
  cellsCompared := congrArg (· + cells) h.cellsCompared
  cells := h.cells
  structural := h.structural

/-- A merged report lists and counts the entries of the other report as if they were added. -/
theorem merge (h : r.Extends s) (h' : r'.Extends s') : (r.merge r').Extends (s.merge s') := by
  have hpush := h.pushAll r'.mismatches
  rw [pushAll_eq, pushAll_eq, h'.mismatches] at hpush
  rw [merge_eq, merge_eq]
  constructor
  · exact hpush.mismatches
  · show r.summary.tablesCompared + r'.summary.tablesCompared = _
    rw [h.tablesCompared, h'.tablesCompared]
  · show r.summary.cellsCompared + r'.summary.cellsCompared = _
    rw [h.cellsCompared, h'.cellsCompared]
  · exact hpush.cells
  · exact hpush.structural

end Report.Extends

/-- Two comparisons fail with the same error, or the first report extends the second. -/
inductive OutcomeExtends : Except DiffError Report → Except DiffError Report → Prop
  | failed (err : DiffError) : OutcomeExtends (.error err) (.error err)
  | reported {strict lenient : Report} (h : strict.Extends lenient) :
    OutcomeExtends (.ok strict) (.ok lenient)

namespace Comparer

variable {e : Exclusions} {expected actual : Table}

/-! ## Tables -/

theorem expectedEntries_compareCells {places : List (Nat × ColumnPair)} {cells : List Mismatch}
    (h : compareCells expected actual places = .ok cells) : expectedEntries cells = cells := by
  induction places generalizing cells with
  | nil =>
    cases h
    rfl
  | cons p places ih =>
    obtain ⟨found, hfound, h⟩ := bind_eq_ok.1 h
    obtain ⟨more, hmore, h⟩ := bind_eq_ok.1 h
    obtain ⟨a, b, verdict, -, -, -, rfl⟩ := compareCell_eq_ok.1 hfound
    rw [← pure_eq_ok.1 h, expectedEntries_append, ih hmore]
    cases verdict <;> rfl

theorem expectedEntries_missingOf (c : Comparer) :
    expectedEntries (missingOf (c.pairColumns e expected actual)) =
      missingOf (c.pairColumns e expected actual) := by
  apply expectedEntries_eq_self
  rw [missingOf_pairColumns]
  intro m hm
  obtain ⟨p, -, rfl⟩ := List.mem_map.1 hm
  rfl

theorem expectedEntries_rowCounts :
    expectedEntries (rowCounts expected actual) = rowCounts expected actual := by
  unfold rowCounts
  split
  · rfl
  · rfl

theorem expectedEntries_unexpectedColumns :
    expectedEntries (unexpectedColumns e expected actual) = [] := by
  apply expectedEntries_eq_nil
  intro m hm
  obtain ⟨k, -, rfl⟩ := List.mem_map.1 hm
  rfl

theorem compareTables_strict_extends (r : Registry) (e : Exclusions) (expected actual : Table) :
    OutcomeExtends (compareTables ⟨r, .strict⟩ e expected actual)
      (compareTables ⟨r, .nonStrict⟩ e expected actual) := by
  -- the mode has no part in pairing columns, so both compare the same cells
  have hpairs : pairColumns ⟨r, .strict⟩ e expected actual =
      pairColumns ⟨r, .nonStrict⟩ e expected actual := rfl
  unfold compareTables
  rw [hpairs]
  generalize hfound : pairColumns ⟨r, .nonStrict⟩ e expected actual = found
  have hmissing : expectedEntries (missingOf found) = missingOf found := by
    rw [← hfound]
    exact expectedEntries_missingOf _
  cases hcells : compareCells expected actual
      (cellPlaces (min expected.rowCount actual.rowCount) (pairsOf found)) with
  | error err =>
    simp only [hcells]
    exact .failed err
  | ok cells =>
    simp only [hcells]
    have hentries : expectedEntries (missingOf found ++ unexpectedColumns e expected actual ++
        rowCounts expected actual ++ cells) =
        missingOf found ++ [] ++ rowCounts expected actual ++ cells := by
      simp only [expectedEntries_append, hmissing, expectedEntries_unexpectedColumns,
        expectedEntries_rowCounts, expectedEntries_compareCells hcells]
    have hpush := Report.Extends.empty.pushAll (missingOf found ++
      unexpectedColumns e expected actual ++ rowCounts expected actual ++ cells)
    rw [hentries] at hpush
    exact .reported (hpush.recordTable _)

/-! ## Data sets -/

/-- The relation is kept from table to table. -/
theorem compareExpected_strict_extends (r : Registry) (e : Exclusions) (actual : DataSet)
    (ts : List Table) {report report' : Report} (h : report.Extends report') :
    OutcomeExtends (compareExpected ⟨r, .strict⟩ e actual report ts)
      (compareExpected ⟨r, .nonStrict⟩ e actual report' ts) := by
  induction ts generalizing report report' with
  | nil => exact .reported h
  | cons t ts ih =>
    unfold compareExpected
    cases hfound : actual.table? t.name with
    | none => exact ih (h.pushAll [.missingTable t.name])
    | some found =>
      have htable := compareTables_strict_extends r e t found
      dsimp only
      generalize compareTables ⟨r, .strict⟩ e t found = strict at htable ⊢
      generalize compareTables ⟨r, .nonStrict⟩ e t found = lenient at htable ⊢
      cases htable with
      | failed err => exact .failed err
      | reported htable => exact ih (h.merge htable)

theorem expectedEntries_unexpectedTables (expected actual : DataSet) :
    expectedEntries (unexpectedTables expected actual) = [] := by
  apply expectedEntries_eq_nil
  intro m hm
  obtain ⟨t, -, rfl⟩ := List.mem_map.1 hm
  rfl

theorem compareDataSets_outcome_extends (r : Registry) (e : Exclusions)
    (expected actual : DataSet) :
    OutcomeExtends (compareDataSets ⟨r, .strict⟩ e expected actual)
      (compareDataSets ⟨r, .nonStrict⟩ e expected actual) := by
  have htables := compareExpected_strict_extends r e actual expected.tables .empty
  unfold compareDataSets
  generalize compareExpected ⟨r, .strict⟩ e actual {} expected.tables = strict at htables ⊢
  generalize compareExpected ⟨r, .nonStrict⟩ e actual {} expected.tables = lenient at htables ⊢
  cases htables with
  | failed err => exact .failed err
  | reported h =>
    have hpush := h.pushAll (unexpectedTables expected actual)
    rw [expectedEntries_unexpectedTables] at hpush
    exact .reported hpush

/-- **A strict comparison only adds.** It fails exactly where a comparison that is not strict does,
with the same error. Where they succeed, the strict report without the unexpected tables and columns
lists the entries of the other one in their order; all counts are equal, but for the structural
entries, which are more by those that were left out. -/
theorem compareDataSets_strict_extends (r : Registry) (e : Exclusions)
    (expected actual : DataSet) :
    (∀ err, compareDataSets ⟨r, .strict⟩ e expected actual = .error err ↔
      compareDataSets ⟨r, .nonStrict⟩ e expected actual = .error err) ∧
    ∀ strict lenient, compareDataSets ⟨r, .strict⟩ e expected actual = .ok strict →
      compareDataSets ⟨r, .nonStrict⟩ e expected actual = .ok lenient →
      strict.mismatches.filter (!·.isUnexpected) = lenient.mismatches ∧
      strict.summary.tablesCompared = lenient.summary.tablesCompared ∧
      strict.summary.cellsCompared = lenient.summary.cellsCompared ∧
      strict.summary.cells = lenient.summary.cells ∧
      strict.summary.structural =
        lenient.summary.structural + strict.mismatches.countP (·.isUnexpected) := by
  have houtcome := compareDataSets_outcome_extends r e expected actual
  generalize compareDataSets ⟨r, .strict⟩ e expected actual = x at houtcome ⊢
  generalize compareDataSets ⟨r, .nonStrict⟩ e expected actual = y at houtcome ⊢
  cases houtcome with
  | failed err => exact ⟨fun _ => .rfl, fun _ _ hstrict => (nomatch hstrict)⟩
  | reported h =>
    refine ⟨fun _ => ⟨fun herr => (nomatch herr), fun herr => (nomatch herr)⟩, ?_⟩
    intro strict lenient hstrict hlenient
    cases hstrict
    cases hlenient
    exact ⟨h.mismatches, h.tablesCompared, h.cellsCompared, h.cells, h.structural⟩

end Comparer

/-- A table of names, with some empty columns besides. -/
def namesTable (table : String) (extra : List String) (names : List String) : Table where
  metadata := { name := table, columns := ⟨"name", .plain .varchar, .no⟩ :: extra.map .untyped }
  rows := names.map fun name => .text name :: extra.map fun _ => .null
  width_eq := by
    intro row hrow
    obtain ⟨name, -, rfl⟩ := List.mem_map.1 hrow
    simp

def staffWanted : DataSet := ⟨[namesTable "team" [] ["red"], namesTable "member" [] ["ann", "bob"]]⟩

def staffFound : DataSet :=
  ⟨[namesTable "MEMBER" ["age"] ["ann", "bert"], namesTable "log" [] [],
    namesTable "team" ["size"] ["red"]]⟩

theorem staff_strict_extends :
    ∃ strict lenient,
      Comparer.compareDataSets ⟨{}, .strict⟩ {} staffWanted staffFound = .ok strict ∧
      Comparer.compareDataSets ⟨{}, .nonStrict⟩ {} staffWanted staffFound = .ok lenient ∧
      strict.mismatches = [.unexpectedColumn "team" "size", .unexpectedColumn "member" "age",
        .cell ⟨"member", 1, "name", .text "bob", .text "bert", "VARCHAR"⟩,
        .unexpectedTable "log"] ∧
      lenient.mismatches =
        [.cell ⟨"member", 1, "name", .text "bob", .text "bert", "VARCHAR"⟩] ∧
      strict.summary.structural = lenient.summary.structural + 3 := by
  obtain ⟨strict, hstrict⟩ : ∃ strict, Comparer.compareDataSets ⟨{}, .strict⟩ {} staffWanted
      staffFound = .ok strict := ⟨_, by rfl⟩
  obtain ⟨lenient, hlenient⟩ : ∃ lenient, Comparer.compareDataSets ⟨{}, .nonStrict⟩ {} staffWanted
      staffFound = .ok lenient := ⟨_, by rfl⟩
  obtain ⟨hentries, -, -, -, hstructural⟩ := (Comparer.compareDataSets_strict_extends {} {}
    staffWanted staffFound).2 strict lenient hstrict hlenient
  have hlisted : strict.mismatches = [.unexpectedColumn "team" "size",
      .unexpectedColumn "member" "age",
      .cell ⟨"member", 1, "name", .text "bob", .text "bert", "VARCHAR"⟩,
      .unexpectedTable "log"] := by
    cases hstrict
    decide +kernel
  rw [hlisted] at hentries hstructural
  exact ⟨strict, lenient, hstrict, hlenient, hlisted, hentries.symm, hstructural⟩

end TableDiff
