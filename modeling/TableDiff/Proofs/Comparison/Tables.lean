import Mathlib.Data.List.Basic
import TableDiff.Comparison
import TableDiff.Proofs.Report.Summary

/-!
# The report about two tables

What a comparison of two tables reports is said a second time without the comparison's own passes:
`tableEntries` lists the missing columns, the unexpected ones, the row counts and the differing
cells, each as a comprehension over the columns and rows of the two tables. Where the comparison
succeeds its report holds exactly these entries, and every cell of a compared column was decided
(`compareTables_reports_differences`).

The columns that are compared are those of the expected table that take part (`participants`) and
have a `counterpart?`, the first actual column of their name; `typeFor` is the type by which their
cells are compared.
-/

namespace TableDiff

/-! ## Columns -/

/-- The columns of the expected table that take part in a comparison, with their positions. -/
def participants (e : Exclusions) (expected : Table) : List (Column × Nat) :=
  expected.columns.zipIdx.filter fun p => !e.excludes expected.name p.1.name

/-- The first column of a name with its position. -/
def counterpart? (actual : Table) (name : String) : Option (Column × Nat) :=
  actual.columns.zipIdx.find? fun p => p.1.hasName name

/-- The type by which the cells of two columns are compared: the actual one, or the expected one if
the actual type is unknown; a plain `numeric` or `decimal` takes the tolerance that is registered
for the expected column. -/
def typeFor (r : Registry) (table : String) (expected actual : Column) : LogicalType :=
  match if actual.type.dataType = .unknown then expected.type else actual.type,
    r.tolerances.delta? table expected.name with
  | .plain .numeric, some delta => .tolerant .numeric delta
  | .plain .decimal, some delta => .tolerant .decimal delta
  | t, _ => t

theorem columnType_eq_typeFor (c : Comparer) (table : String) (expected actual : Column) :
    c.columnType table expected actual = typeFor c.registry table expected actual := by
  unfold Comparer.columnType typeFor LogicalType.isUnknown
  simp only [beq_iff_eq]
  generalize (if actual.type.dataType = .unknown then expected.type else actual.type) = t
  cases t with
  | tolerant => simp [Registry.withTolerance]
  | plain d =>
    cases hd : c.registry.tolerances.delta? table expected.name <;> cases d <;>
      simp [Registry.withTolerance, DataType.acceptsTolerance, hd]

theorem find?_eq_counterpart? (actual : Table) (name : String) :
    actual.columns.find? (·.hasName name) = (counterpart? actual name).map (·.1) := by
  conv_lhs => rw [← List.zipIdx_map_fst 0 actual.columns, List.find?_map]
  rfl

theorem findIdx?_eq_counterpart? (actual : Table) (name : String) :
    actual.columns.findIdx? (·.hasName name) = (counterpart? actual name).map (·.2) :=
  List.findIdx?_eq_fst_find?_zipIdx

/-- The pair of columns that the cells of an expected column are compared as. -/
def pairFor? (r : Registry) (expected actual : Table) (p : Column × Nat) : Option ColumnPair :=
  (counterpart? actual p.1.name).map fun q =>
    ⟨p.1.name, p.2, q.2, typeFor r expected.name p.1 q.1⟩

namespace Comparer

variable {c : Comparer} {e : Exclusions} {expected actual : Table}

theorem pairColumn_eq (p : Column × Nat) :
    c.pairColumn expected.name actual.columns p.2 p.1 =
      match pairFor? c.registry expected actual p with
      | some pair => .inr pair
      | none => .inl (.missingColumn expected.name p.1.name) := by
  unfold pairColumn pairFor?
  rw [find?_eq_counterpart?, findIdx?_eq_counterpart?]
  cases counterpart? actual p.1.name with
  | none => rfl
  | some q => simp [columnType_eq_typeFor]

theorem pairsOf_pairColumns :
    pairsOf (c.pairColumns e expected actual) =
      (participants e expected).filterMap (pairFor? c.registry expected actual) := by
  show ((participants e expected).map _).filterMap _ = _
  rw [List.filterMap_map]
  congr 1
  funext p
  simp only [Function.comp_apply, pairColumn_eq]
  cases pairFor? c.registry expected actual p <;> rfl

theorem missingOf_pairColumns :
    missingOf (c.pairColumns e expected actual) =
      ((participants e expected).filter fun p => (counterpart? actual p.1.name).isNone).map
        fun p => .missingColumn expected.name p.1.name := by
  show ((participants e expected).map _).filterMap _ = _
  rw [List.filterMap_map, ← List.filterMap_eq_map, ← List.filterMap_eq_filter,
    List.filterMap_filterMap]
  congr 1
  funext p
  cases hq : counterpart? actual p.1.name <;> simp [pairColumn_eq, pairFor?, hq, Option.guard]

theorem length_pairsOf_pairColumns :
    (pairsOf (c.pairColumns e expected actual)).length =
      ((participants e expected).filter fun p => (counterpart? actual p.1.name).isSome).length := by
  rw [pairsOf_pairColumns, List.length_filterMap_eq_countP, List.countP_eq_length_filter]
  simp [pairFor?]

end Comparer

/-! ## Cells -/

/-- The entry about the cells of a row under an expected column, if the column has a counterpart and
the cells differ. -/
def cellDifference? (r : Registry) (expected actual : Table) (row : Nat) (p : Column × Nat) :
    Option Mismatch := do
  let (found, index) ← counterpart? actual p.1.name
  let t := typeFor r expected.name p.1 found
  match expected.value row p.2, actual.value row index with
  | .ok a, .ok b =>
    if t.agree a b = .ok false then
      some (.cell ⟨expected.name, row, p.1.name, a, b, t.name⟩)
    else none
  | _, _ => none

/-- The cells of a row under an expected column and its counterpart can be compared. -/
def Decided (r : Registry) (expected actual : Table) (row : Nat) (p : Column × Nat) : Prop :=
  ∀ found index, counterpart? actual p.1.name = some (found, index) →
    ∃ a b verdict, expected.value row p.2 = .ok a ∧ actual.value row index = .ok b ∧
      (typeFor r expected.name p.1 found).agree a b = .ok verdict

theorem cellDifference?_of_verdict {r : Registry} {expected actual : Table} {row : Nat}
    {p : Column × Nat} {found : Column} {index : Nat} {a b : Value} {verdict : Bool}
    (hq : counterpart? actual p.1.name = some (found, index))
    (ha : expected.value row p.2 = .ok a) (hb : actual.value row index = .ok b)
    (hv : (typeFor r expected.name p.1 found).agree a b = .ok verdict) :
    cellDifference? r expected actual row p = if verdict then none else
      some (.cell
        ⟨expected.name, row, p.1.name, a, b, (typeFor r expected.name p.1 found).name⟩) := by
  cases verdict <;> simp [cellDifference?, hq, ha, hb, hv]

namespace Comparer

variable {c : Comparer} {e : Exclusions} {expected actual : Table}

theorem readCell_eq_ok {t : Table} {row column : Nat} {v : Value} :
    readCell t row column = .ok v ↔ t.value row column = .ok v :=
  mapError_eq_ok

/-- Comparing one cell succeeds where its two values are read and the type decides about them. -/
theorem compareCell_eq_ok {row : Nat} {pair : ColumnPair} {ms : List Mismatch} :
    compareCell expected actual row pair = .ok ms ↔
      ∃ a b verdict, expected.value row pair.expectedIndex = .ok a ∧
        actual.value row pair.actualIndex = .ok b ∧ pair.type.agree a b = .ok verdict ∧
        ms = if verdict then [] else
          [.cell ⟨expected.name, row, pair.name, a, b, pair.type.name⟩] := by
  unfold compareCell
  simp only [bind_eq_ok, readCell_eq_ok, mapError_eq_ok, pure_eq_ok]
  constructor
  · rintro ⟨a, ha, b, hb, verdict, hv, rfl⟩
    exact ⟨a, b, verdict, ha, hb, hv, rfl⟩
  · rintro ⟨a, b, verdict, ha, hb, hv, rfl⟩
    exact ⟨a, ha, b, hb, verdict, hv, rfl⟩

/-- The cells under an expected column and its counterpart are compared exactly where they can be
decided about, and add their entry. -/
theorem compareCell_pairFor {r : Registry} {row : Nat} {p : Column × Nat} {pair : ColumnPair}
    (hp : pairFor? r expected actual p = some pair) {ms : List Mismatch} :
    compareCell expected actual row pair = .ok ms ↔
      Decided r expected actual row p ∧ ms = (cellDifference? r expected actual row p).toList := by
  obtain ⟨⟨found, index⟩, hq, rfl⟩ := Option.map_eq_some_iff.1 hp
  rw [compareCell_eq_ok]
  constructor
  · rintro ⟨a, b, verdict, ha, hb, hv, rfl⟩
    refine ⟨fun found' index' hq' => ?_, ?_⟩
    · rw [hq] at hq'
      cases hq'
      exact ⟨a, b, verdict, ha, hb, hv⟩
    · rw [cellDifference?_of_verdict hq ha hb hv]
      cases verdict <;> rfl
  · rintro ⟨hd, rfl⟩
    obtain ⟨a, b, verdict, ha, hb, hv⟩ := hd found index hq
    refine ⟨a, b, verdict, ha, hb, hv, ?_⟩
    rw [cellDifference?_of_verdict hq ha hb hv]
    cases verdict <;> rfl

theorem compareCells_append {xs ys : List (Nat × ColumnPair)} {ms : List Mismatch} :
    compareCells expected actual (xs ++ ys) = .ok ms ↔
      ∃ m₁ m₂, compareCells expected actual xs = .ok m₁ ∧
        compareCells expected actual ys = .ok m₂ ∧ ms = m₁ ++ m₂ := by
  induction xs generalizing ms with
  | nil =>
    constructor
    · exact fun h => ⟨[], ms, rfl, h, rfl⟩
    · rintro ⟨m₁, m₂, h₁, h₂, rfl⟩
      cases h₁
      exact h₂
  | cons p xs ih =>
    simp only [List.cons_append, compareCells, bind_eq_ok, pure_eq_ok, ih]
    constructor
    · rintro ⟨m, hm, -, ⟨m₁, m₂, h₁, h₂, rfl⟩, rfl⟩
      exact ⟨m ++ m₁, m₂, ⟨m, hm, m₁, h₁, rfl⟩, h₂, by rw [List.append_assoc]⟩
    · rintro ⟨-, m₂, ⟨m, hm, m₁, h₁, rfl⟩, h₂, rfl⟩
      exact ⟨m, hm, _, ⟨m₁, m₂, h₁, h₂, rfl⟩, by rw [List.append_assoc]⟩

theorem compareCells_eq_of_map_eq {expected actual expected' actual' : Table}
    {places places' : List (Nat × ColumnPair)}
    (h : places.map (fun p => compareCell expected actual p.1 p.2) =
      places'.map fun p => compareCell expected' actual' p.1 p.2) :
    compareCells expected actual places = compareCells expected' actual' places' := by
  induction places generalizing places' with
  | nil =>
    cases places' with
    | nil => rfl
    | cons => cases h
  | cons p places ih =>
    cases places' with
    | nil => cases h
    | cons p' places' =>
      obtain ⟨hp, hrest⟩ := List.cons.inj h
      simp only [compareCells, hp, ih hrest]

theorem compareCells_row {r : Registry} {row : Nat} {ps : List (Column × Nat)}
    {ms : List Mismatch} :
    compareCells expected actual ((ps.filterMap (pairFor? r expected actual)).map (row, ·)) =
        .ok ms ↔
      (∀ p ∈ ps, Decided r expected actual row p) ∧
        ms = ps.filterMap (cellDifference? r expected actual row) := by
  induction ps generalizing ms with
  | nil => simp [compareCells, eq_comm]
  | cons p ps ih =>
    cases hp : pairFor? r expected actual p with
    | none =>
      have hq : counterpart? actual p.1.name = none := Option.map_eq_none_iff.1 hp
      simp [hp, ih, Decided, cellDifference?, hq]
    | some pair =>
      have hcons : (p :: ps).filterMap (cellDifference? r expected actual row) =
          (cellDifference? r expected actual row p).toList ++
            ps.filterMap (cellDifference? r expected actual row) := by
        cases h : cellDifference? r expected actual row p <;> simp [h]
      simp only [List.filterMap_cons_some hp, List.map_cons, compareCells, bind_eq_ok, pure_eq_ok,
        compareCell_pairFor hp, ih, List.forall_mem_cons, hcons]
      constructor
      · rintro ⟨-, ⟨hd, rfl⟩, -, ⟨hds, rfl⟩, rfl⟩
        exact ⟨⟨hd, hds⟩, rfl⟩
      · rintro ⟨⟨hd, hds⟩, rfl⟩
        exact ⟨_, ⟨hd, rfl⟩, _, ⟨hds, rfl⟩, rfl⟩

/-- The cells of several rows are compared exactly where all of them can be decided about. -/
theorem compareCells_rows {r : Registry} {rows : List Nat} {ps : List (Column × Nat)}
    {ms : List Mismatch} :
    compareCells expected actual
        (rows.flatMap fun row => (ps.filterMap (pairFor? r expected actual)).map (row, ·)) =
        .ok ms ↔
      (∀ row ∈ rows, ∀ p ∈ ps, Decided r expected actual row p) ∧
        ms = rows.flatMap fun row => ps.filterMap (cellDifference? r expected actual row) := by
  induction rows generalizing ms with
  | nil => simp [compareCells, eq_comm]
  | cons row rows ih =>
    simp only [List.flatMap_cons, compareCells_append, compareCells_row, ih, List.forall_mem_cons]
    constructor
    · rintro ⟨-, -, ⟨hd, rfl⟩, ⟨hds, rfl⟩, rfl⟩
      exact ⟨⟨hd, hds⟩, rfl⟩
    · rintro ⟨⟨hd, hds⟩, rfl⟩
      exact ⟨_, _, ⟨hd, rfl⟩, ⟨hds, rfl⟩, rfl⟩

end Comparer

/-! ## Whole tables -/

/-- The expected columns that take part and have no counterpart. -/
def missingEntries (e : Exclusions) (expected actual : Table) : List Mismatch :=
  ((participants e expected).filter fun p => (counterpart? actual p.1.name).isNone).map
    fun p => .missingColumn expected.name p.1.name

/-- The actual columns that take part and have the name of no expected column. -/
def unexpectedEntries (e : Exclusions) (expected actual : Table) : List Mismatch :=
  (actual.columns.filter fun k => (counterpart? expected k.name).isNone &&
    !e.excludes expected.name k.name).map fun k => .unexpectedColumn expected.name k.name

/-- The differing cells in the rows that both tables have, row by row. -/
def cellEntries (r : Registry) (e : Exclusions) (expected actual : Table) : List Mismatch :=
  (List.range (min expected.rowCount actual.rowCount)).flatMap fun row =>
    (participants e expected).filterMap (cellDifference? r expected actual row)

/-- All entries about two tables in the order of a report. -/
def tableEntries (c : Comparer) (e : Exclusions) (expected actual : Table) : List Mismatch :=
  missingEntries e expected actual ++
    (if c.mode = .strict then unexpectedEntries e expected actual else []) ++
    (if expected.rowCount = actual.rowCount then []
      else [.rowCount expected.name expected.rowCount actual.rowCount]) ++
    cellEntries c.registry e expected actual

namespace Comparer

variable {c : Comparer} {e : Exclusions} {expected actual : Table}

theorem unexpectedColumns_eq :
    unexpectedColumns e expected actual = unexpectedEntries e expected actual := by
  unfold unexpectedColumns unexpectedEntries
  congr 2
  funext k
  have hk : (!expected.columns.any (·.hasName k.name)) = (counterpart? expected k.name).isNone := by
    rw [← Option.isNone_map (f := Prod.fst), ← find?_eq_counterpart?, Bool.eq_iff_iff]
    simp [List.find?_eq_none]
  rw [hk]

/-- Two comparisons have one outcome if they find the same columns missing and unexpected, and if
in each row their pairs of columns give the same results one by one. -/
theorem compareTables_congr {e' : Exclusions} {expected' actual' : Table}
    (hmissing : missingOf (c.pairColumns e expected actual) =
      missingOf (c.pairColumns e' expected' actual'))
    (hunexpected : c.isStrict = true →
      unexpectedColumns e expected actual = unexpectedColumns e' expected' actual')
    (hcounts : rowCounts expected actual = rowCounts expected' actual')
    (hrows : min expected.rowCount actual.rowCount = min expected'.rowCount actual'.rowCount)
    (hlength : (pairsOf (c.pairColumns e expected actual)).length =
      (pairsOf (c.pairColumns e' expected' actual')).length)
    (hpairs : ∀ row < min expected.rowCount actual.rowCount,
      (pairsOf (c.pairColumns e expected actual)).map (compareCell expected actual row) =
        (pairsOf (c.pairColumns e' expected' actual')).map (compareCell expected' actual' row)) :
    c.compareTables e expected actual = c.compareTables e' expected' actual' := by
  have hcells : compareCells expected actual (cellPlaces
        (min expected.rowCount actual.rowCount) (pairsOf (c.pairColumns e expected actual))) =
      compareCells expected' actual' (cellPlaces
        (min expected.rowCount actual.rowCount) (pairsOf (c.pairColumns e' expected' actual'))) := by
    apply compareCells_eq_of_map_eq
    simp only [cellPlaces, List.map_flatMap, List.map_map]
    refine List.flatMap_congr fun row hrow => ?_
    exact hpairs row (List.mem_range.1 hrow)
  have hstrict : (if c.isStrict then unexpectedColumns e expected actual else []) =
      if c.isStrict then unexpectedColumns e' expected' actual' else [] := by
    split
    next h => exact hunexpected h
    next => rfl
  unfold compareTables
  simp only [hcells, hmissing, hstrict, hcounts, hlength]
  rw [hrows]

/-- Two tables can be compared exactly where all cells that both have can be decided about. -/
theorem compareTables_eq_ok {report : Report} :
    c.compareTables e expected actual = .ok report ↔
      (∀ row < min expected.rowCount actual.rowCount, ∀ p ∈ participants e expected,
        Decided c.registry expected actual row p) ∧
      report = (Report.pushAll {} (tableEntries c e expected actual)).recordTable
        (min expected.rowCount actual.rowCount * ((participants e expected).filter
          fun p => (counterpart? actual p.1.name).isSome).length) := by
  have hentries : ∀ cells, missingOf (c.pairColumns e expected actual) ++
      (if c.isStrict then unexpectedColumns e expected actual else []) ++
      rowCounts expected actual ++ cells = missingEntries e expected actual ++
      (if c.mode = .strict then unexpectedEntries e expected actual else []) ++
      (if expected.rowCount = actual.rowCount then []
        else [.rowCount expected.name expected.rowCount actual.rowCount]) ++ cells := by
    intro cells
    rw [missingOf_pairColumns, unexpectedColumns_eq]
    simp [missingEntries, rowCounts, isStrict]
  unfold compareTables
  simp only [bind_eq_ok, pure_eq_ok, cellPlaces, length_pairsOf_pairColumns]
  constructor
  · rintro ⟨cells, hc, rfl⟩
    rw [pairsOf_pairColumns, compareCells_rows] at hc
    obtain ⟨hd, rfl⟩ := hc
    exact ⟨fun row hrow => hd row (List.mem_range.2 hrow), by rw [hentries]; rfl⟩
  · rintro ⟨hd, rfl⟩
    refine ⟨cellEntries c.registry e expected actual, ?_, by rw [hentries]; rfl⟩
    rw [pairsOf_pairColumns, compareCells_rows]
    exact ⟨fun row hrow => hd row (List.mem_range.1 hrow), rfl⟩

/-- **The report about two tables is complete and exact.** -/
theorem compareTables_reports_differences {report : Report}
    (h : c.compareTables e expected actual = .ok report) :
    report.mismatches = tableEntries c e expected actual ∧
      ∀ row < min expected.rowCount actual.rowCount, ∀ p ∈ participants e expected,
        Decided c.registry expected actual row p := by
  obtain ⟨hd, rfl⟩ := compareTables_eq_ok.1 h
  exact ⟨by simp, hd⟩

end Comparer

/-- Prices by integer key, with a column that the table `pricesFound` lacks. -/
def pricesWanted : Table where
  metadata :=
    { name := "prices"
      columns := [.untyped "ID", ⟨"price", .plain .integer, .no⟩, .untyped "note"] }
  rows := [[.int 1, .int 5, .null], [.int 2, .int 6, .null]]
  width_eq := by decide

/-- Prices under the key in another case, with a column and a row more than `pricesWanted`. -/
def pricesFound : Table where
  metadata :=
    { name := "PRICES", columns := [⟨"PRICE", .plain .numeric, .no⟩, ⟨"id", .plain .integer, .no⟩,
        .untyped "seen"] }
  rows := [[.int 6, .int 1, .null], [.int 9, .int 2, .null], [.int 9, .int 3, .null]]
  width_eq := by decide

/-- A strict comparison that tolerates a difference of one between prices. -/
def pricesComparer : Comparer where
  registry :=
    { tolerances := ⟨[{ table := "*", column := "price", delta := Numeric.Decimal.one }]⟩ }
  mode := .strict

theorem prices_report_differences :
    ∃ report, pricesComparer.compareTables {} pricesWanted pricesFound = .ok report ∧
      report.mismatches = [.missingColumn "prices" "note", .unexpectedColumn "prices" "seen",
        .rowCount "prices" 2 3, .cell ⟨"prices", 1, "price", .int 6, .int 9,
          "NUMERIC_WITH_TOLERATED_DELTA"⟩] := by
  obtain ⟨report, h⟩ : ∃ report, pricesComparer.compareTables {} pricesWanted pricesFound =
      .ok report := ⟨_, by rfl⟩
  refine ⟨report, h, ?_⟩
  rw [(Comparer.compareTables_reports_differences h).1]
  decide +kernel

end TableDiff
