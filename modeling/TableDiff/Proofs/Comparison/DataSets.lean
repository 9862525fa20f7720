import Mathlib.Data.List.Forall2
import TableDiff.Proofs.Comparison.Tables

/-!
# The report about two data sets

A comparison of data sets is the ordered sum of its table comparisons. Each expected table has its
`part` of the report: that of the comparison with the actual table of its name, or the one entry
that there is no such table. The comparison fails with the error of the first part that fails, and
else lays the parts end to end (`compareDataSets_eq`).
-/

namespace TableDiff

variable {c : Comparer} {e : Exclusions} {expected actual : DataSet}

/-- The part of a report that is about an expected table. -/
def part (c : Comparer) (e : Exclusions) (actual : DataSet) (t : Table) :
    Except DiffError Report :=
  match actual.table? t.name with
  | some found => c.compareTables e t found
  | none => .ok (Report.push {} (.missingTable t.name))

/-- The actual tables of a name that no expected table has. -/
def unlistedTables (expected actual : DataSet) : List Mismatch :=
  (actual.tables.filter fun t => expected.tables.all fun u => !u.metadata.hasName t.name).map
    fun t => .unexpectedTable t.name

/-- All entries about two data sets, given the parts about the expected tables. -/
def dataSetEntries (c : Comparer) (expected actual : DataSet) (parts : List Report) :
    List Mismatch :=
  parts.flatMap (·.mismatches) ++
    if c.mode = .strict then unlistedTables expected actual else []

/-- The report about two data sets, given the parts about the expected tables. -/
def dataSetReport (c : Comparer) (expected actual : DataSet) (parts : List Report) : Report where
  summary :=
    { tablesCompared := expected.tables.countP fun t => actual.contains t.name
      cellsCompared := (parts.map (·.summary.cellsCompared)).sum
      structural := Report.structuralCount (dataSetEntries c expected actual parts)
      cells := Report.cellCount (dataSetEntries c expected actual parts) }
  mismatches := dataSetEntries c expected actual parts

/-! ## The parts of a report -/

theorem mapM_eq_ok_iff_forall₂ {α β ε : Type} {f : α → Except ε β} {xs : List α} {ys : List β} :
    xs.mapM f = .ok ys ↔ List.Forall₂ (fun x y => f x = .ok y) xs ys := by
  induction xs generalizing ys with
  | nil =>
    rw [List.mapM_nil, pure_eq_ok, eq_comm]
    simp
  | cons x xs ih =>
    simp only [List.mapM_cons, bind_eq_ok, pure_eq_ok, ih, List.forall₂_cons_left_iff]
    constructor
    · rintro ⟨y, hy, zs, hzs, rfl⟩
      exact ⟨y, zs, hy, hzs, rfl⟩
    · rintro ⟨y, zs, hy, hzs, rfl⟩
      exact ⟨y, hy, zs, hzs, rfl⟩

/-- A part fails where the comparison with the table of its name does. -/
theorem part_eq_error {t : Table} {err : DiffError} : part c e actual t = .error err ↔
    ∃ found, actual.table? t.name = some found ∧ c.compareTables e t found = .error err := by
  unfold part
  cases actual.table? t.name with
  | none => simp
  | some found => simp

theorem tablesCompared_compareTables {t u : Table} {report : Report}
    (h : c.compareTables e t u = .ok report) : report.summary.tablesCompared = 1 := by
  obtain ⟨-, rfl⟩ := Comparer.compareTables_eq_ok.1 h
  rw [Report.pushAll_eq]
  rfl

/-- A part counts a table if there is one to compare with. -/
theorem tablesCompared_part {t : Table} {report : Report} (h : part c e actual t = .ok report) :
    report.summary.tablesCompared = if actual.contains t.name then 1 else 0 := by
  unfold part at h
  unfold DataSet.contains
  cases hfound : actual.table? t.name with
  | some found =>
    rw [hfound] at h
    exact tablesCompared_compareTables h
  | none =>
    rw [hfound] at h
    cases h
    rfl

theorem sum_tablesCompared {ts : List Table} {parts : List Report}
    (h : List.Forall₂ (fun t r => part c e actual t = .ok r) ts parts) :
    (parts.map (·.summary.tablesCompared)).sum = ts.countP fun t => actual.contains t.name := by
  induction h with
  | nil => rfl
  | cons ht _ ih =>
    rw [List.map_cons, List.sum_cons, tablesCompared_part ht, ih, List.countP_cons, Nat.add_comm]

theorem unexpectedTables_eq :
    Comparer.unexpectedTables expected actual = unlistedTables expected actual := by
  unfold Comparer.unexpectedTables unlistedTables
  congr 2
  funext t
  rw [Bool.eq_iff_iff, Bool.not_eq_true', DataSet.contains_eq_false]
  simp

/-! ## The comparison -/

namespace Comparer

/-- Expected tables are compared up to the first that cannot be, and their parts are merged. -/
theorem compareExpected_eq (report : Report) (ts : List Table) :
    c.compareExpected e actual report ts =
      (ts.mapM (part c e actual)).map fun parts => parts.foldl Report.merge report := by
  induction ts generalizing report with
  | nil => rfl
  | cons t ts ih =>
    have hmap : ∀ x : Except DiffError Report, part c e actual t = x →
        ((t :: ts).mapM (part c e actual)).map (fun parts => parts.foldl Report.merge report) =
          x.bind fun r => c.compareExpected e actual (report.merge r) ts := by
      intro x hx
      rw [List.mapM_cons, hx]
      cases x with
      | error err => rfl
      | ok r =>
        simp only [Except.bind, ih, bind, pure, Except.pure]
        cases ts.mapM (part c e actual) <;> rfl
    cases hfound : actual.table? t.name with
    | none =>
      rw [hmap (.ok (Report.push {} (.missingTable t.name))) (by rw [part, hfound])]
      simp only [compareExpected, hfound, Except.bind, Report.merge_push_empty]
    | some found =>
      rw [hmap (c.compareTables e t found) (by rw [part, hfound])]
      simp only [compareExpected, hfound]
      rfl

/-- A comparison of data sets makes its report of the parts about the expected tables, if there is
such a part for each of them. -/
theorem compareDataSets_eq : c.compareDataSets e expected actual =
    (expected.tables.mapM (part c e actual)).map (dataSetReport c expected actual) := by
  unfold compareDataSets
  rw [compareExpected_eq]
  cases hparts : expected.tables.mapM (part c e actual) with
  | error err => rfl
  | ok parts =>
    have hsum := sum_tablesCompared (mapM_eq_ok_iff_forall₂.1 hparts)
    simp only [Except.map, bind, Except.bind, pure, Except.pure, isStrict, unexpectedTables_eq,
      beq_iff_eq, Report.foldl_merge_eq, hsum]
    by_cases hmode : c.mode = .strict
    · simp [hmode, Report.pushAll_eq, dataSetReport, dataSetEntries,
        Report.structuralCount_append, Report.cellCount_append]
    · simp [hmode, dataSetReport, dataSetEntries]

theorem compareDataSets_eq_ok {report : Report} : c.compareDataSets e expected actual = .ok report ↔
    ∃ parts, List.Forall₂ (fun t r => part c e actual t = .ok r) expected.tables parts ∧
      report = dataSetReport c expected actual parts := by
  rw [compareDataSets_eq, map_eq_ok]
  exact exists_congr fun parts => and_congr mapM_eq_ok_iff_forall₂ eq_comm

theorem compareDataSets_eq_error {err : DiffError} :
    c.compareDataSets e expected actual = .error err ↔
      ∃ before t after found, expected.tables = before ++ t :: after ∧
        actual.table? t.name = some found ∧ c.compareTables e t found = .error err ∧
        ∀ u ∈ before, ∃ report, part c e actual u = .ok report := by
  rw [compareDataSets_eq]
  simp only [map_eq_error, mapM_eq_error_iff, part_eq_error]
  constructor
  · rintro ⟨before, t, after, hsplit, ⟨found, hfound, herr⟩, hbefore⟩
    exact ⟨before, t, after, found, hsplit, hfound, herr, hbefore⟩
  · rintro ⟨before, t, after, found, hsplit, hfound, herr, hbefore⟩
    exact ⟨before, t, after, hsplit, ⟨found, hfound, herr⟩, hbefore⟩

/-- **The comparison of data sets is the ordered sum of its table comparisons.** It fails where one
of them does, with the first error, and else reports what they report, one after another. -/
theorem compareDataSets_sums_tables (c : Comparer) (e : Exclusions) (expected actual : DataSet) :
    ((∃ err, c.compareDataSets e expected actual = .error err) ↔
      ∃ t ∈ expected.tables, ∃ found err, actual.table? t.name = some found ∧
        c.compareTables e t found = .error err) ∧
    (∀ err, c.compareDataSets e expected actual = .error err ↔
      ∃ before t after found, expected.tables = before ++ t :: after ∧
        actual.table? t.name = some found ∧ c.compareTables e t found = .error err ∧
        ∀ u ∈ before, ∃ report, part c e actual u = .ok report) ∧
    ∀ report, c.compareDataSets e expected actual = .ok report ↔
      ∃ parts, List.Forall₂ (fun t r => part c e actual t = .ok r) expected.tables parts ∧
        report = dataSetReport c expected actual parts := by
  refine ⟨⟨?_, ?_⟩, fun err => compareDataSets_eq_error, fun report => compareDataSets_eq_ok⟩
  · rintro ⟨err, h⟩
    obtain ⟨before, t, after, found, hsplit, hfound, herr, -⟩ := compareDataSets_eq_error.1 h
    refine ⟨t, ?_, found, err, hfound, herr⟩
    rw [hsplit]
    exact List.mem_append_right _ List.mem_cons_self
  · rintro ⟨t, ht, found, err, hfound, herr⟩
    cases hc : c.compareDataSets e expected actual with
    | error err' => exact ⟨err', rfl⟩
    | ok report =>
      obtain ⟨parts, hparts, -⟩ := compareDataSets_eq_ok.1 hc
      obtain ⟨r, -, hr⟩ := (mapM_ok_results (mapM_eq_ok_iff_forall₂.2 hparts)).1 t ht
      rw [part_eq_error.2 ⟨found, hfound, herr⟩] at hr
      cases hr

end Comparer

end TableDiff
