import TableDiff.Proofs.Comparison.FirstFailure
import TableDiff.Proofs.Conversion.Verdict
import TableDiff.Proofs.Registry.Tolerances

/-!
# A tolerance that is added

Registering the first tolerance for a column is local and only forgives: a comparison of data sets
fails at the same cell as before or reports the same entries without some differing cells, all of
them under this column, in a table that the tolerance is for, and of type `numeric` or `decimal`
(`compareDataSets_addTolerance`). What else changes is the name of the type in entries that stay.

The plain and the tolerant type refuse the same values, and where the plain one finds two values
equal the tolerant one does (`agree_forgives`). This carries over from cells to tables, and by
induction over the expected tables to data sets.
-/

namespace TableDiff

open TableDiff.Numeric TableDiff.Text

/-! ## Verdicts -/

/-- Both verdicts fail for the same value and cause, or the second one is true where the first
is. -/
inductive VerdictForgives : Except ConversionError Bool → Except ConversionError Bool → Prop
  | failed (v : Value) (target target' : String) (fault : ConversionFault) :
    VerdictForgives (.error ⟨v, target, fault⟩) (.error ⟨v, target', fault⟩)
  | decided {equal equal' : Bool} (h : equal = true → equal' = true) :
    VerdictForgives (.ok equal) (.ok equal')

theorem VerdictForgives.refl (verdict : Except ConversionError Bool) :
    VerdictForgives verdict verdict := by
  cases verdict with
  | error cause => exact .failed cause.value cause.target cause.target cause.fault
  | ok equal => exact .decided id

section Verdicts

variable {verdict verdict' : Except ConversionError Bool} {cause cause' : ConversionError}

theorem VerdictForgives.of_error (h : VerdictForgives (.error cause) verdict') :
    ∃ cause', verdict' = .error cause' ∧ cause'.value = cause.value ∧
      cause'.fault = cause.fault := by
  cases h with
  | failed v target target' fault => exact ⟨⟨v, target', fault⟩, rfl, rfl, rfl⟩

theorem VerdictForgives.of_error_right (h : VerdictForgives verdict (.error cause')) :
    ∃ cause, verdict = .error cause := by
  cases h with
  | failed v target target' fault => exact ⟨⟨v, target, fault⟩, rfl⟩

theorem VerdictForgives.of_ok {equal : Bool} (h : VerdictForgives (.ok equal) verdict') :
    ∃ equal', verdict' = .ok equal' ∧ (equal = true → equal' = true) := by
  cases h with
  | decided h => exact ⟨_, rfl, h⟩

end Verdicts

/-- A tolerated difference forgives, and refuses no value that the plain type takes. -/
theorem LogicalType.agree_forgives {d : DataType} (hd : d.family = .exactNumeric) {delta : Decimal}
    (hdelta : 0 ≤ delta.toRat) (a b : Value) :
    VerdictForgives ((plain d).agree a b) ((tolerant d delta).agree a b) := by
  have hplain : (plain d).ComparesNumbers := hd
  have htolerant : (tolerant d delta).ComparesNumbers := trivial
  cases ha : a.isNull with
  | true =>
    rw [isNull_eq_true ha, agree_null_left, agree_null_left]
    exact .decided id
  | false =>
    cases hb : b.isNull with
    | true =>
      rw [isNull_eq_true hb, agree_null_right, agree_null_right]
      exact .decided id
    | false =>
      cases hn : a.toExact? with
      | none =>
        rw [agree_of_no_number hplain ha hb hn, agree_of_no_number htolerant ha hb hn]
        exact .failed a _ _ _
      | some n =>
        cases hm : b.toExact? with
        | none =>
          rw [agree_number_of_no_number hplain hn hb hm,
            agree_number_of_no_number htolerant hn hb hm]
          exact .failed b _ _ _
        | some m =>
          rw [agree_of_numbers hplain hn hm, agree_of_numbers htolerant hn hm]
          refine .decided fun hequal => decide_eq_true ?_
          exact (of_decide_eq_true hequal).trans hdelta

/-! ## Lists of entries -/

/-- The entry without the name of the type by which its cells were compared. -/
def Mismatch.untyped : Mismatch → Mismatch
  | cell c => cell { c with comparedAs := "" }
  | m => m

/-- The first list without some entries about allowed cells, while others of these may have another
name for their type. -/
inductive Forgives (allowed : CellMismatch → Prop) : List Mismatch → List Mismatch → Prop
  | nil : Forgives allowed [] []
  | keep (m : Mismatch) {ms ns : List Mismatch} (h : Forgives allowed ms ns) :
    Forgives allowed (m :: ms) (m :: ns)
  | rename {c : CellMismatch} (hc : allowed c) (name : String) {ms ns : List Mismatch}
    (h : Forgives allowed ms ns) :
    Forgives allowed (.cell c :: ms) (.cell { c with comparedAs := name } :: ns)
  | drop {c : CellMismatch} (hc : allowed c) {ms ns : List Mismatch}
    (h : Forgives allowed ms ns) : Forgives allowed (.cell c :: ms) ns

namespace Forgives

variable {allowed allowed' : CellMismatch → Prop} {ms ns ms' ns' : List Mismatch}

theorem refl (ms : List Mismatch) : Forgives allowed ms ms := by
  induction ms with
  | nil => exact .nil
  | cons m ms ih => exact .keep m ih

theorem append (h : Forgives allowed ms ns) (h' : Forgives allowed ms' ns') :
    Forgives allowed (ms ++ ms') (ns ++ ns') := by
  induction h with
  | nil => exact h'
  | keep m _ ih => exact .keep m ih
  | rename hc name _ ih => exact .rename hc name ih
  | drop hc _ ih => exact .drop hc ih

theorem mono (hallowed : ∀ c, allowed c → allowed' c) (h : Forgives allowed ms ns) :
    Forgives allowed' ms ns := by
  induction h with
  | nil => exact .nil
  | keep m _ ih => exact .keep m ih
  | rename hc name _ ih => exact .rename (hallowed _ hc) name ih
  | drop hc _ ih => exact .drop (hallowed _ hc) ih

/-- Without the names of types what is left is a sublist. -/
theorem sublist (h : Forgives allowed ms ns) :
    (ns.map Mismatch.untyped).Sublist (ms.map Mismatch.untyped) := by
  induction h with
  | nil => exact .slnil
  | keep m _ ih => exact .cons_cons m.untyped ih
  | rename _ name _ ih => exact .cons_cons _ ih
  | drop _ _ ih => exact .cons _ ih

theorem flatMap {α : Type} {f g : α → List Mismatch} {xs : List α}
    (h : ∀ x ∈ xs, Forgives allowed (f x) (g x)) :
    Forgives allowed (xs.flatMap f) (xs.flatMap g) := by
  induction xs with
  | nil => exact .nil
  | cons x xs ih =>
    rw [List.flatMap_cons, List.flatMap_cons]
    exact (h x List.mem_cons_self).append (ih fun y hy => h y (List.mem_cons_of_mem x hy))

theorem filterMap {α : Type} {f g : α → Option Mismatch} {xs : List α}
    (h : ∀ x ∈ xs, Forgives allowed (f x).toList (g x).toList) :
    Forgives allowed (xs.filterMap f) (xs.filterMap g) := by
  rw [List.filterMap_eq_flatMap_toList, List.filterMap_eq_flatMap_toList]
  exact flatMap h

end Forgives

/-! ## Columns -/

/-- The type by which the cells of two columns are compared, tolerances left aside. -/
def baseType (expected actual : Column) : LogicalType :=
  if actual.type.dataType = .unknown then expected.type else actual.type

/-- A differing cell that a rule may forgive: it has the rule's column and table, and the columns
that it stands under have a plain exactly numeric type, tolerances left aside. -/
structure Forgivable (rule : ToleranceRule) (e : Exclusions) (expected actual : Table)
    (c : CellMismatch) : Prop where
  column : sameName rule.column c.column = true
  table : rule.table = "*" ∨ sameName rule.table c.table = true
  type : ∃ p ∈ participants e expected, ∃ found index,
    counterpart? actual p.1.name = some (found, index) ∧ c.table = expected.name ∧
      c.column = p.1.name ∧
      (baseType p.1 found = .plain .numeric ∨ baseType p.1 found = .plain .decimal)

/-- A differing cell of two data sets that a rule may forgive. -/
def ForgivableIn (rule : ToleranceRule) (e : Exclusions) (expected actual : DataSet)
    (c : CellMismatch) : Prop :=
  ∃ t ∈ expected.tables, ∃ found, actual.table? t.name = some found ∧ Forgivable rule e t found c

/-- The first tolerance for a column, added to a registry. -/
structure AddsFirst (rule : ToleranceRule) (r r' : Registry) : Prop where
  fresh : ∀ other ∈ r.tolerances.rules, other.isForColumn rule.column = false
  added : r.tolerances.add rule = .ok r'.tolerances

section Cells

variable {rule : ToleranceRule} {r r' : Registry} {table : String} {k found : Column}

/-- Where a rule changes the type of two columns, this was a plain exactly numeric one, and the rule
covers the expected column. -/
theorem AddsFirst.typeFor_cases (h : AddsFirst rule r r') (table : String) (k found : Column) :
    typeFor r' table k found = typeFor r table k found ∨
      rule.covers table k.name = true ∧ ∃ d, (d = .numeric ∨ d = .decimal) ∧
        baseType k found = .plain d ∧ typeFor r table k found = .plain d ∧
        typeFor r' table k found = .tolerant d rule.delta := by
  have hdelta := ToleranceTable.delta?_add_of_new h.fresh h.added table k.name
  cases hcovers : rule.covers table k.name with
  | false =>
    rw [hcovers, if_neg Bool.false_ne_true] at hdelta
    left
    unfold typeFor
    rw [hdelta]
  | true =>
    have hnone : r.tolerances.delta? table k.name = none :=
      ToleranceTable.delta?_eq_none_of_new h.fresh (Bool.and_eq_true_iff.1 hcovers).1
    rw [hcovers, if_pos rfl] at hdelta
    unfold typeFor baseType
    rw [hdelta, hnone]
    generalize (if found.type.dataType = .unknown then k.type else found.type) = t
    cases t with
    | tolerant base delta => exact .inl rfl
    | plain d =>
      cases d with
      | numeric => exact .inr ⟨rfl, .numeric, .inl rfl, rfl, rfl, rfl⟩
      | decimal => exact .inr ⟨rfl, .decimal, .inr rfl, rfl, rfl, rfl⟩
      | _ => exact .inl rfl

theorem AddsFirst.agree_forgives (h : AddsFirst rule r r') (table : String) (k found : Column)
    (a b : Value) : VerdictForgives ((typeFor r table k found).agree a b)
      ((typeFor r' table k found).agree a b) := by
  rcases h.typeFor_cases table k found with heq | ⟨-, d, hd, -, hplain, htolerant⟩
  · rw [heq]
    exact .refl _
  · have hdelta := ToleranceTable.toRat_nonneg_of_fault? (ToleranceTable.add_eq_ok.1 h.added).1
    rw [hplain, htolerant]
    rcases hd with rfl | rfl
    · exact LogicalType.agree_forgives rfl hdelta a b
    · exact LogicalType.agree_forgives rfl hdelta a b

variable {e : Exclusions} {expected actual : Table} {row : Nat} {p : Column × Nat}
  {cause : ConversionError}

theorem AddsFirst.failsAt (h : AddsFirst rule r r')
    (hfails : FailsAt r expected actual row p cause) :
    ∃ cause', FailsAt r' expected actual row p cause' ∧ cause'.value = cause.value ∧
      cause'.fault = cause.fault := by
  obtain ⟨found, index, a, b, hq, ha, hb, hv⟩ := hfails
  have hforgives := h.agree_forgives expected.name p.1 found a b
  rw [hv] at hforgives
  obtain ⟨cause', hv', hcause⟩ := hforgives.of_error
  exact ⟨cause', ⟨found, index, a, b, hq, ha, hb, hv'⟩, hcause⟩

theorem AddsFirst.of_failsAt (h : AddsFirst rule r r')
    (hfails : FailsAt r' expected actual row p cause) :
    ∃ cause', FailsAt r expected actual row p cause' := by
  obtain ⟨found, index, a, b, hq, ha, hb, hv⟩ := hfails
  have hforgives := h.agree_forgives expected.name p.1 found a b
  rw [hv] at hforgives
  obtain ⟨cause', hv'⟩ := hforgives.of_error_right
  exact ⟨cause', found, index, a, b, hq, ha, hb, hv'⟩

theorem AddsFirst.decided (h : AddsFirst rule r r') (hd : Decided r expected actual row p) :
    Decided r' expected actual row p := by
  intro found index hq
  obtain ⟨a, b, verdict, ha, hb, hv⟩ := hd found index hq
  have hforgives := h.agree_forgives expected.name p.1 found a b
  rw [hv] at hforgives
  obtain ⟨verdict', hv', -⟩ := hforgives.of_ok
  exact ⟨a, b, verdict', ha, hb, hv'⟩

/-- A cell of a covered column whose type the rule changes is forgivable. -/
theorem forgivable_of_covers {d : DataType} {index : Nat} (hp : p ∈ participants e expected)
    (hq : counterpart? actual p.1.name = some (found, index))
    (hcovers : rule.covers expected.name p.1.name = true) (hd : d = .numeric ∨ d = .decimal)
    (hbase : baseType p.1 found = .plain d) (row : Nat) (a b : Value) (name : String) :
    Forgivable rule e expected actual ⟨expected.name, row, p.1.name, a, b, name⟩ := by
  obtain ⟨hcolumn, htable⟩ := Bool.and_eq_true_iff.1 hcovers
  refine ⟨hcolumn, ?_, p, hp, found, index, hq, rfl, rfl, ?_⟩
  · simpa [ToleranceRule.isForAnyTable] using htable
  · rw [hbase]
    rcases hd with rfl | rfl
    · exact .inl rfl
    · exact .inr rfl

/-- A cell has the same entry as before, or a forgivable one that is renamed or left out. -/
theorem AddsFirst.cellDifference? (h : AddsFirst rule r r') (hp : p ∈ participants e expected)
    (hd : Decided r expected actual row p) :
    Forgives (Forgivable rule e expected actual) (cellDifference? r expected actual row p).toList
      (cellDifference? r' expected actual row p).toList := by
  cases hq : counterpart? actual p.1.name with
  | none =>
    have hnone : ∀ r, TableDiff.cellDifference? r expected actual row p = none := fun r => by
      simp [TableDiff.cellDifference?, hq]
    rw [hnone, hnone]
    exact .nil
  | some q =>
    obtain ⟨found, index⟩ := q
    obtain ⟨a, b, verdict, ha, hb, hv⟩ := hd found index hq
    have hforgives := h.agree_forgives expected.name p.1 found a b
    rw [hv] at hforgives
    obtain ⟨verdict', hv', himp⟩ := hforgives.of_ok
    rw [cellDifference?_of_verdict hq ha hb hv, cellDifference?_of_verdict hq ha hb hv']
    rcases h.typeFor_cases expected.name p.1 found with heq | ⟨hcovers, d, hd, hbase, -, -⟩
    · rw [heq, hv] at hv'
      cases hv'
      rw [heq]
      exact .refl _
    · have hallowed := forgivable_of_covers hp hq hcovers hd hbase row a b
      cases verdict with
      | true =>
        rw [himp rfl]
        exact .nil
      | false =>
        cases verdict' with
        | true => exact .drop (hallowed _) .nil
        | false => exact .rename (hallowed _) _ .nil

end Cells

/-! ## Tables -/

/-- The first report without some entries about allowed cells, with the same counts of what was
compared. -/
structure Report.Forgiven (allowed : CellMismatch → Prop) (r r' : Report) : Prop where
  mismatches : Forgives allowed r.mismatches r'.mismatches
  tablesCompared : r'.summary.tablesCompared = r.summary.tablesCompared
  cellsCompared : r'.summary.cellsCompared = r.summary.cellsCompared

/-- Two comparisons fail at the same cell for the same value and cause, or the second report is the
first one without some entries. -/
inductive OutcomeForgives (allowed : CellMismatch → Prop) :
    Except DiffError Report → Except DiffError Report → Prop
  | failed (table : String) (row : Nat) (column : String) {cause cause' : ConversionError}
    (hvalue : cause'.value = cause.value) (hfault : cause'.fault = cause.fault) :
    OutcomeForgives allowed (.error (.conversion table row column cause))
      (.error (.conversion table row column cause'))
  | reported {report report' : Report} (h : report.Forgiven allowed report') :
    OutcomeForgives allowed (.ok report) (.ok report')

theorem OutcomeForgives.mono {allowed allowed' : CellMismatch → Prop}
    {x y : Except DiffError Report} (hallowed : ∀ c, allowed c → allowed' c)
    (h : OutcomeForgives allowed x y) : OutcomeForgives allowed' x y := by
  cases h with
  | failed table row column hvalue hfault => exact .failed table row column hvalue hfault
  | reported h =>
    exact .reported ⟨h.mismatches.mono hallowed, h.tablesCompared, h.cellsCompared⟩

namespace Report.Forgiven

variable {allowed : CellMismatch → Prop} {r r' s s' : Report}

theorem merge (h : r.Forgiven allowed r') (hs : s.Forgiven allowed s') :
    (r.merge s).Forgiven allowed (r'.merge s') := by
  rw [merge_eq, merge_eq]
  constructor
  · exact h.mismatches.append hs.mismatches
  · show r'.summary.tablesCompared + s'.summary.tablesCompared = _
    rw [h.tablesCompared, hs.tablesCompared]
  · show r'.summary.cellsCompared + s'.summary.cellsCompared = _
    rw [h.cellsCompared, hs.cellsCompared]

theorem pushAll (h : r.Forgiven allowed r') (ms : List Mismatch) :
    (r.pushAll ms).Forgiven allowed (r'.pushAll ms) := by
  rw [pushAll_eq, pushAll_eq]
  exact ⟨h.mismatches.append (.refl ms), h.tablesCompared, h.cellsCompared⟩

end Report.Forgiven

namespace Comparer

variable {rule : ToleranceRule} {r r' : Registry}

theorem tableEntries_forgives (h : AddsFirst rule r r') (mode : ComparisonMode) {e : Exclusions}
    {expected actual : Table}
    (hd : ∀ row < min expected.rowCount actual.rowCount, ∀ p ∈ participants e expected,
      Decided r expected actual row p) :
    Forgives (Forgivable rule e expected actual) (tableEntries ⟨r, mode⟩ e expected actual)
      (tableEntries ⟨r', mode⟩ e expected actual) := by
  refine .append (.refl _) (.flatMap fun row hrow => .filterMap fun p hp => ?_)
  exact h.cellDifference? hp (hd row (List.mem_range.1 hrow) p hp)

theorem compareTables_forgives (h : AddsFirst rule r r') (mode : ComparisonMode) (e : Exclusions)
    (expected actual : Table) :
    OutcomeForgives (Forgivable rule e expected actual)
      (compareTables ⟨r, mode⟩ e expected actual)
      (compareTables ⟨r', mode⟩ e expected actual) := by
  cases hc : compareTables ⟨r, mode⟩ e expected actual with
  | error err =>
    obtain ⟨row, hrow, p, hp, cause, hfails, rfl, hfirst⟩ := compareTables_eq_error_of_first.1 hc
    obtain ⟨cause', hfails', hvalue, hfault⟩ := h.failsAt hfails
    -- a cell that fails with the tolerance failed without it, so none fails before this one
    have hc' : compareTables ⟨r', mode⟩ e expected actual =
        .error (.conversion expected.name row p.1.name cause') := by
      refine compareTables_eq_error_of_first.2 ⟨row, hrow, p, hp, cause', hfails', rfl, ?_⟩
      intro row' hrow' p' hp' hless cause hearlier
      obtain ⟨cause, hearlier⟩ := h.of_failsAt hearlier
      exact hfirst row' hrow' p' hp' hless cause hearlier
    rw [hc']
    exact .failed _ _ _ hvalue hfault
  | ok report =>
    obtain ⟨hd, rfl⟩ := compareTables_eq_ok.1 hc
    have hc' := compareTables_eq_ok (c := ⟨r', mode⟩).2
      ⟨fun row hrow p hp => h.decided (hd row hrow p hp), rfl⟩
    rw [hc']
    refine .reported ⟨?_, ?_, ?_⟩
    · rw [Report.mismatches_recordTable, Report.mismatches_recordTable,
        Report.mismatches_pushAll, Report.mismatches_pushAll]
      exact tableEntries_forgives h mode hd
    · rw [Report.tablesCompared_recordTable, Report.tablesCompared_recordTable,
        Report.tablesCompared_pushAll, Report.tablesCompared_pushAll]
    · rw [Report.cellsCompared_recordTable, Report.cellsCompared_recordTable,
        Report.cellsCompared_pushAll, Report.cellsCompared_pushAll]

/-! ## Data sets -/

/-- What is forgiven in one table after another is forgiven in all of them. -/
theorem compareExpected_forgives (h : AddsFirst rule r r') (mode : ComparisonMode) {e : Exclusions}
    {actual : DataSet} {ts : List Table} {allowed : CellMismatch → Prop} (hallowed : ∀ t ∈ ts,
      ∀ found, actual.table? t.name = some found → ∀ c, Forgivable rule e t found c → allowed c)
    {report report' : Report} (hreport : report.Forgiven allowed report') :
    OutcomeForgives allowed (compareExpected ⟨r, mode⟩ e actual report ts)
      (compareExpected ⟨r', mode⟩ e actual report' ts) := by
  induction ts generalizing report report' with
  | nil => exact .reported hreport
  | cons t ts ih =>
    obtain ⟨hfirst, hrest⟩ := List.forall_mem_cons.1 hallowed
    unfold compareExpected
    cases hfound : actual.table? t.name with
    | none => exact ih hrest (hreport.pushAll [.missingTable t.name])
    | some found =>
      have htable := (compareTables_forgives h mode e t found).mono (hfirst found hfound)
      dsimp only
      generalize compareTables ⟨r, mode⟩ e t found = x at htable ⊢
      generalize compareTables ⟨r', mode⟩ e t found = y at htable ⊢
      cases htable with
      | failed table row column hvalue hfault => exact .failed table row column hvalue hfault
      | reported htable => exact ih hrest (hreport.merge htable)

theorem compareDataSets_outcome_forgives (h : AddsFirst rule r r') (mode : ComparisonMode)
    (e : Exclusions) (expected actual : DataSet) :
    OutcomeForgives (ForgivableIn rule e expected actual)
      (compareDataSets ⟨r, mode⟩ e expected actual)
      (compareDataSets ⟨r', mode⟩ e expected actual) := by
  have htables : OutcomeForgives (ForgivableIn rule e expected actual)
      (compareExpected ⟨r, mode⟩ e actual {} expected.tables)
      (compareExpected ⟨r', mode⟩ e actual {} expected.tables) :=
    compareExpected_forgives h mode (fun t ht found hfound c hc => ⟨t, ht, found, hfound, hc⟩)
      ⟨.nil, rfl, rfl⟩
  unfold compareDataSets
  generalize compareExpected ⟨r, mode⟩ e actual {} expected.tables = x at htables ⊢
  generalize compareExpected ⟨r', mode⟩ e actual {} expected.tables = y at htables ⊢
  cases htables with
  | failed table row column hvalue hfault => exact .failed table row column hvalue hfault
  | reported hreport =>
    cases mode with
    | strict => exact .reported (hreport.pushAll _)
    | nonStrict => exact .reported hreport

/-- **A tolerance that is added is local and only forgives.** With the first tolerance for a column
a comparison of data sets fails exactly where it failed before, at the same cell. Where it does not,
as many tables and cells are compared, and the report is the one from before without some of the
cells that the tolerance may forgive, and with another name of the type in others of these. -/
theorem compareDataSets_addTolerance {r r' : Registry} {rule : ToleranceRule}
    (hnew : ∀ other ∈ r.tolerances.rules, sameName other.column rule.column = false)
    (hadd : r.addTolerance rule = .ok r') (mode : ComparisonMode) (e : Exclusions)
    (expected actual : DataSet) :
    ((∃ err, compareDataSets ⟨r', mode⟩ e expected actual = .error err) ↔
      ∃ err, compareDataSets ⟨r, mode⟩ e expected actual = .error err) ∧
    (∀ err err', compareDataSets ⟨r, mode⟩ e expected actual = .error err →
      compareDataSets ⟨r', mode⟩ e expected actual = .error err' →
      ∃ table row column cause cause', err = .conversion table row column cause ∧
        err' = .conversion table row column cause' ∧ cause'.value = cause.value ∧
        cause'.fault = cause.fault) ∧
    ∀ report report', compareDataSets ⟨r, mode⟩ e expected actual = .ok report →
      compareDataSets ⟨r', mode⟩ e expected actual = .ok report' →
      report'.summary.tablesCompared = report.summary.tablesCompared ∧
      report'.summary.cellsCompared = report.summary.cellsCompared ∧
      (report'.mismatches.map Mismatch.untyped).Sublist
        (report.mismatches.map Mismatch.untyped) ∧
      Forgives (ForgivableIn rule e expected actual) report.mismatches report'.mismatches := by
  have hfirst : AddsFirst rule r r' := by
    obtain ⟨tolerances, htolerances, hr'⟩ := bind_eq_ok.1 hadd
    cases pure_eq_ok.1 hr'
    exact ⟨hnew, htolerances⟩
  have houtcome := compareDataSets_outcome_forgives hfirst mode e expected actual
  generalize compareDataSets ⟨r, mode⟩ e expected actual = x at houtcome ⊢
  generalize compareDataSets ⟨r', mode⟩ e expected actual = y at houtcome ⊢
  cases houtcome with
  | failed table row column hvalue hfault =>
    refine ⟨iff_of_true ⟨_, rfl⟩ ⟨_, rfl⟩, fun err err' herr herr' => ?_,
      fun report report' hreport => (nomatch hreport)⟩
    cases herr
    cases herr'
    exact ⟨table, row, column, _, _, rfl, rfl, hvalue, hfault⟩
  | reported h =>
    refine ⟨iff_of_false (fun ⟨_, herr⟩ => (nomatch herr)) fun ⟨_, herr⟩ => (nomatch herr),
      fun err err' herr => (nomatch herr), fun report report' hreport hreport' => ?_⟩
    cases hreport
    cases hreport'
    exact ⟨h.tablesCompared, h.cellsCompared, h.mismatches.sublist, h.mismatches⟩

end Comparer

/-- A tolerated difference of one between the prices of one table. -/
def priceRule : ToleranceRule := { table := "Prices", column := "Price", delta := Decimal.one }

/-- A registry that tolerates differences between weights only. -/
def weightRegistry : Registry where
  tolerances := ⟨[{ table := "*", column := "weight", delta := Decimal.one }]⟩

theorem prices_forgiven :
    ∃ r' report report', weightRegistry.addTolerance priceRule = .ok r' ∧
      Comparer.compareDataSets ⟨weightRegistry, .nonStrict⟩ {} ⟨[pricesWanted]⟩ ⟨[pricesFound]⟩ =
        .ok report ∧
      Comparer.compareDataSets ⟨r', .nonStrict⟩ {} ⟨[pricesWanted]⟩ ⟨[pricesFound]⟩ =
        .ok report' ∧
      report.mismatches = [.missingColumn "prices" "note", .rowCount "prices" 2 3,
        .cell ⟨"prices", 0, "price", .int 5, .int 6, "NUMERIC"⟩,
        .cell ⟨"prices", 1, "price", .int 6, .int 9, "NUMERIC"⟩] ∧
      report'.mismatches = [.missingColumn "prices" "note", .rowCount "prices" 2 3,
        .cell ⟨"prices", 1, "price", .int 6, .int 9, "NUMERIC_WITH_TOLERATED_DELTA"⟩] ∧
      report'.summary.cellsCompared = report.summary.cellsCompared ∧
      Forgives (ForgivableIn priceRule {} ⟨[pricesWanted]⟩ ⟨[pricesFound]⟩) report.mismatches
        report'.mismatches := by
  obtain ⟨r', hadd⟩ : ∃ r', weightRegistry.addTolerance priceRule = .ok r' := ⟨_, by rfl⟩
  have hnew : ∀ other ∈ weightRegistry.tolerances.rules,
      sameName other.column priceRule.column = false := by decide
  obtain ⟨report, h⟩ : ∃ report, Comparer.compareDataSets ⟨weightRegistry, .nonStrict⟩ {}
      ⟨[pricesWanted]⟩ ⟨[pricesFound]⟩ = .ok report := ⟨_, by rfl⟩
  obtain ⟨report', h'⟩ : ∃ report', Comparer.compareDataSets ⟨r', .nonStrict⟩ {}
      ⟨[pricesWanted]⟩ ⟨[pricesFound]⟩ = .ok report' := by
    cases hadd
    exact ⟨_, by rfl⟩
  obtain ⟨-, hcells, -, hforgives⟩ := (Comparer.compareDataSets_addTolerance hnew hadd .nonStrict {}
    ⟨[pricesWanted]⟩ ⟨[pricesFound]⟩).2.2 report report' h h'
  refine ⟨r', report, report', hadd, h, h', ?_, ?_, hcells, hforgives⟩
  · cases h
    decide +kernel
  · cases hadd
    cases h'
    decide +kernel

end TableDiff
