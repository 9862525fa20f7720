import TableDiff.Proofs.Comparison.DataSets
import TableDiff.Proofs.Comparison.Failing
import TableDiff.Proofs.Comparison.OwnColumns
import TableDiff.Proofs.DataSet.Lookup
import TableDiff.Proofs.Value.Equality

/-!
# A data set against itself

A value agrees with itself under every type that can convert it, with one exception: the unknown
type asks for equal values, and a floating point number that is no number is equal to none
(`agree_unknown_self`, `agree_self`). So the comparison of a data set with itself ends with a value
that cannot be converted or reports exactly these numbers in columns without a type, and passes
where there are none (`compareDataSets_self`).
-/

namespace TableDiff

open TableDiff.Numeric TableDiff.Text

namespace LogicalType

variable {t : LogicalType}

theorem agree_unknown_self (v : Value) : unknown.agree v v = .ok (!v.isNaN) := by
  cases hv : v.isNull with
  | true =>
    rw [isNull_eq_true hv]
    rfl
  | false =>
    unfold agree
    rw [hv]
    show Except.ok (v.same v) = _
    rw [Value.same_self]

/-- Under every other type a value agrees with itself if the type takes it. -/
theorem agree_self (ht : t ≠ .unknown) (hs : 0 ≤ t.slack) (v : Value) :
    (∃ cause, t.agree v v = .error cause) ∨ t.agree v v = .ok true := by
  cases hv : v.isNull with
  | true =>
    rw [isNull_eq_true hv]
    exact .inr rfl
  | false =>
    by_cases hc : t.ComparesNumbers
    · cases hn : v.toExact? with
      | none => exact .inl ⟨_, agree_of_no_number hc hv hv hn⟩
      | some n =>
        rw [agree_of_numbers hc hn hn, sub_self, abs_zero, decide_eq_true hs]
        exact .inr rfl
    · cases t with
      | tolerant base delta => exact absurd trivial hc
      | plain d =>
        have hd : d ≠ .unknown := fun h => ht (congrArg plain h)
        rw [agree_plain hd hv hv, DataType.compare_of_not_exactNumeric hc hd]
        cases d.normalize v with
        | error cause => exact .inl ⟨cause, rfl⟩
        | ok x =>
          have hx : x.compare x = .eq := Std.ReflCmp.compare_self
          refine .inr ?_
          show Except.ok (x.compare x == .eq) = _
          rw [hx]
          rfl

end LogicalType

variable {t : Table} {e : Exclusions} {r : Registry}

/-! ## Tables against themselves -/

/-- The entries about floating point numbers that are no numbers in columns without a type. -/
def nanEntries (e : Exclusions) (t : Table) : List Mismatch :=
  (List.range t.rowCount).flatMap fun row => (participants e t).filterMap fun p =>
    if p.1.type = .unknown ∧ (t.cellAt row p.2).isNaN = true then
      some (.cell ⟨t.name, row, p.1.name, t.cellAt row p.2, t.cellAt row p.2, "UNKNOWN"⟩)
    else none

/-- No column without a type that takes part holds a floating point number that is no number. -/
def NaNFree (e : Exclusions) (t : Table) : Prop :=
  ∀ row < t.rowCount, ∀ p ∈ participants e t, p.1.type = .unknown →
    (t.cellAt row p.2).isNaN = false

theorem nanEntries_eq_nil_iff : nanEntries e t = [] ↔ NaNFree e t := by
  simp only [nanEntries, NaNFree, List.flatMap_eq_nil_iff, List.filterMap_eq_nil_iff,
    List.mem_range, ite_eq_right_iff, reduceCtorEq, imp_false, not_and, Bool.not_eq_true]

/-- What is needed of a table to be compared with itself. -/
structure Comparable (t : Table) : Prop where
  distinct : DistinctColumns t
  slack_nonneg : ∀ k ∈ t.columns, 0 ≤ k.type.slack

namespace Comparable

variable {c : Comparer}

/-- A cell that its type takes differs from itself only where it is no number and has no type. -/
theorem cellDifference?_self (ht : Comparable t) (hr : r.tolerances.Registered) {row : Nat}
    (hrow : row < t.rowCount) {p : Column × Nat} (hp : p ∈ participants e t)
    (hd : Decided r t t row p) : cellDifference? r t t row p =
      if p.1.type = .unknown ∧ (t.cellAt row p.2).isNaN = true then
        some (.cell ⟨t.name, row, p.1.name, t.cellAt row p.2, t.cellAt row p.2, "UNKNOWN"⟩)
      else none := by
  have hmem : p ∈ t.columns.zipIdx := (List.mem_filter.1 hp).1
  have hq := counterpart?_self ht.distinct hmem
  have hcell := Table.value_eq_cellAt hrow (lt_of_mem_participants hp)
  obtain ⟨a, b, verdict, ha, hb, hv⟩ := hd p.1 p.2 hq
  rw [hcell] at ha hb
  cases ha
  cases hb
  rw [cellDifference?_of_verdict hq hcell hcell hv]
  by_cases hk : p.1.type = .unknown
  · rw [typeFor_self_of_unknown hk] at hv ⊢
    rw [LogicalType.agree_unknown_self] at hv
    cases hv
    cases (t.cellAt row p.2).isNaN with
    | false => simp
    | true =>
      have hcond : p.1.type = .unknown ∧ true = true := ⟨hk, rfl⟩
      rw [if_pos hcond]
      rfl
  · have hslack : 0 ≤ (typeFor r t.name p.1 p.1).slack :=
      slack_typeFor_self_nonneg hr (ht.slack_nonneg p.1 (List.fst_mem_of_mem_zipIdx hmem))
    rcases LogicalType.agree_self (typeFor_self_ne_unknown hk) hslack (t.cellAt row p.2) with
      ⟨cause, herror⟩ | hok
    · rw [herror] at hv
      cases hv
    · rw [hok] at hv
      cases hv
      simp [hk]

/-- A table that can be compared with itself differs from itself in such cells only. -/
theorem tableEntries_self (ht : Comparable t) (hr : c.registry.tolerances.Registered)
    (hd : ∀ row < t.rowCount, ∀ p ∈ participants e t, Decided c.registry t t row p) :
    tableEntries c e t t = nanEntries e t := by
  unfold tableEntries cellEntries nanEntries
  rw [missingEntries_self ht.distinct, unexpectedEntries_of_columns rfl, ite_self, if_pos rfl,
    Nat.min_self]
  refine List.flatMap_congr fun row hrow => List.filterMap_congr fun p hp => ?_
  have hlt := List.mem_range.1 hrow
  exact ht.cellDifference?_self hr hlt hp (hd row hlt p hp)

theorem compareTables_self (ht : Comparable t) (hr : c.registry.tolerances.Registered)
    {report : Report} (h : c.compareTables e t t = .ok report) :
    report.mismatches = nanEntries e t := by
  obtain ⟨hd, rfl⟩ := Comparer.compareTables_eq_ok.1 h
  rw [Nat.min_self] at hd
  rw [Report.mismatches_recordTable, Report.mismatches_pushAll, ht.tableEntries_self hr hd]
  rfl

end Comparable

/-! ## Data sets against themselves -/

theorem unlistedTables_self (d : DataSet) : unlistedTables d d = [] := by
  unfold unlistedTables
  rw [List.map_eq_nil_iff, List.filter_eq_nil_iff]
  intro t ht hall
  have hself : t.metadata.hasName t.name = true := sameName_refl t.metadata.name
  have hnone := List.all_eq_true.1 hall t ht
  rw [hself] at hnone
  cases hnone

theorem flatMap_eq_of_forall₂ {α β γ : Type} {R : α → β → Prop} {f : α → List γ} {g : β → List γ}
    {xs : List α} {ys : List β} (h : List.Forall₂ R xs ys)
    (hfg : ∀ x ∈ xs, ∀ y, R x y → g y = f x) : ys.flatMap g = xs.flatMap f := by
  induction h with
  | nil => rfl
  | cons hxy _ ih =>
    rw [List.flatMap_cons, List.flatMap_cons, hfg _ List.mem_cons_self _ hxy,
      ih fun x hx => hfg x (List.mem_cons_of_mem _ hx)]

namespace Comparer

/-- **A data set against itself**: unless a value cannot be converted, the report holds exactly the
floating point numbers that are no numbers in columns without a type. -/
theorem compareDataSets_self {c : Comparer} {e : Exclusions} {d : DataSet} (hd : d.Built)
    (hr : c.registry.tolerances.Registered) (ht : ∀ t ∈ d.tables, Comparable t) :
    (∃ table row column cause,
      c.compareDataSets e d d = .error (.conversion table row column cause)) ∨
    ∃ report, c.compareDataSets e d d = .ok report ∧
      report.mismatches = d.tables.flatMap (nanEntries e) ∧
      (report.passed = true ↔ ∀ t ∈ d.tables, NaNFree e t) := by
  have hpart : ∀ t ∈ d.tables, part c e d t = c.compareTables e t t := by
    intro t hmem
    rw [part, DataSet.table?_of_mem hd.distinct hmem]
  cases h : c.compareDataSets e d d with
  | error err =>
    obtain ⟨before, t, after, found, -, -, hfails, -⟩ := compareDataSets_eq_error.1 h
    obtain ⟨-, p, -, cause, -, -, rfl, -⟩ := compareTables_eq_error.1 hfails
    exact .inl ⟨_, _, _, _, rfl⟩
  | ok report =>
    obtain ⟨parts, hparts, rfl⟩ := compareDataSets_eq_ok.1 h
    have hentries : (dataSetReport c d d parts).mismatches = d.tables.flatMap (nanEntries e) := by
      show dataSetEntries c d d parts = _
      unfold dataSetEntries
      rw [unlistedTables_self, ite_self, List.append_nil]
      refine flatMap_eq_of_forall₂ hparts fun t hmem report hreport => ?_
      rw [hpart t hmem] at hreport
      exact (ht t hmem).compareTables_self hr hreport
    refine .inr ⟨_, rfl, hentries, ?_⟩
    rw [Report.passed, hentries, List.isEmpty_iff, List.flatMap_eq_nil_iff]
    simp only [nanEntries_eq_nil_iff]

end Comparer

/-! ### A probe with a note -/

/-- One measurement with a note that has no type. The measured value is no number. -/
def probe (note : Value) : Table where
  metadata :=
    { name := "probe"
      columns := [.untyped "note", ⟨"value", .plain .double, .unknown⟩,
        ⟨"price", .plain .numeric, .no⟩] }
  rows := [[note, .float (.nan false), .text "1e40"]]
  width_eq := by simp

/-- The measurement as a data set. -/
def probes (note : Value) : DataSet := ⟨[probe note]⟩

/-- A tolerated difference of one between prices. -/
def priceTolerance : ToleranceRule := { table := "*", column := "price", delta := Decimal.one }

/-- A strict comparison with this tolerance. -/
def probeComparer : Comparer where
  registry := { tolerances := ⟨[priceTolerance]⟩ }
  mode := .strict

theorem built_probes (note : Value) : (probes note).Built := by
  have h : DataSet.ofTables [probe note] = .ok (probes note) := rfl
  exact .ofTables h

theorem registered_probeComparer : probeComparer.registry.tolerances.Registered := by
  have hadd : ToleranceTable.add {} priceTolerance = .ok probeComparer.registry.tolerances := rfl
  exact .add .empty hadd

theorem comparable_probe (note : Value) : ∀ t ∈ (probes note).tables, Comparable t := by
  intro t ht
  rw [List.mem_singleton.1 ht]
  constructor
  · show ([.untyped "note", ⟨"value", .plain .double, .unknown⟩,
      ⟨"price", .plain .numeric, .no⟩] : List Column).Pairwise _
    decide
  · show ∀ k ∈ [_, _, _], _
    simp [LogicalType.slack, Column.untyped, LogicalType.unknown]

/-- A note that is text agrees with itself, as do a measured value that is no number and a price
that is too large for a decimal. -/
theorem textNote_agrees_with_itself :
    ∃ report, probeComparer.compareDataSets {} (probes (.text "calm")) (probes (.text "calm")) =
      .ok report ∧ report.passed = true := by
  obtain ⟨report, h⟩ : ∃ report, probeComparer.compareDataSets {} (probes (.text "calm"))
      (probes (.text "calm")) = .ok report := ⟨_, by rfl⟩
  rcases Comparer.compareDataSets_self (e := {}) (built_probes (.text "calm"))
    registered_probeComparer (comparable_probe _) with
    ⟨_, _, _, _, herror⟩ | ⟨report', hok, -, hpassed⟩
  · rw [h] at herror
    cases herror
  · refine ⟨report', hok, hpassed.2 fun t ht => ?_⟩
    rw [List.mem_singleton.1 ht]
    exact nanEntries_eq_nil_iff.1 (by decide)

/-- A note that is no number differs from itself. -/
theorem nanNote_differs_from_itself :
    (probes (.float (.nan false))).Built ∧
      probeComparer.registry.tolerances.Registered ∧
      (∀ t ∈ (probes (.float (.nan false))).tables, Comparable t) ∧
      ∃ report, probeComparer.compareDataSets {} (probes (.float (.nan false)))
        (probes (.float (.nan false))) = .ok report ∧ report.passed = false :=
  ⟨built_probes _, registered_probeComparer, comparable_probe _, _, rfl, rfl⟩

end TableDiff
