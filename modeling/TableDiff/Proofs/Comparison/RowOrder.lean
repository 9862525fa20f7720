import TableDiff.Proofs.Comparison.CanonicalKeys
import TableDiff.Proofs.Comparison.OwnColumns

/-!
# Sorting forgets the order of rows

A table without a primary key is sorted by all of its columns. Tables with the same rows in any two
orders then have the same keys in the same places, and rows of equal keys agree where the cells of
exactly numeric columns are read faithfully; so the sorted tables are not told apart
(`passes_sorted_reordered`). This is the exact condition (`sortCanonicalizes_iff`): a value whose
limited reading is another number has the key of that number, from which it differs, and the order
of the two rows stays what it was.
-/

namespace TableDiff

open TableDiff.Numeric TableDiff.Table TableDiff.Text

/-! ## Tables without a primary key -/

/-- What is needed of a table to be sorted by all of its columns: no primary key, columns of plain
types and different names, and no floating point number that is no number. -/
structure SortsByAll (t : Table) : Prop where
  keyless : t.metadata.hasPrimaryKey = false
  distinct : DistinctColumns t
  plain : ∀ k ∈ t.columns, ∃ d, k.type = .plain d
  numbers : ∀ row ∈ t.rows, ∀ v ∈ row, v.isNaN = false

section Sorting

variable {t t' s s' : Table} {c : Comparer}

/-- Columns of a table are found in it. -/
theorem isSome_columnIndex? {k : Column} (hk : k ∈ t.columns) :
    (t.metadata.columnIndex? k.name).isSome = true := by
  rw [columnIndex?_eq, Option.isSome_map]
  exact isSome_counterpart?_self hk

theorem SortsByAll.keyCell_eq (ht : SortsByAll t) {p : Column × Nat}
    (hp : p ∈ t.columns.zipIdx) (row : List Value) :
    keyCell t.metadata p.1 row = row.getD p.2 .null := by
  rw [keyCell, columnIndex?_eq, counterpart?_self ht.distinct hp]
  rfl

theorem SortsByAll.isNaN_keyCell (ht : SortsByAll t) {p : Column × Nat}
    (hp : p ∈ t.columns.zipIdx) {row : List Value} (hrow : row ∈ t.rows) :
    (keyCell t.metadata p.1 row).isNaN = false := by
  rw [ht.keyCell_eq hp, List.getD_eq_getElem?_getD]
  cases hv : row[p.2]? with
  | none => rfl
  | some v => exact ht.numbers row hrow v (List.mem_of_getElem? hv)

/-- A table is sorted by all of its columns where all rows have a key. -/
theorem SortsByAll.exists_sorted (ht : SortsByAll t) :
    (∃ s, t.sorted = .ok s) ↔ ∀ row ∈ t.rows, HasKey t.metadata t.columns row := by
  unfold sorted
  rw [if_neg (by rw [ht.keyless]; decide), exists_sortedByColumns_iff]
  exact and_iff_right fun k hk => isSome_columnIndex? hk

theorem SortsByAll.sorted_eq_ok (ht : SortsByAll t) (hs : t.sorted = .ok s) :
    (∀ row ∈ t.rows, HasKey t.metadata t.columns row) ∧ s.metadata = t.metadata ∧
      s.rows = t.rows.mergeSort (byKey t.metadata t.columns) := by
  unfold sorted at hs
  rw [if_neg (by rw [ht.keyless]; decide)] at hs
  exact (sortedByColumns_eq_ok.1 hs).2

theorem SortsByAll.reordered (ht : SortsByAll t) (h : Reordered t t') : SortsByAll t' := by
  have hcolumns : t'.columns = t.columns := congrArg Metadata.columns h.metadata_eq
  refine ⟨?_, ?_, ?_, fun row hrow => ht.numbers row (h.rows_perm.mem_iff.1 hrow)⟩
  · rw [h.metadata_eq]
    exact ht.keyless
  · rw [DistinctColumns, hcolumns]
    exact ht.distinct
  · rw [hcolumns]
    exact ht.plain

/-- Rows in another order can be sorted just as well. -/
theorem SortsByAll.exists_sorted_iff (ht : SortsByAll t) (h : Reordered t t') :
    (∃ s, t.sorted = .ok s) ↔ ∃ s', t'.sorted = .ok s' := by
  have hcolumns : t'.columns = t.columns := congrArg Metadata.columns h.metadata_eq
  rw [ht.exists_sorted, (ht.reordered h).exists_sorted, h.metadata_eq, hcolumns]
  exact forall_congr' fun row => imp_congr_left h.rows_perm.mem_iff.symm

/-! ## Rows of equal keys -/

/-- Cells of equal keys agree under the type by which a column is compared with itself. -/
theorem agree_of_equal_keys {r : Registry} {table : String} {k : Column} {d : DataType}
    {u v x y : Value} (hr : r.tolerances.Registered) (hk : k.type = .plain d)
    (hu : d.family = .exactNumeric → u.ReadsFaithfully)
    (hv : d.family = .exactNumeric → v.ReadsFaithfully) (hn : u.isNaN = false)
    (hx : d.normalize u = .ok x) (hy : d.normalize v = .ok y) (h : x.compare y = .eq) :
    (typeFor r table k k).agree u v = .ok true := by
  have hslack : 0 ≤ k.type.slack := by
    rw [hk]
    exact le_rfl
  by_cases hd : d.family = .exactNumeric
  · have hnumbers : (typeFor r table k k).ComparesNumbers := by
      rcases typeFor_self r table k with hown | ⟨-, base, delta, htolerant, -⟩
      · rw [hown, hk]
        exact hd
      · rw [htolerant]
        trivial
    exact LogicalType.agree_of_sameNumber hnumbers (slack_typeFor_self_nonneg hr hslack)
      (DataType.sameNumber_of_compare_eq hd (hu hd) (hv hd) hx hy h)
  · rcases typeFor_self r table k with hown | ⟨hnumbers, -⟩
    · rw [hown, hk]
      exact DataType.agree_of_compare_eq hd (fun _ => hn) hx hy h
    · rw [hk] at hnumbers
      exact absurd hnumbers hd

/-- Rows of equal keys agree if their exactly numeric cells are read faithfully. -/
theorem SortsByAll.rowsAgree (ht : SortsByAll t) (hr : c.registry.tolerances.Registered)
    (hcells : KeyCells Value.ReadsFaithfully t.columns t)
    (hkeys : ∀ row ∈ t.rows, HasKey t.metadata t.columns row) {a b : List Value}
    (ha : a ∈ t.rows) (hb : b ∈ t.rows)
    (h : compareKeys (rowKey t.metadata t.columns a) (rowKey t.metadata t.columns b) = .eq) :
    RowsAgree c.registry t t a b := by
  rintro ⟨k, i⟩ hp found index hq
  have hmem : (k, i) ∈ t.columns.zipIdx := (List.mem_filter.1 hp).1
  have hk : k ∈ t.columns := List.fst_mem_of_mem_zipIdx hmem
  rw [counterpart?_self ht.distinct hmem] at hq
  cases hq
  obtain ⟨d, hd⟩ := ht.plain k hk
  have hx := normalize_keyCell (hkeys a ha) hk
  have hy := normalize_keyCell (hkeys b hb) hk
  have hfaithful := hcells k hk
  rw [hd] at hx hy hfaithful
  rw [← ht.keyCell_eq hmem, ← ht.keyCell_eq hmem]
  exact agree_of_equal_keys hr hd (fun hf => hfaithful hf a ha) (fun hf => hfaithful hf b hb)
    (ht.isNaN_keyCell hmem ha) hx hy (compareKeys_eq_iff.1 h k hk)

/-- **Sorting forgets the order of rows**, if exactly numeric cells are read faithfully. -/
theorem passes_sorted_reordered (hr : c.registry.tolerances.Registered) (ht : SortsByAll t)
    (hcells : KeyCells Value.ReadsFaithfully t.columns t) (h : Reordered t t')
    (hs : t.sorted = .ok s) (hs' : t'.sorted = .ok s') : c.Passes s s' := by
  have hcolumns : t'.columns = t.columns := congrArg Metadata.columns h.metadata_eq
  obtain ⟨hkeys, hmeta, hrows⟩ := ht.sorted_eq_ok hs
  obtain ⟨-, hmeta', hrows'⟩ := (ht.reordered h).sorted_eq_ok hs'
  rw [h.metadata_eq] at hmeta' hrows'
  rw [hcolumns] at hrows'
  have hsame : s'.metadata = s.metadata := hmeta'.trans hmeta.symm
  refine Comparer.passes_iff_of_mode.2 ⟨fun _ => ?_, fun p hp => ?_, ?_⟩
  · exact unexpectedEntries_of_columns (congrArg Metadata.columns hsame)
  · rw [counterpart?_of_metadata hsame]
    exact isSome_counterpart?_self (List.fst_mem_of_mem_zipIdx (List.mem_filter.1 hp).1)
  · rw [rowsAgree_congr hmeta hmeta', hrows, hrows']
    have htied : List.Forall₂ (fun a b =>
        compareKeys (rowKey t.metadata t.columns a) (rowKey t.metadata t.columns b) = .eq) _ _ :=
      forall₂_mergeSort_of_perm h.rows_perm.symm
    obtain ⟨hlength, hpairs⟩ := List.forall₂_iff_zip.1 htied
    refine List.forall₂_iff_zip.2 ⟨hlength, fun {a b} hp => ?_⟩
    obtain ⟨ha, hb⟩ := List.of_mem_zip hp
    exact ht.rowsAgree hr hcells hkeys (List.mem_mergeSort.1 ha)
      (h.rows_perm.mem_iff.1 (List.mem_mergeSort.1 hb)) (hpairs hp)

end Sorting

/-! ## Which cells sorting takes -/

/-- Tables that differ in the order of rows are sorted into tables that are not told apart, if the
values in exactly numeric columns are of some sort. -/
def SortCanonicalizes (admits : Value → Prop) : Prop :=
  ∀ (c : Comparer) (t t' : Table), c.registry.tolerances.Registered → SortsByAll t →
    KeyCells admits t.columns t → Reordered t t' →
    ((∃ s, t.sorted = .ok s) ↔ ∃ s', t'.sorted = .ok s') ∧
      ∀ s s', t.sorted = .ok s → t'.sorted = .ok s' → c.Passes s s'

/-- A table of two rows with a number in its only column, which is no key. -/
def numberTable (x y : Value) : Table where
  metadata := { name := "t", columns := [keyColumn] }
  rows := [[x], [y]]
  width_eq := by simp

theorem sortsByAll_numberTable {x y : Value} (hx : x.isNaN = false) (hy : y.isNaN = false) :
    SortsByAll (numberTable x y) where
  keyless := rfl
  distinct := List.pairwise_singleton _ _
  plain := by
    show ∀ k ∈ [keyColumn], _
    rw [List.forall_mem_singleton]
    exact ⟨.numeric, rfl⟩
  numbers := by
    show ∀ row ∈ [[x], [y]], _
    simp [hx, hy]

theorem keyCells_numberTable {admits : Value → Prop} {x y : Value} (hx : admits x)
    (hy : admits y) : KeyCells admits (numberTable x y).columns (numberTable x y) :=
  keyCells_keyTable hx hy

theorem reordered_numberTable (x y : Value) : Reordered (numberTable x y) (numberTable y x) :=
  ⟨rfl, List.Perm.swap _ _ _⟩

/-- Two rows whose keys are in order stay as they are. -/
theorem sorted_numberTable {x y v w : Value} (hx : DataType.numeric.normalize x = .ok v)
    (hy : DataType.numeric.normalize y = .ok w) (h : (v.compare w).isLE = true) :
    (numberTable x y).sorted = .ok (numberTable x y) := by
  -- the primary key has no part in sorting by given columns
  obtain ⟨hfound, hkeys, -, hrows⟩ := sortedByColumns_eq_ok.1 (sortedByColumns_keyTable hx hy h)
  exact sortedByColumns_eq_ok.2 ⟨hfound, hkeys, rfl, hrows⟩

theorem agree_of_passes_numberTable {e₁ e₂ a₁ a₂ : Value}
    (h : plainComparer.Passes (numberTable e₁ e₂) (numberTable a₁ a₂)) :
    LogicalType.agree (.plain .numeric) e₁ a₁ = .ok true := by
  have hrows : List.Forall₂
      (RowsAgree plainComparer.registry (keyTable e₁ e₂) (keyTable a₁ a₂)) [[e₁], [e₂]]
      [[a₁], [a₂]] := ((Comparer.passes_iff rfl).1 h).2
  exact rowsAgree_keyTable.1 (List.forall₂_cons.1 hrows).1

theorem Value.isNaN_of_toDecimal {v : Value} {d : Decimal} (h : v.toDecimal = .ok d) :
    v.isNaN = false := by
  by_cases hv : v.kind = .float
  · obtain ⟨x, rfl⟩ := eq_float_of_kind hv
    show x.isNaN = false
    cases hx : x.isFinite with
    | true =>
      simp only [Binary64.isFinite, Binary64.isNaN, decide_eq_true_eq,
        decide_eq_false_iff_not] at hx ⊢
      omega
    | false =>
      have hnone : Decimal.ofBinary64? x = none := by simp [Decimal.ofBinary64?, hx]
      simp [toDecimal, hnone] at h
  · exact isNaN_eq_false_of_kind hv

/-- A value that agrees with the decimal that is read from it was read faithfully. -/
theorem number?_of_agree {v : Value} {d : Decimal} (hd : v.toDecimal = .ok d)
    (h : LogicalType.agree (.plain .numeric) v (.decimal d) = .ok true) :
    v.number? = some d.toRat := by
  have hnull : v.isNull = false := by
    cases v <;> first | rfl | cases hd
  obtain ⟨⟨n, hn⟩, -⟩ := LogicalType.exists_numbers_of_agree (t := .plain .numeric) rfl hnull rfl h
  rw [DataType.agree_iff_of_numbers rfl hn (m := .ofDecimal d) rfl] at h
  rw [Value.number?, hn, Option.map_some, h]
  rfl

/-- **Which cells sorting takes**: those that are read faithfully, and none besides. -/
theorem sortCanonicalizes_iff (admits : Value → Prop) :
    SortCanonicalizes (fun v => v.ReadsFaithfully ∨ admits v) ↔
      ∀ v, admits v → v.ReadsFaithfully := by
  constructor
  · intro h v hv d hd
    have hnull : v.isNull = false := by
      cases v <;> first | rfl | cases hd
    have hform : DataType.numeric.normalize v = .ok (.decimal d) :=
      DataType.normalize_of_comparable rfl hnull
        (Value.comparableNumber_eq_ok.2 (.inl ⟨d, hd, rfl⟩))
    have hdecimal : DataType.numeric.normalize (.decimal d) = .ok (.decimal d) := rfl
    have hle : ((Value.decimal d).compare (.decimal d)).isLE = true := by
      rw [(Value.compare_decimal d d).2 rfl]
      rfl
    have hpass := (h plainComparer (numberTable v (.decimal d)) (numberTable (.decimal d) v) .empty
      (sortsByAll_numberTable (Value.isNaN_of_toDecimal hd) rfl)
      (keyCells_numberTable (.inr hv) (.inl (Value.readsFaithfully_decimal d)))
      (reordered_numberTable _ _)).2 _ _ (sorted_numberTable hform hdecimal hle)
      (sorted_numberTable hdecimal hform hle)
    exact number?_of_agree hd (agree_of_passes_numberTable hpass)
  · intro h c t t' hr ht hcells hreordered
    refine ⟨ht.exists_sorted_iff hreordered, fun s s' hs hs' => ?_⟩
    have hfaithful : KeyCells Value.ReadsFaithfully t.columns t := fun k hk hf row hrow =>
      (hcells k hk hf row hrow).elim id (h _)
    exact passes_sorted_reordered hr ht hfaithful hreordered hs hs'

/-- Three tenths as a decimal. -/
def threeTenths : Value := .decimal { negative := false, mantissa := 3, scale := 1 }

/-- A floating point number that is cut to three tenths cannot be admitted. -/
theorem aboveThreeTenths_keeps_order :
    ¬ SortCanonicalizes fun v => v.ReadsFaithfully ∨ v = LogicalType.aboveThreeTenths := by
  intro h
  have hread := (sortCanonicalizes_iff (· = LogicalType.aboveThreeTenths)).1 h
    LogicalType.aboveThreeTenths rfl { negative := false, mantissa := 3, scale := 1 }
    (by decide +kernel)
  have hexact : LogicalType.aboveThreeTenths.toExact? = some ⟨30000000000000004, 17⟩ := by
    decide +kernel
  rw [Value.number?, hexact] at hread
  norm_num [Decimal.toRat, ExactDecimal.toRat, ExactDecimal.ofDecimal, Decimal.unscaled] at hread

/-- The tables with this number and three tenths in either order are sorted already, and differ. -/
theorem aboveThreeTenths_not_canonicalized :
    SortsByAll (numberTable LogicalType.aboveThreeTenths threeTenths) ∧
      Reordered (numberTable LogicalType.aboveThreeTenths threeTenths)
        (numberTable threeTenths LogicalType.aboveThreeTenths) ∧
      (numberTable LogicalType.aboveThreeTenths threeTenths).sorted =
        .ok (numberTable LogicalType.aboveThreeTenths threeTenths) ∧
      (numberTable threeTenths LogicalType.aboveThreeTenths).sorted =
        .ok (numberTable threeTenths LogicalType.aboveThreeTenths) ∧
      ¬ plainComparer.Passes (numberTable LogicalType.aboveThreeTenths threeTenths)
        (numberTable threeTenths LogicalType.aboveThreeTenths) := by
  have hfloat : DataType.numeric.normalize LogicalType.aboveThreeTenths = .ok threeTenths := by
    decide +kernel
  have hdecimal : DataType.numeric.normalize threeTenths = .ok threeTenths := rfl
  have hle : (threeTenths.compare threeTenths).isLE = true := rfl
  refine ⟨sortsByAll_numberTable (by decide) rfl, reordered_numberTable _ _,
    sorted_numberTable hfloat hdecimal hle, sorted_numberTable hdecimal hfloat hle, fun h => ?_⟩
  exact absurd (agree_of_passes_numberTable h) (by decide +kernel)

end TableDiff
