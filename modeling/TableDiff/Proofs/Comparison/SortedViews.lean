import TableDiff.Proofs.Comparison.Passing
import TableDiff.Proofs.Conversion.Key
import TableDiff.Proofs.Table.Sorting

/-!
# Comparing tables that are sorted by key

Where a table's primary key tells its rows apart, and the rows of an expected table agree with them
in some order, sorting both tables by the key brings agreeing rows together (`passes_sorted`). For
this equal keys have to be keys of rows that agree (`compareKeys_iff_keysAgree`), so the numbers in
exactly numeric key columns have to be canonical.
-/

namespace TableDiff

open TableDiff.Numeric TableDiff.Table TableDiff.Text

/-! ## Key columns and their counterparts -/

theorem hasName_congr {a b : String} (h : sameName a b = true) (c : Column) :
    c.hasName a = c.hasName b :=
  sameName_congr h c.name

theorem counterpart?_congr {a b : String} (h : sameName a b = true) (t : Table) :
    counterpart? t a = counterpart? t b := by
  unfold counterpart?
  congr 1
  funext p
  exact hasName_congr h p.1

theorem delta?_congr {a b : String} (h : sameName a b = true) (t : ToleranceTable)
    (table : String) : t.delta? table a = t.delta? table b := by
  have hrule : ∀ r : ToleranceRule, r.isForColumn a = r.isForColumn b := fun r =>
    sameName_congr h r.column
  simp only [ToleranceTable.delta?, ToleranceTable.find?, hrule]

theorem findColumn?_eq (t : Table) (name : String) :
    t.metadata.findColumn? name = (counterpart? t name).map (·.1) :=
  find?_eq_counterpart? t name

theorem columnIndex?_eq (t : Table) (name : String) :
    t.metadata.columnIndex? name = (counterpart? t name).map (·.2) :=
  findIdx?_eq_counterpart? t name

theorem mem_participants {t : Table} {name : String} {q : Column} {j : Nat}
    (h : counterpart? t name = some (q, j)) : (q, j) ∈ participants {} t :=
  List.mem_filter.2 ⟨(counterpart?_eq_some h).1, by simp [Exclusions.excludes]⟩

theorem typeFor_eq {r : Registry} {table : String} {expected actual : Column} {d : DataType}
    (hd : actual.type = .plain d) (hu : d ≠ .unknown)
    (hr : r.tolerances.delta? table expected.name = none) :
    typeFor r table expected actual = actual.type := by
  have hknown : ¬ actual.type.dataType = .unknown := by
    rw [hd]
    exact hu
  unfold typeFor
  rw [if_neg hknown, hr]
  split
  next h => cases h
  next h => cases h
  next => rfl

/-- The key columns of a table are found under their own names. -/
theorem counterpart?_of_mem_key {t : Table} {k : Column} (h : k ∈ t.metadata.primaryKeyColumns) :
    ∃ i, counterpart? t k.name = some (k, i) := by
  obtain ⟨name, -, hk⟩ := List.mem_filterMap.1 h
  rw [findColumn?_eq] at hk
  obtain ⟨⟨k', i⟩, hq, rfl⟩ := Option.map_eq_some_iff.1 hk
  refine ⟨i, ?_⟩
  rw [counterpart?_congr (counterpart?_eq_some hq).2, hq]

/-! ## Agreement under the key -/

/-- The cells of two rows agree under all given columns, each by its type. -/
def KeysAgree (columns : List Column) (m m' : Metadata) (r s : List Value) : Prop :=
  ∀ k ∈ columns, k.type.agree (keyCell m k r) (keyCell m' k s) = .ok true

/-- The primary key of an actual table tells its rows apart: its columns exist, have known types
without a tolerance, and no two rows agree under all of them. -/
structure TellsApart (c : Comparer) (expected actual : Table) : Prop where
  hasKey : actual.metadata.hasPrimaryKey = true
  found : ∀ name ∈ actual.metadata.primaryKey, (actual.metadata.findColumn? name).isSome = true
  typed : ∀ k ∈ actual.metadata.primaryKeyColumns, ∃ d, k.type = .plain d ∧ d ≠ .unknown
  untolerated : ∀ k ∈ actual.metadata.primaryKeyColumns,
    c.registry.tolerances.delta? expected.name k.name = none
  distinct : actual.rows.Pairwise fun r s =>
    ¬ KeysAgree actual.metadata.primaryKeyColumns actual.metadata actual.metadata r s

/-- All cells of exactly numeric key columns are of some sort. -/
def KeyCells (admits : Value → Prop) (columns : List Column) (t : Table) : Prop :=
  ∀ k ∈ columns, k.type.dataType.family = .exactNumeric →
    ∀ row ∈ t.rows, admits (keyCell t.metadata k row)

section Correlation

variable {c : Comparer} {expected actual : Table} {e a : List Value}

/-- Rows that agree do so under the key. -/
theorem RowsAgree.keysAgree (ht : TellsApart c expected actual)
    (hfound : ∀ k ∈ actual.metadata.primaryKeyColumns,
      (expected.metadata.columnIndex? k.name).isSome = true)
    (h : RowsAgree c.registry expected actual e a) :
    KeysAgree actual.metadata.primaryKeyColumns expected.metadata actual.metadata e a := by
  intro k hk
  obtain ⟨i, hi⟩ := counterpart?_of_mem_key hk
  obtain ⟨d, hd, hu⟩ := ht.typed k hk
  have hj := hfound k hk
  rw [columnIndex?_eq, Option.isSome_map] at hj
  obtain ⟨⟨q, j⟩, hq⟩ := Option.isSome_iff_exists.1 hj
  have hname : sameName q.name k.name = true := (counterpart?_eq_some hq).2
  have hagree := h (q, j) (mem_participants hq) k i ((counterpart?_congr hname actual).trans hi)
  have htolerance : c.registry.tolerances.delta? expected.name q.name = none :=
    (delta?_congr hname _ _).trans (ht.untolerated k hk)
  rw [typeFor_eq hd hu htolerance] at hagree
  rw [keyCell, keyCell, columnIndex?_eq, columnIndex?_eq, hq, hi]
  exact hagree

/-- Keys are equal exactly where rows agree under the key. -/
theorem compareKeys_iff_keysAgree {columns : List Column} {m m' : Metadata} {r s : List Value}
    (htyped : ∀ k ∈ columns, ∃ d, k.type = .plain d ∧ d ≠ .unknown)
    (hr : HasKey m columns r) (hs : HasKey m' columns s)
    (hcr : ∀ k ∈ columns, k.type.dataType.family = .exactNumeric → (keyCell m k r).Canonical)
    (hcs : ∀ k ∈ columns, k.type.dataType.family = .exactNumeric → (keyCell m' k s).Canonical) :
    compareKeys (rowKey m columns r) (rowKey m' columns s) = .eq ↔ KeysAgree columns m m' r s := by
  rw [compareKeys_eq_iff]
  refine forall₂_congr fun k hk => ?_
  obtain ⟨d, hd, hu⟩ := htyped k hk
  have hx := normalize_keyCell hr hk
  have hy := normalize_keyCell hs hk
  have hcu := hcr k hk
  have hcv := hcs k hk
  rw [hd] at hx hy hcu hcv ⊢
  exact DataType.compare_eq_iff_agree hu hcu hcv hx hy

/-- Values that agree under an exactly numeric type have numbers, unless they are null. -/
theorem canonical_of_agree {d : DataType} {u v : Value} (hd : d.family = .exactNumeric)
    (hu : ∀ n, u.toExact? = some n → u.Canonical) (hv : ∀ n, v.toExact? = some n → v.Canonical)
    (h : LogicalType.agree (.plain d) u v = .ok true) : u.Canonical ∧ v.Canonical := by
  cases hun : u.isNull with
  | true =>
    rw [LogicalType.isNull_eq_true hun, LogicalType.agree_null_left, Except.ok.injEq] at h
    rw [LogicalType.isNull_eq_true hun, LogicalType.isNull_eq_true h]
    exact ⟨Value.canonical_null, Value.canonical_null⟩
  | false =>
    cases hvn : v.isNull with
    | true =>
      rw [LogicalType.isNull_eq_true hvn, LogicalType.agree_null_right, hun] at h
      cases h
    | false =>
      have hnumeric : (LogicalType.plain d).ComparesNumbers := hd
      obtain ⟨⟨n, hn⟩, m, hm⟩ := LogicalType.exists_numbers_of_agree hnumeric hun hvn h
      exact ⟨hu n hn, hv m hm⟩

end Correlation

/-! ## Sorting both tables -/

theorem participants_congr {s t : Table} (h : s.metadata = t.metadata) :
    participants {} s = participants {} t := by
  unfold participants Table.columns Table.name
  rw [h]

theorem counterpart?_of_metadata {s t : Table} (h : s.metadata = t.metadata) (name : String) :
    counterpart? s name = counterpart? t name := by
  unfold counterpart? Table.columns
  rw [h]

/-- Which rows agree is decided by the metadata of their tables. -/
theorem rowsAgree_congr {r : Registry} {e e' a a' : Table} (he : e'.metadata = e.metadata)
    (ha : a'.metadata = a.metadata) : RowsAgree r e' a' = RowsAgree r e a := by
  have hname : e'.name = e.name := congrArg Metadata.name he
  unfold RowsAgree
  simp only [participants_congr he, counterpart?_of_metadata ha, hname]

theorem Comparer.passes_of_forall₂ {c : Comparer} {e e' a a' : Table} (hmode : c.mode = .nonStrict)
    (he : e'.metadata = e.metadata) (ha : a'.metadata = a.metadata) (h : c.Passes e a)
    (hrows : List.Forall₂ (RowsAgree c.registry e a) e'.rows a'.rows) : c.Passes e' a' := by
  obtain ⟨hsome, -⟩ := (Comparer.passes_iff hmode).1 h
  refine (Comparer.passes_iff hmode).2 ⟨fun p hp => ?_, ?_⟩
  · rw [participants_congr he] at hp
    rw [counterpart?_of_metadata ha]
    exact hsome p hp
  · rw [rowsAgree_congr he ha]
    exact hrows

section Sorting

variable {c : Comparer} {expected actual : Table}

/-- Paired rows that agree have canonical cells if all their cells with numbers are canonical. -/
theorem keyCells_canonical (ht : TellsApart c expected actual)
    (hfound : ∀ k ∈ actual.metadata.primaryKeyColumns,
      (expected.metadata.columnIndex? k.name).isSome = true)
    (hrows : List.Forall₂ (RowsAgree c.registry expected actual) expected.rows actual.rows)
    (he : KeyCells (fun v => ∀ n, v.toExact? = some n → v.Canonical)
      actual.metadata.primaryKeyColumns expected)
    (ha : KeyCells (fun v => ∀ n, v.toExact? = some n → v.Canonical)
      actual.metadata.primaryKeyColumns actual) :
    KeyCells Value.Canonical actual.metadata.primaryKeyColumns expected ∧
      KeyCells Value.Canonical actual.metadata.primaryKeyColumns actual := by
  obtain ⟨hlength, hpairs⟩ := List.forall₂_iff_zip.1 hrows
  have hcells : ∀ k ∈ actual.metadata.primaryKeyColumns, k.type.dataType.family = .exactNumeric →
      ∀ p ∈ expected.rows.zip actual.rows, (keyCell expected.metadata k p.1).Canonical ∧
        (keyCell actual.metadata k p.2).Canonical := by
    intro k hk hf p hp
    obtain ⟨hpe, hpa⟩ := List.of_mem_zip hp
    obtain ⟨d, hd, -⟩ := ht.typed k hk
    have hagree := (hpairs hp).keysAgree ht hfound k hk
    have hed := he k hk hf p.1 hpe
    have had := ha k hk hf p.2 hpa
    rw [hd] at hf hagree
    exact canonical_of_agree hf hed had hagree
  refine ⟨fun k hk hf row hrow => ?_, fun k hk hf row hrow => ?_⟩
  · rw [← List.map_fst_zip hlength.le] at hrow
    obtain ⟨p, hp, rfl⟩ := List.mem_map.1 hrow
    exact (hcells k hk hf p hp).1
  · rw [← List.map_snd_zip hlength.ge] at hrow
    obtain ⟨p, hp, rfl⟩ := List.mem_map.1 hrow
    exact (hcells k hk hf p hp).2

/-- Paired rows that agree have equal keys. -/
theorem forall₂_keys (ht : TellsApart c expected actual)
    (hfound : ∀ k ∈ actual.metadata.primaryKeyColumns,
      (expected.metadata.columnIndex? k.name).isSome = true)
    (hekeys : ∀ row ∈ expected.rows,
      HasKey expected.metadata actual.metadata.primaryKeyColumns row)
    (hakeys : ∀ row ∈ actual.rows, HasKey actual.metadata actual.metadata.primaryKeyColumns row)
    (he : KeyCells Value.Canonical actual.metadata.primaryKeyColumns expected)
    (ha : KeyCells Value.Canonical actual.metadata.primaryKeyColumns actual)
    (hrows : List.Forall₂ (RowsAgree c.registry expected actual) expected.rows actual.rows) :
    List.Forall₂ (fun r s => RowsAgree c.registry expected actual r s ∧
      compareKeys (rowKey expected.metadata actual.metadata.primaryKeyColumns r)
        (rowKey actual.metadata actual.metadata.primaryKeyColumns s) = .eq)
      expected.rows actual.rows := by
  obtain ⟨hlength, hpairs⟩ := List.forall₂_iff_zip.1 hrows
  refine List.forall₂_iff_zip.2 ⟨hlength, fun {r s} hp => ⟨hpairs hp, ?_⟩⟩
  obtain ⟨hr, hs⟩ := List.of_mem_zip hp
  exact (compareKeys_iff_keysAgree ht.typed (hekeys r hr) (hakeys s hs)
    (fun k hk hf => he k hk hf r hr) fun k hk hf => ha k hk hf s hs).2
    ((hpairs hp).keysAgree ht hfound)

/-- The rows of an actual table have different keys. -/
theorem TellsApart.pairwise_keys (ht : TellsApart c expected actual)
    (hakeys : ∀ row ∈ actual.rows, HasKey actual.metadata actual.metadata.primaryKeyColumns row)
    (ha : KeyCells Value.Canonical actual.metadata.primaryKeyColumns actual) :
    actual.rows.Pairwise fun r s =>
      compareKeys (rowKey actual.metadata actual.metadata.primaryKeyColumns r)
        (rowKey actual.metadata actual.metadata.primaryKeyColumns s) ≠ .eq := by
  refine ht.distinct.imp_of_mem fun {r s} hr hs hne heq => hne ?_
  exact (compareKeys_iff_keysAgree ht.typed (hakeys r hr) (hakeys s hs)
    (fun k hk hf => ha k hk hf r hr) fun k hk hf => ha k hk hf s hs).1 heq

/-- An expected table with its rows in another order. -/
structure Reordered (t s : Table) : Prop where
  metadata_eq : s.metadata = t.metadata
  rows_perm : s.rows.Perm t.rows

theorem TellsApart.reordered {shuffled : Table} (ht : TellsApart c expected actual)
    (h : Reordered expected shuffled) : TellsApart c shuffled actual where
  hasKey := ht.hasKey
  found := ht.found
  typed := ht.typed
  untolerated := fun k hk => by
    rw [show shuffled.name = expected.name from congrArg Metadata.name h.metadata_eq]
    exact ht.untolerated k hk
  distinct := ht.distinct

theorem KeyCells.reordered {admits : Value → Prop} {columns : List Column} {t s : Table}
    (ht : KeyCells admits columns t) (h : Reordered t s) : KeyCells admits columns s := by
  intro k hk hf row hrow
  rw [h.metadata_eq]
  exact ht k hk hf row (h.rows_perm.mem_iff.1 hrow)

/-- **Tables that agree in some order of their rows agree when they are sorted by key.** -/
theorem passes_sorted {shuffled sortedExpected sortedActual : Table} (hmode : c.mode = .nonStrict)
    (ht : TellsApart c expected actual) (hshuffled : Reordered expected shuffled)
    (hpass : c.Passes shuffled actual)
    (he : KeyCells (fun v => ∀ n, v.toExact? = some n → v.Canonical)
      actual.metadata.primaryKeyColumns expected)
    (ha : KeyCells (fun v => ∀ n, v.toExact? = some n → v.Canonical)
      actual.metadata.primaryKeyColumns actual)
    (hes : expected.sortedByColumns actual.metadata.primaryKeyColumns = .ok sortedExpected)
    (has : actual.sorted = .ok sortedActual) : c.Passes sortedExpected sortedActual := by
  unfold sorted at has
  rw [if_pos ht.hasKey] at has
  obtain ⟨hfound, hekeys, hemeta, herows⟩ := sortedByColumns_eq_ok.1 hes
  obtain ⟨-, hakeys, hameta, harows⟩ := sortedByColumns_eq_ok.1 has
  have ht' := ht.reordered hshuffled
  have hrows := ((Comparer.passes_iff hmode).1 hpass).2
  have hskeys : ∀ row ∈ shuffled.rows,
      HasKey shuffled.metadata actual.metadata.primaryKeyColumns row := by
    rw [hshuffled.metadata_eq]
    exact fun row hrow => hekeys row (hshuffled.rows_perm.mem_iff.1 hrow)
  rw [← hshuffled.metadata_eq] at hfound
  obtain ⟨hsc, hac⟩ := keyCells_canonical ht' hfound hrows (he.reordered hshuffled) ha
  have hkeys := forall₂_keys ht' hfound hskeys hakeys hsc hac hrows
  have hdistinct := pairwise_keys_of_forall₂ (hkeys.imp fun _ _ h => h.2)
    (ht'.pairwise_keys hakeys hac)
  refine Comparer.passes_of_forall₂ hmode (hemeta.trans hshuffled.metadata_eq.symm) hameta hpass ?_
  rw [herows, harows, ← hshuffled.metadata_eq,
    ← mergeSort_byKey_of_perm hshuffled.rows_perm hdistinct]
  exact forall₂_mergeSort_byKey hkeys

end Sorting

end TableDiff
