import Mathlib.Data.List.Pairwise
import TableDiff.Proofs.Value.Order
import TableDiff.Table.Sorted

/-!
# Sorting by keys

Sorting a table succeeds where the key columns exist and all of their cells can be normalized
(`sortedByColumns_eq_ok`); the rows of the result are the rows in the order of their keys. From
whatever order rows are sorted, the same keys come in the same places
(`forall₂_mergeSort_of_perm`), and if all keys are different, so do the rows
(`mergeSort_byKey_of_perm`).
-/

open Std

namespace TableDiff.Table

/-! ## Keys -/

/-- The cell of a row in the first column of a name. -/
def keyCell (m : Metadata) (k : Column) (row : List Value) : Value :=
  row.getD ((m.columnIndex? k.name).getD 0) .null

/-- The normalized cell of a row in a key column, null if it cannot be normalized. -/
def keyValue (m : Metadata) (k : Column) (row : List Value) : Value :=
  (k.type.dataType.normalize (keyCell m k row)).toOption.getD .null

/-- The key of a row in the given columns. -/
def rowKey (m : Metadata) (columns : List Column) (row : List Value) : List Value :=
  columns.map fun k => keyValue m k row

/-- All key cells of a row can be normalized. -/
def HasKey (m : Metadata) (columns : List Column) (row : List Value) : Prop :=
  ∀ k ∈ columns, ∃ v, k.type.dataType.normalize (keyCell m k row) = .ok v

/-- Whether a row comes no later than another one in the order of keys. -/
def byKey (m : Metadata) (columns : List Column) (r s : List Value) : Bool :=
  (compareKeys (rowKey m columns r) (rowKey m columns s)).isLE

variable {t s : Table} {m : Metadata} {columns : List Column}

theorem normalize_keyCell {k : Column} {row : List Value} (h : HasKey m columns row)
    (hk : k ∈ columns) :
    k.type.dataType.normalize (keyCell m k row) = .ok (keyValue m k row) := by
  obtain ⟨v, hv⟩ := h k hk
  rw [keyValue, hv]
  rfl

/-! ## The result of sorting -/

/-- The place of a key column in a table. -/
def sortColumn (m : Metadata) (k : Column) : SortColumn :=
  ⟨(m.columnIndex? k.name).getD 0, k.type.dataType⟩

theorem columnIndex_eq_ok {name : String} {i : Nat} :
    t.columnIndex name = .ok i ↔ t.metadata.columnIndex? name = some i := by
  unfold columnIndex
  cases t.metadata.columnIndex? name <;> simp

theorem sortColumns_eq_ok {found : List SortColumn} : t.sortColumns columns = .ok found ↔
    (∀ k ∈ columns, (t.metadata.columnIndex? k.name).isSome = true) ∧
      found = columns.map (sortColumn t.metadata) := by
  refine mapM_eq_ok fun k c => ?_
  simp only [bind_eq_ok, pure_eq_ok, columnIndex_eq_ok]
  constructor
  · rintro ⟨i, hi, rfl⟩
    rw [sortColumn, hi]
    exact ⟨rfl, rfl⟩
  · rintro ⟨hsome, rfl⟩
    obtain ⟨i, hi⟩ := Option.isSome_iff_exists.1 hsome
    exact ⟨i, hi, by rw [sortColumn, hi]; rfl⟩

theorem sortKey_eq_ok {row key : List Value} :
    t.sortKey (columns.map (sortColumn m)) row = .ok key ↔
      HasKey m columns row ∧ key = rowKey m columns row := by
  have hstep : ∀ (c : SortColumn) (v : Value),
      (c.type.normalize (row.getD c.index .null)).mapError
          (DataSetError.unsortable t.name) = .ok v ↔
        (∃ w, c.type.normalize (row.getD c.index .null) = .ok w) ∧
          v = (c.type.normalize (row.getD c.index .null)).toOption.getD .null := by
    intro c v
    rw [mapError_eq_ok]
    cases c.type.normalize (row.getD c.index .null) <;> simp [Except.toOption, eq_comm]
  unfold sortKey
  rw [mapM_eq_ok hstep, List.forall_mem_map, List.map_map]
  rfl

theorem keyedRows_eq_ok {keyed : List (List Value × List Value)} :
    t.keyedRows (columns.map (sortColumn m)) = .ok keyed ↔
      (∀ row ∈ t.rows, HasKey m columns row) ∧
        keyed = t.rows.map fun row => (rowKey m columns row, row) := by
  have hzip : (t.rows.map (rowKey m columns)).zip t.rows =
      t.rows.map fun row => (rowKey m columns row, row) := by
    have h : (t.rows.map (rowKey m columns)).zip (t.rows.map id) =
        t.rows.map fun row => (rowKey m columns row, id row) := List.zip_map'
    rwa [List.map_id] at h
  unfold keyedRows
  simp only [bind_eq_ok, pure_eq_ok, mapM_eq_ok fun row key => sortKey_eq_ok]
  constructor
  · rintro ⟨-, ⟨hrows, rfl⟩, rfl⟩
    exact ⟨hrows, hzip⟩
  · rintro ⟨hrows, rfl⟩
    exact ⟨_, ⟨hrows, rfl⟩, hzip⟩

theorem map_sortRows (rows : List (List Value)) :
    (sortRows (rows.map fun row => (rowKey m columns row, row))).map (·.2) =
      rows.mergeSort (byKey m columns) := by
  have h := List.map_mergeSort (r := byKey m columns)
    (s := fun a b => (compareKeys a.1 b.1).isLE) (f := fun row => (rowKey m columns row, row))
    (l := rows) fun a _ b _ => rfl
  rw [sortRows, ← h, List.map_map]
  exact List.map_id _

/-- **Sorting reorders the rows by their keys**, and succeeds where all rows have one. -/
theorem sortedByColumns_eq_ok : t.sortedByColumns columns = .ok s ↔
    (∀ k ∈ columns, (t.metadata.columnIndex? k.name).isSome = true) ∧
      (∀ row ∈ t.rows, HasKey t.metadata columns row) ∧
      s.metadata = t.metadata ∧ s.rows = t.rows.mergeSort (byKey t.metadata columns) := by
  unfold sortedByColumns
  simp only [bind_eq_ok, sortColumns_eq_ok]
  constructor
  · rintro ⟨-, ⟨hsome, rfl⟩, h⟩
    split at h
    next => cases h
    next keyed hkeyed =>
      obtain ⟨hrows, rfl⟩ := keyedRows_eq_ok.1 hkeyed
      cases h
      exact ⟨hsome, hrows, rfl, map_sortRows t.rows⟩
  · rintro ⟨hsome, hrows, hmeta, hsorted⟩
    refine ⟨_, ⟨hsome, rfl⟩, ?_⟩
    split
    next e he =>
      rw [keyedRows_eq_ok.2 ⟨hrows, rfl⟩] at he
      cases he
    next keyed hkeyed =>
      obtain ⟨-, rfl⟩ := keyedRows_eq_ok.1 hkeyed
      obtain ⟨sm, srows, hwidth⟩ := s
      cases hmeta
      have hrows' : srows = t.rows.mergeSort (byKey t.metadata columns) := hsorted
      subst hrows'
      simp only [map_sortRows]

/-- A table can be sorted exactly where it has the columns and all rows have a key. -/
theorem exists_sortedByColumns_iff : (∃ s, t.sortedByColumns columns = .ok s) ↔
    (∀ k ∈ columns, (t.metadata.columnIndex? k.name).isSome = true) ∧
      ∀ row ∈ t.rows, HasKey t.metadata columns row := by
  constructor
  · rintro ⟨s, hs⟩
    obtain ⟨hfound, hkeys, -⟩ := sortedByColumns_eq_ok.1 hs
    exact ⟨hfound, hkeys⟩
  · rintro ⟨hfound, hkeys⟩
    have hwidth : ∀ row ∈ t.rows.mergeSort (byKey t.metadata columns),
        row.length = t.metadata.columns.length := fun row hrow =>
      t.width_eq row (List.mem_mergeSort.1 hrow)
    exact ⟨⟨t.metadata, _, hwidth⟩, sortedByColumns_eq_ok.2 ⟨hfound, hkeys, rfl, rfl⟩⟩

/-- Rows that are in the order of their keys stay as they are. -/
theorem sortedByColumns_of_pairwise
    (hfound : ∀ k ∈ columns, (t.metadata.columnIndex? k.name).isSome = true)
    (hkeys : ∀ row ∈ t.rows, HasKey t.metadata columns row)
    (h : t.rows.Pairwise fun r s => byKey t.metadata columns r s = true) :
    t.sortedByColumns columns = .ok t :=
  sortedByColumns_eq_ok.2 ⟨hfound, hkeys, rfl, (List.mergeSort_of_pairwise h).symm⟩

/-! ## The order of keys -/

/-- Keys of the same length are in lexicographic order. -/
theorem compareKeys_eq_compareLex {xs ys : List Value} (h : xs.length = ys.length) :
    compareKeys xs ys = xs.compareLex Value.compare ys := by
  induction xs generalizing ys with
  | nil =>
    rw [List.length_eq_zero_iff.1 h.symm]
    rfl
  | cons x xs ih =>
    cases ys with
    | nil => cases h
    | cons y ys =>
      rw [compareKeys, List.compareLex_cons_cons, ih (Nat.succ.inj h)]

theorem compareKeys_rowKey (m m' : Metadata) (columns : List Column) (r s : List Value) :
    compareKeys (rowKey m columns r) (rowKey m' columns s) =
      (rowKey m columns r).compareLex Value.compare (rowKey m' columns s) :=
  compareKeys_eq_compareLex (by simp [rowKey])

theorem byKey_eq (r s : List Value) : byKey m columns r s =
    ((rowKey m columns r).compareLex Value.compare (rowKey m columns s)).isLE := by
  rw [byKey, compareKeys_rowKey]

theorem byKey_trans (a b c : List Value) (hab : byKey m columns a b = true)
    (hbc : byKey m columns b c = true) : byKey m columns a c = true := by
  rw [byKey_eq] at *
  exact TransCmp.isLE_trans hab hbc

theorem byKey_total (a b : List Value) : (byKey m columns a b || byKey m columns b a) = true := by
  have hswap : (rowKey m columns b).compareLex Value.compare (rowKey m columns a) =
      ((rowKey m columns a).compareLex Value.compare (rowKey m columns b)).swap :=
    OrientedCmp.eq_swap
  rw [byKey_eq, byKey_eq, hswap]
  cases (rowKey m columns a).compareLex Value.compare (rowKey m columns b) <;> rfl

/-- Rows that come neither before each other have equal keys. -/
theorem compareKeys_of_byKey {a b : List Value} (hab : byKey m columns a b = true)
    (hba : byKey m columns b a = true) :
    compareKeys (rowKey m columns a) (rowKey m columns b) = .eq := by
  rw [byKey_eq] at hab hba
  rw [compareKeys_rowKey]
  exact OrientedCmp.isLE_antisymm hab hba

theorem compareKeys_eq_symm {m' : Metadata} {r s : List Value}
    (h : compareKeys (rowKey m columns r) (rowKey m' columns s) = .eq) :
    compareKeys (rowKey m' columns s) (rowKey m columns r) = .eq := by
  rw [compareKeys_rowKey] at *
  exact OrientedCmp.eq_symm h

/-- Keys are equal where all of their values are. -/
theorem compareKeys_eq_iff {m' : Metadata} {r s : List Value} :
    compareKeys (rowKey m columns r) (rowKey m' columns s) = .eq ↔
      ∀ k ∈ columns, (keyValue m k r).compare (keyValue m' k s) = .eq := by
  unfold rowKey
  induction columns with
  | nil => simp [compareKeys]
  | cons k columns ih =>
    rw [List.map_cons, List.map_cons, compareKeys, Ordering.then_eq_eq, ih, List.forall_mem_cons]

/-- Rows of two tables with equal keys are in the same order. -/
theorem byKey_congr {m' : Metadata} {a b a' b' : List Value}
    (ha : compareKeys (rowKey m columns a) (rowKey m' columns a') = .eq)
    (hb : compareKeys (rowKey m columns b) (rowKey m' columns b') = .eq) :
    byKey m columns a b = byKey m' columns a' b' := by
  rw [compareKeys_rowKey] at ha hb
  rw [byKey_eq, byKey_eq, TransCmp.congr_left ha, TransCmp.congr_right hb]

/-- Rows with equal keys, as one and the same. -/
def sameKey (m : Metadata) (columns : List Column) : Setoid (List Value) where
  r a b := compareKeys (rowKey m columns a) (rowKey m columns b) = .eq
  iseqv := by
    simp only [compareKeys_rowKey]
    exact ⟨fun _ => ReflCmp.compare_self, OrientedCmp.eq_symm, TransCmp.eq_trans⟩

/-- One row that stands for all rows of its key. -/
noncomputable def representative (m : Metadata) (columns : List Column) (row : List Value) :
    List Value :=
  (Quotient.mk (sameKey m columns) row).out

theorem compareKeys_representative (row : List Value) :
    compareKeys (rowKey m columns (representative m columns row)) (rowKey m columns row) = .eq :=
  Quotient.mk_out (s := sameKey m columns) row

theorem representative_eq_iff {a b : List Value} :
    representative m columns a = representative m columns b ↔
      compareKeys (rowKey m columns a) (rowKey m columns b) = .eq := by
  constructor
  · intro h
    have ha := (sameKey m columns).symm (compareKeys_representative a)
    rw [h] at ha
    exact (sameKey m columns).trans ha (compareKeys_representative b)
  · intro h
    exact congrArg Quotient.out (Quotient.sound (s := sameKey m columns) h)

theorem byKey_representative (a b : List Value) :
    byKey m columns (representative m columns a) (representative m columns b) =
      byKey m columns a b :=
  byKey_congr (compareKeys_representative a) (compareKeys_representative b)

/-- **Rows sorted from any order have the same keys in the same places.** -/
theorem forall₂_mergeSort_of_perm {xs ys : List (List Value)} (h : xs.Perm ys) :
    List.Forall₂ (fun a b => compareKeys (rowKey m columns a) (rowKey m columns b) = .eq)
      (xs.mergeSort (byKey m columns)) (ys.mergeSort (byKey m columns)) := by
  have hsorted : ∀ zs : List (List Value),
      ((zs.mergeSort (byKey m columns)).map (representative m columns)).Pairwise
        fun a b => byKey m columns a b = true := by
    intro zs
    simp only [List.pairwise_map, byKey_representative]
    exact List.pairwise_mergeSort byKey_trans byKey_total zs
  have hperm : ((xs.mergeSort (byKey m columns)).map (representative m columns)).Perm
      ((ys.mergeSort (byKey m columns)).map (representative m columns)) :=
    ((List.mergeSort_perm xs _).trans (h.trans (List.mergeSort_perm ys _).symm)).map _
  have heq : (xs.mergeSort (byKey m columns)).map (representative m columns) =
      (ys.mergeSort (byKey m columns)).map (representative m columns) := by
    refine List.Perm.eq_of_pairwise (fun a b ha hb hab hba => ?_) (hsorted xs) (hsorted ys) hperm
    obtain ⟨a, -, rfl⟩ := List.mem_map.1 ha
    obtain ⟨b, -, rfl⟩ := List.mem_map.1 hb
    rw [byKey_representative] at hab hba
    exact representative_eq_iff.2 (compareKeys_of_byKey hab hba)
  rw [← List.forall₂_eq_eq_eq, List.forall₂_map_left_iff, List.forall₂_map_right_iff] at heq
  exact heq.imp fun a b hab => representative_eq_iff.1 hab

/-- **Rows with different keys are sorted alike from any order.** -/
theorem mergeSort_byKey_of_perm {xs ys : List (List Value)} (h : xs.Perm ys)
    (hd : xs.Pairwise fun a b => compareKeys (rowKey m columns a) (rowKey m columns b) ≠ .eq) :
    xs.mergeSort (byKey m columns) = ys.mergeSort (byKey m columns) := by
  have hsymm : Std.Symm fun a b : List Value =>
      compareKeys (rowKey m columns a) (rowKey m columns b) ≠ .eq :=
    ⟨fun a b hab hba => hab (compareKeys_eq_symm hba)⟩
  obtain ⟨hlength, hpairs⟩ := List.forall₂_iff_zip.1 (forall₂_mergeSort_of_perm h)
  rw [← List.forall₂_eq_eq_eq]
  refine List.forall₂_iff_zip.2 ⟨hlength, fun {a b} hp => ?_⟩
  obtain ⟨ha, hb⟩ := List.of_mem_zip hp
  have hax : a ∈ xs := List.mem_mergeSort.1 ha
  have hbx : b ∈ xs := h.mem_iff.2 (List.mem_mergeSort.1 hb)
  by_contra hne
  exact hd.forall hax hbx hne (hpairs hp)

/-! ## Two tables with equal keys -/

/-- Rows of one table that are paired off with rows of another have different keys if those do. -/
theorem pairwise_keys_of_forall₂ {m' : Metadata} {xs ys : List (List Value)}
    (h : List.Forall₂
      (fun r s => compareKeys (rowKey m columns r) (rowKey m' columns s) = .eq) xs ys)
    (hd : ys.Pairwise fun a b => compareKeys (rowKey m' columns a) (rowKey m' columns b) ≠ .eq) :
    xs.Pairwise fun a b => compareKeys (rowKey m columns a) (rowKey m columns b) ≠ .eq := by
  obtain ⟨hlength, hpairs⟩ := List.forall₂_iff_zip.1 h
  have hfst : (xs.zip ys).map Prod.fst = xs := List.map_fst_zip hlength.le
  have hsnd : (xs.zip ys).map Prod.snd = ys := List.map_snd_zip hlength.ge
  rw [← hsnd, List.pairwise_map] at hd
  rw [← hfst, List.pairwise_map]
  refine hd.imp_of_mem fun {p q} hp hq hne heq => hne ?_
  have hleft := hpairs hp
  have hright := hpairs hq
  rw [compareKeys_rowKey] at *
  exact TransCmp.eq_trans (OrientedCmp.eq_symm hleft) (TransCmp.eq_trans heq hright)

/-- Rows that are paired off with rows of equal keys stay paired when both are sorted. -/
theorem forall₂_mergeSort_byKey {m' : Metadata} {P : List Value → List Value → Prop}
    {xs ys : List (List Value)} (h : List.Forall₂ (fun r s => P r s ∧
      compareKeys (rowKey m columns r) (rowKey m' columns s) = .eq) xs ys) :
    List.Forall₂ P (xs.mergeSort (byKey m columns)) (ys.mergeSort (byKey m' columns)) := by
  obtain ⟨hlength, hpairs⟩ := List.forall₂_iff_zip.1 h
  -- the pairs in the order of the second rows' keys, which is that of the first rows' keys
  let sorted := (xs.zip ys).mergeSort fun p q => byKey m' columns p.2 q.2
  have hfst : sorted.map Prod.fst = xs.mergeSort (byKey m columns) := by
    rw [List.map_mergeSort (s := byKey m columns) fun p hp q hq =>
      (byKey_congr (hpairs hp).2 (hpairs hq).2).symm, List.map_fst_zip hlength.le]
  have hsnd : sorted.map Prod.snd = ys.mergeSort (byKey m' columns) := by
    rw [List.map_mergeSort (s := byKey m' columns) fun p _ q _ => rfl,
      List.map_snd_zip hlength.ge]
  rw [← hfst, ← hsnd, List.forall₂_map_left_iff, List.forall₂_map_right_iff, List.forall₂_same]
  exact fun p hp => (hpairs (List.mem_mergeSort.1 hp)).1

end TableDiff.Table
