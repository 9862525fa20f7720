import TableDiff.Proofs.Conversion.TypeOrder
import TableDiff.Proofs.Table.Concatenation

/-!
# Sorting is stable

A table can be sorted by columns exactly where it has all of them and their cells can be converted,
and the sorted table takes each row of the table once, in a stable order
(`sortedByColumns_stable`): a row comes before another one if its key does, or if their keys are
equal and it came before in the table. The key of a row (`Table.IsKey`) is said with the cells that
the table gives for the names of the columns.
-/

open Std

namespace TableDiff.Table

variable {t s : Table} {columns : List Column}

/-- The values are the key of a row: its cells under the names of the columns, normalized by the
types of the columns. -/
def IsKey (t : Table) (columns : List Column) (row : Nat) (key : List Value) : Prop :=
  List.Forall₂ (fun k x =>
    ∃ v, t.valueByName row k.name = .ok v ∧ k.type.dataType.normalize v = .ok x) columns key

/-- One row comes before another one in a stable sort: by its key, or, if the keys are equal, by its
place in the table. -/
def Precedes (t : Table) (columns : List Column) (row row' : Nat) : Prop :=
  ∃ x y, t.IsKey columns row x ∧ t.IsKey columns row' y ∧
    (x.compareLex Value.compare y = .lt ∨ (x.compareLex Value.compare y = .eq ∧ row < row'))

/-! ## Keys -/

theorem valueByName_keyCell {k : Column} {r : Nat} {row : List Value}
    (hk : (t.metadata.columnIndex? k.name).isSome = true) (hrow : t.rows[r]? = some row) :
    t.valueByName r k.name = .ok (keyCell t.metadata k row) :=
  valueByName_eq_ok.2 ⟨row, hrow, cell?_eq (List.mem_of_getElem? hrow) (hasColumn_iff.2 hk)⟩

theorem isKey_rowKey (hfound : ∀ k ∈ columns, (t.metadata.columnIndex? k.name).isSome = true)
    {r : Nat} {row : List Value} (hrow : t.rows[r]? = some row)
    (hkey : HasKey t.metadata columns row) : t.IsKey columns r (rowKey t.metadata columns row) := by
  rw [IsKey, rowKey, List.forall₂_map_right_iff, List.forall₂_same]
  exact fun k hk => ⟨_, valueByName_keyCell (hfound k hk) hrow, normalize_keyCell hkey hk⟩

/-- All rows have a key exactly where the cells of the key columns can be converted. -/
theorem forall_hasKey_iff (hfound : ∀ k ∈ columns, (t.metadata.columnIndex? k.name).isSome = true) :
    (∀ row ∈ t.rows, HasKey t.metadata columns row) ↔ ∀ k ∈ columns, ∀ r < t.rowCount,
      ∃ v x, t.valueByName r k.name = .ok v ∧ k.type.dataType.convert v = .ok x := by
  constructor
  · intro h k hk r hr
    have hrow : t.rows[r]? = some t.rows[r] := List.getElem?_eq_getElem hr
    obtain ⟨x, hx⟩ :=
      DataType.exists_normalize_iff.1 (h _ (List.mem_of_getElem? hrow) k hk)
    exact ⟨_, x, valueByName_keyCell (hfound k hk) hrow, hx⟩
  · intro h row hmem k hk
    obtain ⟨r, hr, rfl⟩ := List.getElem_of_mem hmem
    have hrow : t.rows[r]? = some t.rows[r] := List.getElem?_eq_getElem hr
    obtain ⟨v, x, hv, hx⟩ := h k hk r hr
    cases (valueByName_keyCell (hfound k hk) hrow).symm.trans hv
    exact DataType.exists_normalize_iff.2 ⟨x, hx⟩

/-! ## The places from which rows are taken -/

/-- The rows in the order of their keys, each with its place in the table. -/
def placedRows (t : Table) (columns : List Column) : List (List Value × Nat) :=
  t.rows.zipIdx.mergeSort (List.zipIdxLE (byKey t.metadata columns))

theorem map_fst_placedRows (t : Table) (columns : List Column) :
    (t.placedRows columns).map Prod.fst = t.rows.mergeSort (byKey t.metadata columns) :=
  List.mergeSort_zipIdx

theorem getElem?_of_mem_placedRows {p : List Value × Nat} (hp : p ∈ t.placedRows columns) :
    t.rows[p.2]? = some p.1 :=
  List.mem_zipIdx_iff_getElem?.1 (List.mem_mergeSort.1 hp)

/-- Each place is taken once. -/
theorem map_snd_placedRows_perm (t : Table) (columns : List Column) :
    ((t.placedRows columns).map Prod.snd).Perm (List.range t.rowCount) := by
  rw [List.range_eq_range', rowCount, ← List.zipIdx_map_snd 0 t.rows]
  exact (List.mergeSort_perm _ _).map _

theorem pairwise_snd_placedRows (t : Table) (columns : List Column) :
    (t.placedRows columns).Pairwise fun p q => p.2 ≠ q.2 :=
  List.pairwise_map.1 ((map_snd_placedRows_perm t columns).nodup_iff.2 List.nodup_range)

/-- Rows at different places are in the stable order if they are in the order of their keys and
places. -/
theorem precedes_of_zipIdxLE
    (hfound : ∀ k ∈ columns, (t.metadata.columnIndex? k.name).isSome = true)
    {p q : List Value × Nat} (hp : t.rows[p.2]? = some p.1) (hq : t.rows[q.2]? = some q.1)
    (hkeys : ∀ row ∈ t.rows, HasKey t.metadata columns row) (hne : p.2 ≠ q.2)
    (h : List.zipIdxLE (byKey t.metadata columns) p q = true) : t.Precedes columns p.2 q.2 := by
  refine ⟨_, _, isKey_rowKey hfound hp (hkeys _ (List.mem_of_getElem? hp)),
    isKey_rowKey hfound hq (hkeys _ (List.mem_of_getElem? hq)), ?_⟩
  have hswap : (rowKey t.metadata columns q.1).compareLex Value.compare
      (rowKey t.metadata columns p.1) = ((rowKey t.metadata columns p.1).compareLex Value.compare
        (rowKey t.metadata columns q.1)).swap := OrientedCmp.eq_swap
  rw [List.zipIdxLE, byKey_eq, byKey_eq, hswap] at h
  cases ho : (rowKey t.metadata columns p.1).compareLex Value.compare
      (rowKey t.metadata columns q.1) with
  | lt => exact .inl rfl
  | eq =>
    rw [ho] at h
    exact .inr ⟨rfl, Nat.lt_of_le_of_ne (of_decide_eq_true h) hne⟩
  | gt =>
    rw [ho] at h
    cases h

theorem pairwise_precedes_placedRows
    (hfound : ∀ k ∈ columns, (t.metadata.columnIndex? k.name).isSome = true)
    (hkeys : ∀ row ∈ t.rows, HasKey t.metadata columns row) :
    ((t.placedRows columns).map Prod.snd).Pairwise (t.Precedes columns) := by
  have hsorted : (t.placedRows columns).Pairwise fun p q =>
      List.zipIdxLE (byKey t.metadata columns) p q = true :=
    List.pairwise_mergeSort (List.zipIdxLE_trans byKey_trans) (List.zipIdxLE_total byKey_total) _
  rw [List.pairwise_map]
  refine (hsorted.and (pairwise_snd_placedRows t columns)).imp_of_mem fun hp hq h => ?_
  exact precedes_of_zipIdxLE hfound (getElem?_of_mem_placedRows hp) (getElem?_of_mem_placedRows hq)
    hkeys h.2 h.1

/-- A table of the same name that has the same cells in a row answers alike about this row. -/
theorem value_eq_of_row {i r c : Nat} {row : List Value} (hname : s.name = t.name)
    (hs : s.rows[i]? = some row) (ht : t.rows[r]? = some row) : s.value i c = t.value r c := by
  unfold value
  rw [hs, ht, hname]

/-- **A table is sorted stably**: where the columns exist and their cells can be converted, each row
is taken once and whole, by ascending keys, and rows of equal keys in their old order. -/
theorem sortedByColumns_stable (t : Table) (columns : List Column) :
    ((∃ s, t.sortedByColumns columns = .ok s) ↔
      (∀ k ∈ columns, ∃ i, t.columnIndex k.name = .ok i) ∧
        ∀ k ∈ columns, ∀ row < t.rowCount,
          ∃ v x, t.valueByName row k.name = .ok v ∧ k.type.dataType.convert v = .ok x) ∧
    ∀ s, t.sortedByColumns columns = .ok s →
      s.metadata = t.metadata ∧ s.rowCount = t.rowCount ∧
        ∃ places : List Nat, places.Perm (List.range t.rowCount) ∧
          (∀ i row, places[i]? = some row → ∀ c, s.value i c = t.value row c) ∧
          places.Pairwise (t.Precedes columns) := by
  constructor
  · simp only [columnIndex_eq_ok, ← Option.isSome_iff_exists]
    rw [exists_sortedByColumns_iff]
    exact and_congr_right fun hfound => forall_hasKey_iff hfound
  · intro s hs
    obtain ⟨hfound, hkeys, hmeta, hrows⟩ := sortedByColumns_eq_ok.1 hs
    have hcount : s.rowCount = t.rowCount := by
      rw [rowCount, hrows, List.length_mergeSort, rowCount]
    refine ⟨hmeta, hcount, (t.placedRows columns).map Prod.snd, map_snd_placedRows_perm t columns,
      fun i row hrow c => ?_, pairwise_precedes_placedRows hfound hkeys⟩
    rw [List.getElem?_map] at hrow
    obtain ⟨p, hp, rfl⟩ := Option.map_eq_some_iff.1 hrow
    have hplace : s.rows[i]? = some p.1 := by
      rw [hrows, ← map_fst_placedRows, List.getElem?_map, hp, Option.map_some]
    exact value_eq_of_row (congrArg Metadata.name hmeta) hplace
      (getElem?_of_mem_placedRows (List.mem_of_getElem? hp))

end TableDiff.Table
