import Mathlib.Data.Set.List
import TableDiff.Proofs.Table.EndToEnd
import TableDiff.Proofs.Table.StableSort

/-!
# Nested views

Views of tables can be laid end to end and sorted in any nesting. However they are nested, they
answer as one table whose rows were copied (`Built.exists_table`), as each way to make a view of
tables does (`concat_ofTable`, `sortedByColumns_ofTable`). So all of them are rectangular: there is
a value for every row and column, and else an error about the row or, if there is such a row, about
the column (`Built.reads_within_bounds`). Views laid end to end answer for a row as the one on which
it falls (`concat_answers_by_parts`).
-/

namespace TableDiff

/-! ## Offered rows -/

namespace Table

/-- A table that was built row by row. -/
inductive Grown : Table → Prop
  | empty (m : Metadata) : Grown (empty m)
  | ofRows {m : Metadata} {rows : List (List Value)} {t : Table} (h : ofRows m rows = .ok t) :
      Grown t
  | offer {t : Table} (h : Grown t) (row : List Value) : Grown (t.offer row)

variable {t s : Table} {columns : List Column}

theorem addRow_eq_error_iff {row : List Value} {e : DataSetError} : t.addRow row = .error e ↔
    row.length ≠ t.columns.length ∧ e = .rowWidth t.name t.columns.length row.length := by
  unfold addRow
  split
  next h => simp [columns, h]
  next h =>
    rw [Except.error.injEq, eq_comm]
    exact (and_iff_right h).symm

theorem offer_of_refused {row : List Value} {e : DataSetError} (h : t.addRow row = .error e) :
    t.offer row = t := by
  rw [offer, h]

theorem offer_eq (t : Table) (row : List Value) : (t.offer row).metadata = t.metadata ∧
    (t.offer row).rows = t.rows ++ [row].filter (·.length = t.columns.length) := by
  by_cases h : row.length = t.columns.length
  · have hadded : t.addRow row = .ok ⟨t.metadata, t.rows ++ [row], _⟩ := dif_pos h
    simp [offer, hadded, h]
  · simp [offer_of_refused (addRow_eq_error_iff.2 ⟨h, rfl⟩), h]

/-- The rows that fit are added in turn; no other offer changes anything. -/
theorem foldl_offer (t : Table) (rows : List (List Value)) :
    (rows.foldl offer t).metadata = t.metadata ∧
      (rows.foldl offer t).rows = t.rows ++ rows.filter (·.length = t.columns.length) := by
  induction rows generalizing t with
  | nil => simp
  | cons row rows ih =>
    obtain ⟨hmeta, hrows⟩ := offer_eq t row
    obtain ⟨hmeta', hrows'⟩ := ih (t.offer row)
    have hcolumns : (t.offer row).columns = t.columns := congrArg Metadata.columns hmeta
    rw [hcolumns] at hrows'
    rw [List.foldl_cons, hmeta', hrows', hmeta, hrows, List.append_assoc, ← List.filter_append]
    exact ⟨rfl, rfl⟩

end Table

/-! ## Sorted views -/

namespace View

variable {t s : Table} {columns : List Column}

theorem sortKey_ofTable {keys : List Table.SortColumn}
    (hkeys : ∀ c ∈ keys, c.index < t.columns.length) {row : Nat} {cells : List Value}
    (hrow : t.rows[row]? = some cells) : (ofTable t).sortKey keys row = t.sortKey keys cells := by
  refine mapM_congr fun c hc => ?_
  have hvalue : (ofTable t).value row c.index = .ok (cells.getD c.index .null) :=
    Table.value_eq_ok hrow (hkeys c hc)
  rw [hvalue]
  rfl

theorem mapM_sortKey_ofTable {keys : List Table.SortColumn}
    (hkeys : ∀ c ∈ keys, c.index < t.columns.length) :
    (List.range t.rowCount).mapM ((ofTable t).sortKey keys) = t.rows.mapM (t.sortKey keys) := by
  have hrange : List.range t.rowCount = t.rows.zipIdx.map Prod.snd := by
    rw [List.zipIdx_map_snd, List.range_eq_range', Table.rowCount]
  have hrows : t.rows.mapM (t.sortKey keys) =
      (t.rows.zipIdx.map Prod.fst).mapM (t.sortKey keys) := by
    rw [List.zipIdx_map_fst]
  rw [hrange, hrows, List.mapM_map, List.mapM_map]
  exact mapM_congr fun p hp => sortKey_ofTable hkeys (List.mem_zipIdx_iff_getElem?.1 hp)

theorem index_lt_of_mem_sortColumns {keys : List Table.SortColumn}
    (h : t.sortColumns columns = .ok keys) : ∀ c ∈ keys, c.index < t.columns.length := by
  obtain ⟨hfound, rfl⟩ := Table.sortColumns_eq_ok.1 h
  rw [List.forall_mem_map]
  intro k hk
  obtain ⟨i, hi⟩ := Option.isSome_iff_exists.1 (hfound k hk)
  obtain ⟨hlt, -⟩ := List.findIdx?_eq_some_iff_getElem.1 hi
  rw [Table.sortColumn, hi]
  exact hlt

/-- The rows with their places in the order of their keys. -/
def placedByKey (t : Table) (columns : List Column) : List (List Value × Nat) :=
  t.rows.zipIdx.mergeSort fun p q => Table.byKey t.metadata columns p.1 q.1

theorem map_fst_placedByKey (t : Table) (columns : List Column) :
    (placedByKey t columns).map Prod.fst = t.rows.mergeSort (Table.byKey t.metadata columns) := by
  have h := List.map_mergeSort (r := fun p q => Table.byKey t.metadata columns p.1 q.1)
    (s := Table.byKey t.metadata columns) (f := Prod.fst) (l := t.rows.zipIdx) fun _ _ _ _ => rfl
  rw [placedByKey, h, List.zipIdx_map_fst]

/-- The places are sorted by the keys alone. -/
theorem map_snd_placedByKey (t : Table) (columns : List Column) :
    (placedByKey t columns).map Prod.snd =
      (((t.rows.map (Table.rowKey t.metadata columns)).zip (List.range t.rowCount)).mergeSort
        fun a b => (Table.compareKeys a.1 b.1).isLE).map Prod.snd := by
  have hzip : (t.rows.map (Table.rowKey t.metadata columns)).zip (List.range t.rowCount) =
      t.rows.zipIdx.map fun p => (Table.rowKey t.metadata columns p.1, p.2) := by
    rw [Table.rowCount, List.range_eq_range', List.zipIdx_eq_zip_range', List.zip_map_left]
    rfl
  have h := List.map_mergeSort (r := fun p q => Table.byKey t.metadata columns p.1 q.1)
    (s := fun a b => (Table.compareKeys a.1 b.1).isLE)
    (f := fun p => (Table.rowKey t.metadata columns p.1, p.2)) (l := t.rows.zipIdx)
    fun _ _ _ _ => rfl
  rw [hzip, ← h, List.map_map]
  rfl

theorem getElem?_of_mem_placedByKey {p : List Value × Nat} (hp : p ∈ placedByKey t columns) :
    t.rows[p.2]? = some p.1 :=
  List.mem_zipIdx_iff_getElem?.1 (List.mem_mergeSort.1 hp)

/-- The rows of a view in the order of their keys are those of the sorted table. -/
theorem reordered_ofTable (hmeta : s.metadata = t.metadata)
    (hrows : s.rows = t.rows.mergeSort (Table.byKey t.metadata columns)) :
    (ofTable t).reordered ((placedByKey t columns).map Prod.snd) = ofTable s := by
  rw [← map_fst_placedByKey] at hrows
  have hcount : ((placedByKey t columns).map Prod.snd).length = s.rowCount := by
    rw [List.length_map, Table.rowCount, hrows, List.length_map]
  have hvalue : ((ofTable t).reordered ((placedByKey t columns).map Prod.snd)).value = s.value := by
    funext i c
    cases hp : (placedByKey t columns)[i]? with
    | none =>
      have hle : s.rowCount ≤ i := by
        rw [← hcount, List.length_map]
        exact List.getElem?_eq_none_iff.1 hp
      rw [Table.value_of_rowCount_le hle]
      simp only [reordered, List.getElem?_map, hp, Option.map_none, hcount, Table.name, hmeta]
      rfl
    | some p =>
      have hrow : s.rows[i]? = some p.1 := by rw [hrows, List.getElem?_map, hp, Option.map_some]
      rw [Table.value_eq_of_row (congrArg Metadata.name hmeta) hrow
        (getElem?_of_mem_placedByKey (List.mem_of_getElem? hp))]
      simp only [reordered, List.getElem?_map, hp, Option.map_some]
      rfl
  show _ = View.mk s.metadata s.rowCount s.value
  rw [← hvalue, ← hcount, hmeta]
  rfl

/-- **A table sorted in place and the sorted table** give the same answers; a table cannot be sorted
in either way with the same error. -/
theorem sortedByColumns_ofTable (t : Table) (columns : List Column) :
    (ofTable t).sortedByColumns columns = (t.sortedByColumns columns).map ofTable := by
  cases h : t.sortedByColumns columns with
  | error e =>
    refine bind_eq_error.2 ?_
    rcases bind_eq_error.1 h with h | ⟨keys, hkeys, h⟩
    · exact .inl h
    · refine .inr ⟨keys, hkeys, bind_eq_error.2 (.inl (bind_eq_error.2 (.inl ?_)))⟩
      have hindex := index_lt_of_mem_sortColumns hkeys
      show (List.range t.rowCount).mapM ((ofTable t).sortKey keys) = .error e
      rw [mapM_sortKey_ofTable hindex]
      split at h
      next e' he =>
        cases h
        rcases bind_eq_error.1 he with he | ⟨_, -, he⟩
        · exact he
        · cases he
      next => cases h
  | ok s =>
    obtain ⟨hfound, hrowKeys, hmeta, hrows⟩ := Table.sortedByColumns_eq_ok.1 h
    have hkeys := Table.sortColumns_eq_ok.2 ⟨hfound, rfl⟩
    have hmapM := mapM_sortKey_ofTable (index_lt_of_mem_sortColumns hkeys)
    rw [(mapM_eq_ok fun _ _ => Table.sortKey_eq_ok).2 ⟨hrowKeys, rfl⟩] at hmapM
    refine bind_eq_ok.2 ⟨_, hkeys, bind_eq_ok.2 ⟨_, bind_eq_ok.2 ⟨_, hmapM, rfl⟩, ?_⟩⟩
    exact pure_eq_ok.2 (map_snd_placedByKey t columns ▸ reordered_ofTable hmeta hrows)

/-! ## Nested views -/

/-- A table that was built row by row, or a view of such tables that are laid end to end and sorted
in any nesting. -/
inductive Built : View → Prop
  | stored {t : Table} (h : t.Grown) : Built (ofTable t)
  | joined {vs : List View} {v : View} (hvs : ∀ part ∈ vs, Built part) (h : concat vs = .ok v) :
      Built v
  | ordered {v w : View} (hv : Built v) {columns : List Column}
      (h : v.sortedByColumns columns = .ok w) : Built w
  | orderedByNames {v w : View} (hv : Built v) {names : List String}
      (h : v.sortedByNames names = .ok w) : Built w
  | orderedByKey {v w : View} (hv : Built v) (h : v.sorted = .ok w) : Built w

theorem exists_table_of_sorted {w : View} (h : (ofTable t).sortedByColumns columns = .ok w) :
    ∃ s, w = ofTable s := by
  rw [sortedByColumns_ofTable] at h
  obtain ⟨s, -, rfl⟩ := map_eq_ok.1 h
  exact ⟨s, rfl⟩

/-- **A nested view** answers as one table. -/
theorem Built.exists_table {v : View} (h : v.Built) : ∃ t, v = ofTable t := by
  induction h with
  | stored => exact ⟨_, rfl⟩
  | @joined vs v _ h ih =>
    have hvs : vs ∈ Set.range (List.map ofTable) := by
      rw [Set.range_list_map]
      exact fun part hpart => (ih part hpart).imp fun _ => Eq.symm
    obtain ⟨ts, rfl⟩ := hvs
    rw [concat_ofTable] at h
    obtain ⟨t, -, rfl⟩ := map_eq_ok.1 h
    exact ⟨t, rfl⟩
  | ordered _ h ih =>
    obtain ⟨t, rfl⟩ := ih
    exact exists_table_of_sorted h
  | orderedByNames _ h ih =>
    obtain ⟨t, rfl⟩ := ih
    obtain ⟨columns, -, h⟩ := bind_eq_ok.1 h
    exact exists_table_of_sorted h
  | orderedByKey _ h ih =>
    obtain ⟨t, rfl⟩ := ih
    exact exists_table_of_sorted h

/-- A value for each row and column, and an error about the row or else the column for any other
place. -/
structure Rectangular (v : View) : Prop where
  value : ∀ {row column}, row < v.rowCount → column < v.columns.length →
    ∃ x, v.value row column = .ok x
  rowError : ∀ {row} column, v.rowCount ≤ row →
    v.value row column = .error (.rowOutOfBounds v.name row v.rowCount)
  columnError : ∀ {row column}, row < v.rowCount → v.columns.length ≤ column →
    v.value row column = .error (.columnOutOfBounds v.name column)

theorem rectangular_ofTable (t : Table) : (ofTable t).Rectangular where
  value hrow hcolumn := ⟨_, Table.value_eq_ok (List.getElem?_eq_getElem hrow) hcolumn⟩
  rowError _ hrow := Table.value_of_rowCount_le hrow
  columnError hrow hcolumn := Table.value_of_columns_le hrow hcolumn

theorem Built.rectangular {v : View} (h : v.Built) : v.Rectangular := by
  obtain ⟨t, rfl⟩ := h.exists_table
  exact rectangular_ofTable t

namespace Rectangular

variable {v : View} (hv : v.Rectangular)
include hv

theorem value_iff {row column : Nat} :
    ((∃ x, v.value row column = .ok x) ↔ row < v.rowCount ∧ column < v.columns.length) ∧
      (v.value row column = .error (.rowOutOfBounds v.name row v.rowCount) ↔ v.rowCount ≤ row) ∧
      (v.value row column = .error (.columnOutOfBounds v.name column) ↔
        row < v.rowCount ∧ v.columns.length ≤ column) := by
  rcases Nat.lt_or_ge row v.rowCount with hrow | hrow
  · rcases Nat.lt_or_ge column v.columns.length with hcolumn | hcolumn
    · obtain ⟨x, hx⟩ := hv.value hrow hcolumn
      simp [hx, hrow, hcolumn]
    · simp [hv.columnError hrow hcolumn, hrow, hcolumn]
  · simp [hv.rowError column hrow, hrow]

theorem valueByName_iff {row : Nat} {name : String} :
    (∃ x, v.valueByName row name = .ok x) ↔ row < v.rowCount ∧ v.HasColumn name := by
  simp only [valueByName, bind_eq_ok, Table.columnIndex_eq_ok]
  rw [hasColumn_iff, Option.isSome_iff_exists]
  constructor
  · rintro ⟨x, i, hi, hx⟩
    exact ⟨((hv.value_iff).1.1 ⟨x, hx⟩).1, i, hi⟩
  · rintro ⟨hrow, i, hi⟩
    obtain ⟨hlt, -⟩ := List.findIdx?_eq_some_iff_getElem.1 hi
    obtain ⟨x, hx⟩ := hv.value hrow hlt
    exact ⟨x, i, hi, hx⟩

end Rectangular

/-- **Every table is rectangular**, whether its rows were given, offered one by one, laid end to end
or sorted. A value is given for each of its rows and columns, also by the name of a column. Any
other row is an error, and so is any other column of one of its rows. A row that is refused leaves
the table as it was. -/
theorem Built.reads_within_bounds {v : View} (h : v.Built) :
    (∀ row column,
      ((∃ x, v.value row column = .ok x) ↔ row < v.rowCount ∧ column < v.columns.length) ∧
      (v.value row column = .error (.rowOutOfBounds v.name row v.rowCount) ↔ v.rowCount ≤ row) ∧
      (v.value row column = .error (.columnOutOfBounds v.name column) ↔
        row < v.rowCount ∧ v.columns.length ≤ column)) ∧
    (∀ row name, (∃ x, v.valueByName row name = .ok x) ↔ row < v.rowCount ∧ v.HasColumn name) ∧
    (∀ (t : Table) row e, t.addRow row = .error e → t.offer row = t) ∧
    ∀ (t : Table) (rows : List (List Value)), (rows.foldl Table.offer t).metadata = t.metadata ∧
      (rows.foldl Table.offer t).rows = t.rows ++ rows.filter (·.length = t.columns.length) :=
  ⟨fun _ _ => h.rectangular.value_iff, fun _ _ => h.rectangular.valueByName_iff,
    fun _ _ _ => Table.offer_of_refused, Table.foldl_offer⟩

/-- Two tables with their columns in different orders; to the first of them a row was offered that
is too short. -/
def idsFirst : Table :=
  ((Table.empty { name := "staff", columns := [.untyped "id", .untyped "name"] }).offer
    [.int 2]).offer [.int 2, .text "ann"]

def namesFirst : Table :=
  (Table.empty { name := "staff", columns := [.untyped "NAME", .untyped "ID"] }).offer
    [.text "bob", .int 1]

theorem concat_staff : ∃ u, Table.concat [idsFirst, namesFirst] = .ok u ∧
    u.metadata = idsFirst.metadata ∧ u.rows = [[.int 2, .text "ann"], [.int 1, .text "bob"]] := by
  cases h : Table.concat [idsFirst, namesFirst] with
  | error e =>
    obtain ⟨s, hs, c, hc, hmissing, -⟩ := Table.concat_eq_error h
    have hcolumns : ∀ s ∈ [namesFirst], ∀ c ∈ idsFirst.columns,
        ∃ d ∈ s.columns, d.hasName c.name = true := by decide
    exact absurd (hcolumns s hs c hc) hmissing
  | ok u =>
    obtain ⟨-, hmeta, hrows⟩ := Table.concat_eq_ok.1 h
    exact ⟨u, rfl, hmeta, Table.map_some_injective (hrows.trans rfl)⟩

theorem sorted_staff_within_bounds : ∃ v w : View,
    concat [ofTable idsFirst, ofTable namesFirst] = .ok v ∧
      v.sortedByColumns [.untyped "Id"] = .ok w ∧ w.Built ∧
      (∃ x, w.value 1 1 = .ok x) ∧ (∃ x, w.valueByName 0 "Name" = .ok x) ∧
      w.value 2 0 = .error (.rowOutOfBounds w.name 2 w.rowCount) ∧
      w.value 1 2 = .error (.columnOutOfBounds w.name 2) := by
  obtain ⟨u, hu, hmeta, hrows⟩ := concat_staff
  have hv : concat [ofTable idsFirst, ofTable namesFirst] = .ok (ofTable u) := by
    have h := concat_ofTable [idsFirst, namesFirst]
    rw [hu] at h
    exact h
  obtain ⟨s, hs⟩ : ∃ s, u.sortedByColumns [.untyped "Id"] = .ok s := by
    refine Table.exists_sortedByColumns_iff.2 ⟨?_, fun row _ k hk => ?_⟩
    · rw [hmeta]
      decide
    · rw [List.mem_singleton.1 hk]
      exact ⟨_, DataType.normalize_unknown _⟩
  have hw : (ofTable u).sortedByColumns [.untyped "Id"] = .ok (ofTable s) := by
    rw [sortedByColumns_ofTable, hs]
    rfl
  have hbuilt : (ofTable s).Built := by
    refine .ordered (.joined ?_ hv) hw
    rw [List.forall_mem_cons, List.forall_mem_singleton]
    exact ⟨.stored (.offer (.offer (.empty _) _) _), .stored (.offer (.empty _) _)⟩
  obtain ⟨-, -, hsmeta, hsrows⟩ := Table.sortedByColumns_eq_ok.1 hs
  have hcount : (ofTable s).rowCount = 2 := by
    show s.rows.length = 2
    rw [hsrows, List.length_mergeSort, hrows]
    rfl
  have hcolumns : (ofTable s).columns = [.untyped "id", .untyped "name"] := by
    show s.metadata.columns = _
    rw [hsmeta, hmeta]
    rfl
  obtain ⟨hvalue, hname, -⟩ := hbuilt.reads_within_bounds
  refine ⟨_, _, hv, hw, hbuilt, (hvalue 1 1).1.2 ?_, (hname 0 "Name").2 ?_,
    (hvalue 2 0).2.1.2 ?_, (hvalue 1 2).2.2.2 ?_⟩
  · rw [hcount, hcolumns]
    decide
  · rw [hcount, HasColumn, hcolumns]
    decide
  · rw [hcount]
  · rw [hcount, hcolumns]
    decide

/-- **Views laid end to end** have the rows of all parts in turn, and answer for a row as the part
on which it falls, under the first column of this part that has the name of the column in the first
part. They can be laid end to end if there is one and all have the columns of the first. -/
theorem concat_answers_by_parts (parts : List View) :
    ((∃ e, concat parts = .error e) ↔
      parts = [] ∨ ∃ first ∈ parts.head?, ∃ part ∈ parts, ∃ c ∈ first.columns,
        ¬ part.HasColumn c.name) ∧
    ∀ v, concat parts = .ok v → ∃ first ∈ parts.head?, v.metadata = first.metadata ∧
      v.rowCount = (parts.map (·.rowCount)).sum ∧
      ∀ row < v.rowCount, ∃ before part after k, parts = before ++ part :: after ∧
        row = (before.map (·.rowCount)).sum + k ∧ k < part.rowCount ∧
        ∀ column c, v.columns[column]? = some c →
          ∃ i, part.IsFirst c.name i ∧ v.value row column = part.value k i ∧
            (part.Built → ∃ x, part.value k i = .ok x) := by
  refine ⟨concat_eq_error_iff, fun w hw => ?_⟩
  cases parts with
  | nil => cases hw
  | cons v vs =>
    obtain ⟨hcolumns, rfl⟩ := concat_eq_ok.1 hw
    refine ⟨v, rfl, rfl, totalRows_map_partFor _ (v :: vs), fun row hrow => ?_⟩
    obtain ⟨⟨part, k⟩, hlocate⟩ := Option.ne_none_iff_exists'.1
      (mt locate_eq_none_iff.1 (Nat.not_le.2 hrow))
    obtain ⟨before, s, after, hparts, rfl, hrow, hk⟩ := exists_view_of_locate hlocate
    refine ⟨before, s, after, k, hparts, hrow, hk, fun column c hc => ?_⟩
    have hs : s ∈ v :: vs := hparts ▸ List.mem_append_right _ List.mem_cons_self
    obtain ⟨i, hi⟩ := Option.isSome_iff_exists.1
      (hasColumn_iff.1 (hcolumns s hs c (List.mem_of_getElem? hc)))
    have hname : v.metadata.columnNames[column]? = some c.name := by
      rw [Metadata.columnNames, List.getElem?_map]
      exact congrArg _ hc
    refine ⟨i, columnIndex?_eq_some_iff.1 hi, ?_, fun hbuilt => ?_⟩
    · rw [value_endToEnd hlocate hname, hi, Option.getD_some]
    · obtain ⟨hlt, -⟩ := List.findIdx?_eq_some_iff_getElem.1 hi
      exact hbuilt.rectangular.value hk hlt

end View

end TableDiff
