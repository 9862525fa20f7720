import TableDiff.Proofs.Table.Concatenation
import TableDiff.Table.View

/-!
# Views laid end to end

A row of views that are laid end to end falls on one of them (`exists_view_of_locate`): the rows of
those before it are passed, and what is left is a row of this one. The answer is that of this view
in its first column of the name that is asked for (`value_endToEnd`). Tables laid end to end in
place answer in every case as the table of their copied rows (`concat_ofTable`).
-/

namespace TableDiff

namespace View

open TableDiff.Text

variable {v w : View} {vs : List View} {part : Part} {parts : List Part} {names : List String}
  {name : String} {row k : Nat}

/-- A column of the view has the name. -/
def HasColumn (v : View) (name : String) : Prop := ∃ c ∈ v.columns, c.hasName name = true

/-- The column at a position is the first of a name. -/
def IsFirst (v : View) (name : String) (i : Nat) : Prop :=
  (∃ c, v.columns[i]? = some c ∧ c.hasName name = true) ∧
    ∀ j < i, ∀ c, v.columns[j]? = some c → c.hasName name = false

/-! ## Columns by name -/

theorem hasColumn_iff : v.HasColumn name ↔ (v.metadata.columnIndex? name).isSome = true :=
  Table.hasColumn_iff (t := v.rowless)

theorem columnIndex?_eq_some_iff {i : Nat} :
    v.metadata.columnIndex? name = some i ↔ v.IsFirst name i := by
  rw [Metadata.columnIndex?, List.findIdx?_eq_some_iff_getElem]
  constructor
  · rintro ⟨hlt, hname, hbefore⟩
    refine ⟨⟨_, List.getElem?_eq_getElem hlt, hname⟩, fun j hj c hc => ?_⟩
    obtain ⟨hjlt, rfl⟩ := List.getElem?_eq_some_iff.1 hc
    exact Bool.eq_false_iff.2 (hbefore j hj)
  · rintro ⟨⟨c, hc, hname⟩, hbefore⟩
    obtain ⟨hlt, rfl⟩ := List.getElem?_eq_some_iff.1 hc
    exact ⟨hlt, hname, fun j hj => Bool.eq_false_iff.1
      (hbefore j hj _ (List.getElem?_eq_getElem (Nat.lt_trans hj hlt)))⟩

/-- A view as a part of a longer one, its columns in the order of the names. -/
def partFor (names : List String) (v : View) : Part :=
  ⟨v, names.map fun n => (v.metadata.columnIndex? n).getD 0⟩

/-! ## Rows of the whole -/

theorem totalRows_eq_sum (parts : List Part) :
    totalRows parts = (parts.map (·.view.rowCount)).sum := by
  induction parts with
  | nil => rfl
  | cons part parts ih =>
    rw [List.map_cons, List.sum_cons, ← ih]
    rfl

theorem locate_eq_some (h : locate parts row = some (part, k)) :
    ∃ before after, parts = before ++ part :: after ∧ row = totalRows before + k ∧
      k < part.view.rowCount := by
  induction parts generalizing row with
  | nil => cases h
  | cons first parts ih =>
    unfold locate at h
    split at h
    next hlt =>
      cases h
      exact ⟨[], parts, rfl, (Nat.zero_add _).symm, hlt⟩
    next hge =>
      obtain ⟨before, after, rfl, hrow, hk⟩ := ih h
      refine ⟨first :: before, after, rfl, ?_, hk⟩
      show row = first.view.rowCount + totalRows before + k
      omega

theorem locate_eq_none_iff : locate parts row = none ↔ totalRows parts ≤ row := by
  induction parts generalizing row with
  | nil => simp [locate, totalRows]
  | cons first parts ih =>
    have htotal : totalRows (first :: parts) = first.view.rowCount + totalRows parts := rfl
    unfold locate
    split
    next hlt =>
      refine iff_of_false (fun h => nomatch h) ?_
      omega
    next hge =>
      rw [ih]
      omega

theorem totalRows_map_partFor (names : List String) (vs : List View) :
    totalRows (vs.map (partFor names)) = (vs.map (·.rowCount)).sum := by
  rw [totalRows_eq_sum, List.map_map]
  rfl

/-- A row of the whole falls on a view: it comes after all rows of the views before. -/
theorem exists_view_of_locate (h : locate (vs.map (partFor names)) row = some (part, k)) :
    ∃ before s after, vs = before ++ s :: after ∧ part = partFor names s ∧
      row = (before.map (·.rowCount)).sum + k ∧ k < s.rowCount := by
  obtain ⟨before, after, hsplit, hrow, hk⟩ := locate_eq_some h
  obtain ⟨before, rest, hvs, rfl, hrest⟩ := List.map_eq_append_iff.1 hsplit
  obtain ⟨s, after, rfl, rfl, rfl⟩ := List.map_eq_cons_iff.1 hrest
  rw [totalRows_map_partFor] at hrow
  exact ⟨before, s, after, hvs, rfl, hrow, hk⟩

/-! ## Building -/

theorem columnIndexes_eq_ok {indexes : List Nat} : v.rowless.columnIndexes names = .ok indexes ↔
    (∀ n ∈ names, v.HasColumn n) ∧ indexes = (partFor names v).indexes :=
  Table.columnIndexes_eq_ok

theorem concat_eq_ok : concat (v :: vs) = .ok w ↔
    (∀ part ∈ v :: vs, ∀ c ∈ v.columns, part.HasColumn c.name) ∧
      w = endToEnd v.metadata ((v :: vs).map (partFor v.metadata.columnNames)) := by
  have hzip : List.zipWith Part.mk (v :: vs)
      ((v :: vs).map fun part => (partFor v.metadata.columnNames part).indexes) =
        (v :: vs).map (partFor v.metadata.columnNames) := by
    rw [List.zipWith_map_right, List.zipWith_self]
    rfl
  simp only [concat, bind_eq_ok, pure_eq_ok, mapM_eq_ok fun _ _ => columnIndexes_eq_ok,
    Metadata.columnNames, List.forall_mem_map]
  constructor
  · rintro ⟨_, ⟨hcolumns, rfl⟩, rfl⟩
    exact ⟨hcolumns, congrArg _ hzip⟩
  · rintro ⟨hcolumns, rfl⟩
    exact ⟨_, ⟨hcolumns, rfl⟩, congrArg _ hzip⟩

theorem concat_eq_error_iff {parts : List View} : (∃ e, concat parts = .error e) ↔
    parts = [] ∨ ∃ first ∈ parts.head?, ∃ part ∈ parts, ∃ c ∈ first.columns,
      ¬ part.HasColumn c.name := by
  cases parts with
  | nil => exact iff_of_true ⟨_, rfl⟩ (.inl rfl)
  | cons v vs =>
    have hok : (∃ w, concat (v :: vs) = .ok w) ↔
        ∀ part ∈ v :: vs, ∀ c ∈ v.columns, part.HasColumn c.name := by
      simp only [concat_eq_ok, exists_and_left, exists_eq, and_true]
    cases hc : concat (v :: vs) with
    | error e =>
      rw [hc] at hok
      have hmissing := mt hok.2 (fun ⟨w, h⟩ => nomatch h)
      push Not at hmissing
      exact iff_of_true ⟨e, rfl⟩ (.inr ⟨v, rfl, hmissing⟩)
    | ok w =>
      refine iff_of_false (fun ⟨e, h⟩ => nomatch h) ?_
      rintro (h | ⟨first, hfirst, part, hpart, c, hmem, hmissing⟩)
      · cases h
      · cases hfirst
        exact hmissing (hok.1 ⟨w, hc⟩ part hpart c hmem)

/-- The answer of views laid end to end for a row that falls on one of them. -/
theorem value_endToEnd {m : Metadata} {s : View} {column : Nat} {n : String}
    (h : locate (vs.map (partFor names)) row = some (partFor names s, k))
    (hn : names[column]? = some n) :
    (endToEnd m (vs.map (partFor names))).value row column =
      s.value k ((s.metadata.columnIndex? n).getD 0) := by
  have hindex : (partFor names s).indexes[column]? = some ((s.metadata.columnIndex? n).getD 0) := by
    rw [partFor, List.getElem?_map, hn, Option.map_some]
  simp only [endToEnd, h, hindex]
  rfl

/-! ## Tables laid end to end -/

variable {t u : Table} {ts : List Table}

theorem mapM_columnIndexes_eq_error {e : DataSetError} (h : Table.projectAll names ts = .error e) :
    ts.mapM (·.columnIndexes names) = .error e := by
  induction ts with
  | nil => cases h
  | cons t ts ih =>
    rw [List.mapM_cons, bind_eq_error]
    rcases bind_eq_error.1 h with h | ⟨rows, hrows, h⟩
    · rcases bind_eq_error.1 h with h | ⟨indexes, -, h⟩
      · exact .inl h
      · cases h
    · obtain ⟨indexes, hindexes, -⟩ := bind_eq_ok.1 hrows
      rcases bind_eq_error.1 h with h | ⟨more, -, h⟩
      · exact .inr ⟨indexes, hindexes, bind_eq_error.2 (.inl (ih h))⟩
      · cases h

theorem projectAll_eq_error_of_concat {e : DataSetError} (h : Table.concat (t :: ts) = .error e) :
    Table.projectAll t.metadata.columnNames (t :: ts) = .error e := by
  simp only [Table.concat] at h
  split at h
  next e' he =>
    cases h
    exact he
  next => cases h

theorem getElem?_flatMap_of_split {α β : Type} {f : α → List β} (before after : List α) {a : α}
    (hk : k < (f a).length) :
    ((before ++ a :: after).flatMap f)[(before.map fun b => (f b).length).sum + k]? =
      (f a)[k]? := by
  rw [List.flatMap_append, List.flatMap_cons, ← List.length_flatMap,
    List.getElem?_append_right (Nat.le_add_right _ _), Nat.add_sub_cancel_left,
    List.getElem?_append_left hk]

theorem value_of_cell? {r : List Value} {x : Value} (hr : t.rows[k]? = some r)
    (hx : t.cell? r name = some x) :
    t.value k ((t.metadata.columnIndex? name).getD 0) = .ok x := by
  have h := Table.valueByName_eq_ok.2 ⟨r, hr, hx⟩
  obtain ⟨i, hi, h⟩ := bind_eq_ok.1 h
  rw [Table.columnIndex_eq_ok.1 hi]
  exact h

section Copied

variable (hrows : u.rows.map (·.map some) = ts.flatMap (Table.cellsByName u.metadata.columnNames))
include hrows

theorem totalRows_of_copied :
    totalRows ((ts.map ofTable).map (partFor u.metadata.columnNames)) = u.rowCount := by
  have h := congrArg List.length hrows
  rw [List.length_map, List.length_flatMap] at h
  rw [totalRows_map_partFor, Table.rowCount, h, List.map_map]
  simp only [Table.cellsByName, List.length_map]
  rfl

/-- A copied row holds the cells of the row it was copied from. -/
theorem exists_row_of_copied
    (h : locate ((ts.map ofTable).map (partFor u.metadata.columnNames)) row = some (part, k)) :
    ∃ t r r', part = partFor u.metadata.columnNames (ofTable t) ∧ t.rows[k]? = some r ∧
      u.rows[row]? = some r' ∧ r'.map some = u.metadata.columnNames.map (t.cell? r) := by
  obtain ⟨before, s, after, hsplit, rfl, hrow, hk⟩ := exists_view_of_locate h
  obtain ⟨before, rest, rfl, rfl, hrest⟩ := List.map_eq_append_iff.1 hsplit
  obtain ⟨t, after, rfl, rfl, rfl⟩ := List.map_eq_cons_iff.1 hrest
  have hlength : k < (t.cellsByName u.metadata.columnNames).length := by
    rw [Table.cellsByName, List.length_map]
    exact hk
  have hbefore : ((before.map ofTable).map (·.rowCount)).sum =
      (before.map fun s => (s.cellsByName u.metadata.columnNames).length).sum := by
    rw [List.map_map]
    simp only [Table.cellsByName, List.length_map]
    rfl
  have hcopied := getElem?_flatMap_of_split before after hlength
  rw [← hrows, ← hbefore, ← hrow, List.getElem?_map, Table.cellsByName, List.getElem?_map,
    List.getElem?_eq_getElem hk, Option.map_some] at hcopied
  obtain ⟨r', hr', hcells⟩ := Option.map_eq_some_iff.1 hcopied
  exact ⟨t, _, r', rfl, List.getElem?_eq_getElem hk, hr', hcells⟩

theorem value_of_copied (row column : Nat) :
    (endToEnd u.metadata
      ((ts.map ofTable).map (partFor u.metadata.columnNames))).value row column =
        u.value row column := by
  cases hl : locate ((ts.map ofTable).map (partFor u.metadata.columnNames)) row with
  | none =>
    rw [Table.value_of_rowCount_le (totalRows_of_copied hrows ▸ locate_eq_none_iff.1 hl)]
    simp only [endToEnd, hl, totalRows_of_copied hrows]
    rfl
  | some found =>
    obtain ⟨part, k⟩ := found
    obtain ⟨t, r, r', rfl, hr, hr', hcells⟩ := exists_row_of_copied hrows hl
    have hrow : row < u.rowCount := (List.getElem?_eq_some_iff.1 hr').1
    cases hn : u.metadata.columnNames[column]? with
    | none =>
      have hcolumn : u.columns.length ≤ column := by
        rw [List.getElem?_eq_none_iff, Metadata.columnNames, List.length_map] at hn
        exact hn
      have hindex : (partFor u.metadata.columnNames (ofTable t)).indexes[column]? = none := by
        rw [partFor, List.getElem?_map, hn, Option.map_none]
      rw [Table.value_of_columns_le hrow hcolumn]
      simp only [endToEnd, hl, hindex]
      rfl
    | some n =>
      have hcolumn : column < u.columns.length := by
        obtain ⟨hlt, -⟩ := List.getElem?_eq_some_iff.1 hn
        rwa [Metadata.columnNames, List.length_map] at hlt
      rw [value_endToEnd hl hn, Table.value_eq_ok hr' hcolumn]
      refine value_of_cell? hr ?_
      have hcell := congrArg (·[column]?) hcells
      simp only [List.getElem?_map, hn, Option.map_some] at hcell
      obtain ⟨x, hx, hcell⟩ := Option.map_eq_some_iff.1 hcell
      rw [← hcell, List.getD_eq_getElem?_getD, hx, Option.getD_some]

end Copied

/-- Tables laid end to end and the table of their copied rows answer alike. -/
theorem endToEnd_eq_ofTable
    (hrows : u.rows.map (·.map some) = ts.flatMap (Table.cellsByName u.metadata.columnNames)) :
    endToEnd u.metadata ((ts.map ofTable).map (partFor u.metadata.columnNames)) = ofTable u := by
  have hvalue := funext fun row => funext fun column => value_of_copied hrows row column
  rw [ofTable, ← totalRows_of_copied hrows, ← hvalue]
  rfl

/-- **Tables laid end to end in place and copied** can be so alike, with the same error where they
cannot, and give the same answers. -/
theorem concat_ofTable (ts : List Table) :
    concat (ts.map ofTable) = (Table.concat ts).map ofTable := by
  cases ts with
  | nil => rfl
  | cons t ts =>
    cases h : Table.concat (t :: ts) with
    | error e =>
      have hindexes := mapM_columnIndexes_eq_error (projectAll_eq_error_of_concat h)
      have hmap : ((t :: ts).map ofTable).mapM
          (fun v => v.rowless.columnIndexes t.metadata.columnNames) = .error e := by
        rw [List.mapM_map]
        exact hindexes
      exact bind_eq_error.2 (.inl hmap)
    | ok u =>
      obtain ⟨hcolumns, hmeta, hrows⟩ := Table.concat_eq_ok.1 h
      rw [← hmeta] at hrows
      refine concat_eq_ok.2 ⟨?_, ?_⟩
      · rw [← List.map_cons, List.forall_mem_map, List.forall_mem_cons]
        exact ⟨fun c hc => Table.hasColumn_self hc, hcolumns⟩
      · rw [← List.map_cons]
        show ofTable u = endToEnd t.metadata
          (((t :: ts).map ofTable).map (partFor t.metadata.columnNames))
        rw [← hmeta]
        exact (endToEnd_eq_ofTable hrows).symm

end View

end TableDiff
