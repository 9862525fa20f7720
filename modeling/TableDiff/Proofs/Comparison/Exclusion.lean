import TableDiff.Proofs.Comparison.Tables
import TableDiff.Proofs.Text.Case

/-!
# Excluded columns

Excluded columns are invisible: a comparison gives the same outcome, be it a report or an error, as
the comparison without exclusions of the two tables that are left when the excluded columns are
taken out of both (`compareTables_without`). So tables that differ in excluded columns only are not
told apart, whatever is stored there.

It is needed that filters and ignored names do not tell apart names that differ in the case of ASCII
letters (`Exclusions.ignoresCase_ofRules`): an actual column is found by such a name, but it is
taken out by its own.
-/

namespace TableDiff

open TableDiff.Text

namespace Table

/-- The columns that are left when some names are dropped, with their positions. -/
def keptColumns (t : Table) (drop : String → Bool) : List (Column × Nat) :=
  t.columns.zipIdx.filter fun p => !drop p.1.name

/-- The table without the columns of the dropped names and without their cells. -/
def without (t : Table) (drop : String → Bool) : Table where
  metadata := { t.metadata with columns := (t.keptColumns drop).map (·.1) }
  rows := t.rows.map (pick · ((t.keptColumns drop).map (·.2)))
  width_eq := by
    intro row hrow
    obtain ⟨cells, -, rfl⟩ := List.mem_map.1 hrow
    simp [pick]

variable {t : Table} {drop : String → Bool}

theorem columns_without : (t.without drop).columns = (t.keptColumns drop).map (·.1) := rfl

theorem rowCount_without : (t.without drop).rowCount = t.rowCount := List.length_map _

theorem columns_without_eq_filter :
    (t.without drop).columns = t.columns.filter fun column => !drop column.name := by
  have h := List.filter_map (f := Prod.fst (β := Nat))
    (p := fun column : Column => !drop column.name) (l := t.columns.zipIdx)
  rw [List.zipIdx_map_fst] at h
  exact h.symm

theorem kept_of_mem {p : Column × Nat} (h : p ∈ t.keptColumns drop) :
    p.2 < t.columns.length ∧ drop p.1.name = false := by
  obtain ⟨hp, hkept⟩ := List.mem_filter.1 h
  have hlt := List.snd_lt_of_mem_zipIdx hp
  exact ⟨by omega, by simpa using hkept⟩

/-- A cell that is left is that of the column's old position. -/
theorem value_without {p : Column × Nat} {j : Nat} (h : (p, j) ∈ (t.keptColumns drop).zipIdx)
    (row : Nat) : (t.without drop).value row j = t.value row p.2 := by
  have hp : (t.keptColumns drop)[j]? = some p := List.mem_zipIdx_iff_getElem?.1 h
  have hlt := (kept_of_mem (List.fst_mem_of_mem_zipIdx h)).1
  unfold value
  rw [rowCount_without]
  cases hrow : t.rows[row]? with
  | none => simp [without, hrow, name]
  | some cells =>
    have hwidth : p.2 < cells.length := by
      rw [t.width_eq cells (List.mem_of_getElem? hrow)]
      exact hlt
    simp [without, hrow, pick, hp, List.getElem?_eq_getElem hwidth]

end Table

/-! ## Counterparts among the columns that are left -/

/-- Names are dropped whatever the case of their ASCII letters. -/
def IgnoresCase (drop : String → Bool) : Prop := ∀ a b, sameName a b = true → drop a = drop b

section Counterparts

variable {t : Table} {drop : String → Bool} {name : String}

theorem counterpart?_without : counterpart? (t.without drop) name =
    ((t.keptColumns drop).zipIdx.find? fun x => x.1.1.hasName name).map
      fun x => (x.1.1, x.2) := by
  rw [counterpart?, Table.columns_without, List.zipIdx_map, List.find?_map]
  rfl

theorem counterpart?_eq_kept (hdrop : IgnoresCase drop) (hname : drop name = false) :
    counterpart? t name =
      ((t.keptColumns drop).zipIdx.find? fun x => x.1.1.hasName name).map (·.1) := by
  -- no dropped column has a name that is kept
  have hkept : counterpart? t name =
      (t.keptColumns drop).find? fun p => p.1.hasName name := by
    rw [counterpart?, Table.keptColumns, List.find?_filter]
    congr 1
    funext p
    cases hp : p.1.hasName name with
    | false => simp
    | true => simp [hdrop _ _ hp, hname]
  rw [hkept]
  conv_lhs => rw [← List.zipIdx_map_fst 0 (t.keptColumns drop), List.find?_map]
  rfl

theorem isNone_counterpart?_without (hdrop : IgnoresCase drop) (hname : drop name = false) :
    (counterpart? (t.without drop) name).isNone = (counterpart? t name).isNone := by
  rw [counterpart?_without, counterpart?_eq_kept hdrop hname, Option.isNone_map, Option.isNone_map]

end Counterparts

namespace Comparer

variable {c : Comparer} {e : Exclusions} {expected actual : Table} {drop : String → Bool}

theorem map_compareCell_without (hdrop : IgnoresCase drop) {x : (Column × Nat) × Nat}
    (hx : x ∈ (expected.keptColumns drop).zipIdx) (r : Registry) (row : Nat) :
    (pairFor? r (expected.without drop) (actual.without drop) (x.1.1, x.2)).map
        (compareCell (expected.without drop) (actual.without drop) row) =
      (pairFor? r expected actual x.1).map (compareCell expected actual row) := by
  have hname : drop x.1.1.name = false :=
    (Table.kept_of_mem (List.fst_mem_of_mem_zipIdx hx)).2
  unfold pairFor?
  rw [counterpart?_without, counterpart?_eq_kept hdrop hname]
  cases hy : (actual.keptColumns drop).zipIdx.find? fun y => y.1.1.hasName x.1.1.name with
  | none => rfl
  | some y =>
    have hexpected := Table.value_without hx row
    have hactual := Table.value_without (List.mem_of_find?_eq_some hy) row
    simp only [Option.map_some, compareCell, readCell, hexpected, hactual]
    rfl

theorem participants_eq_kept (he : e.excludes expected.name = drop) :
    participants e expected = (expected.keptColumns drop).zipIdx.map (·.1) := by
  rw [List.zipIdx_map_fst, participants, he]
  rfl

theorem participants_without :
    participants {} (expected.without drop) =
      (expected.keptColumns drop).zipIdx.map fun x => (x.1.1, x.2) := by
  have hall : ∀ p ∈ (expected.without drop).columns.zipIdx,
      (!Exclusions.excludes {} (expected.without drop).name p.1.name) = true := fun _ _ => rfl
  rw [participants, List.filter_eq_self.2 hall, Table.columns_without, List.zipIdx_map]
  rfl

/-- In each row the pairs of columns give the same results one by one. -/
theorem map_pairs_without (c : Comparer) (actual : Table) (hdrop : IgnoresCase drop)
    (he : e.excludes expected.name = drop) (row : Nat) :
    (pairsOf (c.pairColumns {} (expected.without drop) (actual.without drop))).map
        (compareCell (expected.without drop) (actual.without drop) row) =
      (pairsOf (c.pairColumns e expected actual)).map (compareCell expected actual row) := by
  rw [pairsOf_pairColumns, pairsOf_pairColumns, participants_without, participants_eq_kept he,
    List.filterMap_map, List.filterMap_map, List.map_filterMap, List.map_filterMap]
  exact List.filterMap_congr fun x hx => map_compareCell_without hdrop hx c.registry row

theorem missing_without (hdrop : IgnoresCase drop) (he : e.excludes expected.name = drop) :
    missingOf (c.pairColumns {} (expected.without drop) (actual.without drop)) =
      missingOf (c.pairColumns e expected actual) := by
  rw [missingOf_pairColumns, missingOf_pairColumns, participants_without, participants_eq_kept he,
    List.filter_map, List.filter_map, List.map_map, List.map_map]
  have hfilter : ∀ x ∈ (expected.keptColumns drop).zipIdx,
      (counterpart? (actual.without drop) x.1.1.name).isNone =
        (counterpart? actual x.1.1.name).isNone := by
    intro x hx
    have hname := (Table.kept_of_mem (List.fst_mem_of_mem_zipIdx hx)).2
    exact isNone_counterpart?_without hdrop hname
  exact congrArg (List.map fun x => Mismatch.missingColumn expected.name x.1.1.name)
    (List.filter_congr hfilter)

theorem unexpected_without (hdrop : IgnoresCase drop) (he : e.excludes expected.name = drop) :
    unexpectedColumns {} (expected.without drop) (actual.without drop) =
      unexpectedColumns e expected actual := by
  rw [unexpectedColumns_eq, unexpectedColumns_eq, unexpectedEntries, unexpectedEntries,
    Table.columns_without_eq_filter, List.filter_filter, he]
  congr 1
  refine List.filter_congr fun k _ => ?_
  cases hk : drop k.name with
  | true => simp
  | false =>
    rw [isNone_counterpart?_without hdrop hk]
    simp [Exclusions.excludes]

/-- A comparison does not see the columns that it excludes. -/
theorem compareTables_eq_without (hdrop : IgnoresCase drop)
    (he : e.excludes expected.name = drop) :
    c.compareTables e expected actual =
      c.compareTables {} (expected.without drop) (actual.without drop) := by
  have hrowCounts : rowCounts (expected.without drop) (actual.without drop) =
      rowCounts expected actual := by
    rw [rowCounts, rowCounts, Table.rowCount_without, Table.rowCount_without]
    rfl
  symm
  apply compareTables_congr
  · exact missing_without hdrop he
  · exact fun _ => unexpected_without hdrop he
  · exact hrowCounts
  · rw [Table.rowCount_without, Table.rowCount_without]
  · simpa only [List.length_map] using congrArg List.length (map_pairs_without c actual hdrop he 0)
  · exact fun row _ => map_pairs_without c actual hdrop he row

end Comparer

/-! ## What filters and ignored names exclude -/

theorem Wildcard.fits_congr {a b : String} (pattern : String)
    (h : a.toList.map Char.toLower = b.toList.map Char.toLower) :
    fits pattern a = fits pattern b := by
  rw [fits, fits, toLower_eq_of_map_toLower h]

/-- Pattern filters do not tell names apart that differ in the case of ASCII letters. -/
theorem ColumnRules.accepts_congr (r : ColumnRules) (table : String) {a b : String}
    (h : sameName a b = true) : r.accepts table a = r.accepts table b := by
  have hfold : a.toList.map Char.toLower = b.toList.map Char.toLower := sameName_iff.1 h
  have hdescribes : ∀ pattern, describes pattern table a = describes pattern table b := by
    intro pattern
    unfold describes subject
    split
    · exact Wildcard.fits_congr pattern (by simp [hfold])
    · exact Wildcard.fits_congr pattern hfold
  simp only [accepts, hdescribes]

/-- The exclusions of a list of pattern filters and a list of ignored names. -/
def Exclusions.ofRules (rules : List ColumnRules) (ignored : List String) : Exclusions where
  filters := rules.map ColumnRules.accepts
  ignored := ignored

theorem Exclusions.ignoresCase_ofRules (rules : List ColumnRules) (ignored : List String)
    (table : String) : IgnoresCase ((ofRules rules ignored).excludes table) := by
  intro a b h
  have hignored : ∀ name, sameName name a = sameName name b := sameName_congr h
  simp only [excludes, ofRules, List.any_map, Function.comp_def, hignored,
    ColumnRules.accepts_congr _ table h]

namespace Comparer

/-- **Excluded columns are invisible.** A comparison gives what the tables without the excluded
columns give without exclusions, and so it gives the same for tables that differ in excluded columns
only. -/
theorem compareTables_without (c : Comparer) (rules : List ColumnRules) (ignored : List String)
    (expected actual : Table) :
    let e := Exclusions.ofRules rules ignored
    let drop := e.excludes expected.name
    c.compareTables e expected actual =
        c.compareTables {} (expected.without drop) (actual.without drop) ∧
      ∀ expected' actual' : Table, expected'.without drop = expected.without drop →
        actual'.without drop = actual.without drop →
        c.compareTables e expected' actual' = c.compareTables e expected actual := by
  intro e drop
  have hdrop : IgnoresCase drop := Exclusions.ignoresCase_ofRules rules ignored expected.name
  refine ⟨compareTables_eq_without hdrop rfl, fun expected' actual' hexpected hactual => ?_⟩
  have hname : (expected'.without drop).name = expected.name := by
    rw [hexpected]
    rfl
  have hexcludes : e.excludes expected'.name = drop := congrArg e.excludes hname
  rw [compareTables_eq_without hdrop hexcludes, hexpected, hactual,
    ← compareTables_eq_without hdrop rfl]

end Comparer

/-- One order with the time at which it was stored. -/
def storedOrder (stored : Value) : Table where
  metadata :=
    { name := "orders"
      columns := [⟨"id", .plain .integer, .no⟩, ⟨"stored", .plain .timestamp, .no⟩] }
  rows := [[.int 1, stored]]
  width_eq := by simp

theorem storedOrder_without {drop : String → Bool} (h : drop "stored" = true) (v w : Value) :
    (storedOrder v).without drop = (storedOrder w).without drop := by
  cases hid : drop "id" <;> simp [Table.without, Table.keptColumns, Table.columns, Table.pick,
    storedOrder, List.zipIdx_cons, h, hid]

/-- A time that cannot be converted ends a comparison, unless its column is excluded. -/
theorem storedOrder_time_not_seen :
    let c : Comparer := { registry := {}, mode := .strict }
    let e := Exclusions.ofRules [{ excluded := ["Orders.sto*"] }] ["STORED"]
    c.compareTables {} (storedOrder (.int 0)) (storedOrder (.text "soon")) =
        .error (.conversion "orders" 0 "stored" ⟨.text "soon", "TIMESTAMP", .timestampText⟩) ∧
      c.compareTables e (storedOrder (.int 0)) (storedOrder (.text "soon")) =
        c.compareTables e (storedOrder (.int 0)) (storedOrder (.int 0)) := by
  intro c e
  have hstored : e.excludes "orders" "stored" = true := by
    rw [Exclusions.excludes, Bool.or_eq_true]
    exact .inl (by decide)
  refine ⟨by rfl, ?_⟩
  exact (Comparer.compareTables_without c _ _ (storedOrder (.int 0)) (storedOrder (.int 0))).2 _ _
    rfl (storedOrder_without hstored _ _)

end TableDiff
