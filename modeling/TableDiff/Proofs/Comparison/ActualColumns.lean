import Mathlib.Data.List.Find
import TableDiff.Proofs.Comparison.Failing
import TableDiff.Proofs.Comparison.OwnColumns

/-!
# What a comparison sees of the actual table

A comparison that is not strict looks into the actual table by the names of the expected columns
that take part, and by nothing else. Two actual tables of one number of rows that show the same
under each of these names (`SeenAlike`) are not told apart, be the outcome a report or an error
(`compareTables_sees_expected`). So it does not matter which other columns there are and where, nor
how columns of different names are arranged.
-/

namespace TableDiff

open TableDiff.Text

namespace Table

/-- The cells at a position of all rows. -/
def cellsUnder (t : Table) (index : Nat) : List Value := t.rows.map (·.getD index .null)

/-- The columns of a table in their order, each with its cells. -/
def columnCells (t : Table) : List (Column × List Value) :=
  t.columns.zipIdx.map fun p => (p.1, t.cellsUnder p.2)

variable {t : Table}

theorem getD_cellsUnder (row index : Nat) :
    (t.cellsUnder index).getD row .null = t.cellAt row index := by
  unfold cellsUnder cellAt
  simp only [List.getD_eq_getElem?_getD, List.getElem?_map]
  cases t.rows[row]? <;> rfl

theorem map_fst_columnCells : t.columnCells.map (·.1) = t.columns := by
  rw [columnCells, List.map_map]
  exact List.zipIdx_map_fst 0 t.columns

theorem find?_columnCells (name : String) :
    t.columnCells.find? (·.1.hasName name) =
      (counterpart? t name).map fun p => (p.1, t.cellsUnder p.2) := by
  rw [columnCells, List.find?_map]
  rfl

/-- At most one column has a name, if columns have different names. -/
theorem find?_columnCells_of_mem (hd : DistinctColumns t) {name : String}
    {k : Column × List Value} (hk : k ∈ t.columnCells) (hname : k.1.hasName name = true) :
    t.columnCells.find? (·.1.hasName name) = some k := by
  have hpairwise : t.columnCells.Pairwise fun a b => a.1.hasName b.1.name = false := by
    have h := hd
    rw [DistinctColumns, ← map_fst_columnCells, List.pairwise_map] at h
    exact h
  have hsame : ∀ a : Column × List Value, a.1.hasName k.1.name = a.1.hasName name :=
    fun a => sameName_congr hname a.1.name
  have hfound := find?_of_pairwise
    (p := fun a b : Column × List Value => a.1.hasName b.1.name) hpairwise
    (sameName_refl k.1.name) hk
  simpa only [hsame] using hfound

end Table

/-- Two tables show the same under a name: none has a column of the name, or the first such columns
have one type and the same value in every row. -/
inductive SeenAlike (t t' : Table) (name : String) : Prop
  | missing (left : counterpart? t name = none) (right : counterpart? t' name = none)
  | found {k k' : Column} {i i' : Nat} (left : counterpart? t name = some (k, i))
      (right : counterpart? t' name = some (k', i')) (type : k.type = k'.type)
      (cells : ∀ row < t.rowCount, t.cellAt row i = t'.cellAt row i')

section SeenAlike

variable {t t' : Table} {name : String}

theorem SeenAlike.isSome_eq (h : SeenAlike t t' name) :
    (counterpart? t name).isSome = (counterpart? t' name).isSome := by
  cases h with
  | missing left right => rw [left, right]
  | found left right => rw [left, right]; rfl

/-- Tables whose first columns of a name have the same cells show the same. -/
theorem seenAlike_of_find? (h : t.columnCells.find? (·.1.hasName name) =
    t'.columnCells.find? (·.1.hasName name)) : SeenAlike t t' name := by
  rw [Table.find?_columnCells, Table.find?_columnCells] at h
  cases hleft : counterpart? t name with
  | none =>
    rw [hleft, Option.map_none, eq_comm, Option.map_eq_none_iff] at h
    exact .missing hleft h
  | some p =>
    rw [hleft, Option.map_some, eq_comm, Option.map_eq_some_iff] at h
    obtain ⟨p', hright, heq⟩ := h
    obtain ⟨hcolumn, hcells⟩ := Prod.mk.inj heq
    refine .found hleft hright (congrArg Column.type hcolumn.symm) fun row _ => ?_
    rw [← Table.getD_cellsUnder, ← hcells, Table.getD_cellsUnder]

/-- Tables whose columns have different names and are the same in some order show the same. -/
theorem seenAlike_of_perm (hd : DistinctColumns t) (hperm : t.columnCells.Perm t'.columnCells)
    (name : String) : SeenAlike t t' name := by
  apply seenAlike_of_find?
  apply List.find?_eq_find?_of_perm hperm
  rintro k ⟨hk, hname⟩ k' ⟨hk', hname'⟩
  have h := Table.find?_columnCells_of_mem hd hk hname
  rw [Table.find?_columnCells_of_mem hd hk' hname'] at h
  exact (Option.some.inj h).symm

/-- Tables that have the same columns among those that a filter keeps show the same under a name
whose columns are all kept. -/
theorem seenAlike_of_filter {keep : Column → Bool}
    (hfilter : t.columnCells.filter (keep ·.1) = t'.columnCells.filter (keep ·.1))
    (hkeep : ∀ k : Column, k.hasName name = true → keep k = true) : SeenAlike t t' name := by
  apply seenAlike_of_find?
  have hboth : ∀ k : Column × List Value,
      decide (keep k.1 = true ∧ k.1.hasName name = true) = k.1.hasName name := by
    intro k
    rw [Bool.decide_and, Bool.decide_eq_true, Bool.decide_eq_true, Bool.and_eq_right_iff_imp]
    exact hkeep k.1
  have hfind : ∀ u : Table, u.columnCells.find? (·.1.hasName name) =
      (u.columnCells.filter (keep ·.1)).find? (·.1.hasName name) := by
    intro u
    simp only [List.find?_filter, hboth]
  rw [hfind t, hfind t', hfilter]

end SeenAlike

theorem typeFor_congr {r : Registry} {table : String} {expected k k' : Column}
    (h : k.type = k'.type) : typeFor r table expected k = typeFor r table expected k' := by
  rw [typeFor, typeFor, h]

namespace Comparer

variable {c : Comparer} {e : Exclusions} {expected actual actual' : Table}

/-- The cells under an expected column give the same result, be it a mismatch or an error. -/
theorem map_compareCell_of_seenAlike {r : Registry} {p : Column × Nat} {row : Nat}
    (h : SeenAlike actual actual' p.1.name) (hrow : row < actual.rowCount)
    (hrow' : row < actual'.rowCount) :
    (pairFor? r expected actual p).map (compareCell expected actual row) =
      (pairFor? r expected actual' p).map (compareCell expected actual' row) := by
  cases h with
  | missing left right => rw [pairFor?, pairFor?, left, right]; rfl
  | @found k k' i i' left right type cells =>
    have hread : readCell actual row i = readCell actual' row i' := by
      rw [readCell, readCell, Table.value_eq_cellAt hrow (lt_of_counterpart? left),
        Table.value_eq_cellAt hrow' (lt_of_counterpart? right), cells row hrow]
    rw [pairFor?, pairFor?, left, right, Option.map_some, Option.map_some, Option.map_some,
      Option.map_some, typeFor_congr type]
    simp only [compareCell, hread]

theorem compareTables_eq_of_seenAlike (hmode : c.mode = .nonStrict)
    (hrows : actual.rowCount = actual'.rowCount)
    (hseen : ∀ p ∈ participants e expected, SeenAlike actual actual' p.1.name) :
    c.compareTables e expected actual = c.compareTables e expected actual' := by
  have hsome : ∀ p ∈ participants e expected,
      (counterpart? actual p.1.name).isSome = (counterpart? actual' p.1.name).isSome :=
    fun p hp => (hseen p hp).isSome_eq
  apply compareTables_congr
  · have hnone : ∀ p ∈ participants e expected,
        (counterpart? actual p.1.name).isNone = (counterpart? actual' p.1.name).isNone := by
      intro p hp
      rw [← Option.not_isSome, ← Option.not_isSome, hsome p hp]
    rw [missingOf_pairColumns, missingOf_pairColumns, List.filter_congr hnone]
  · intro hstrict
    simp [isStrict, hmode] at hstrict
  · rw [rowCounts, rowCounts, hrows]
  · rw [hrows]
  · rw [length_pairsOf_pairColumns, length_pairsOf_pairColumns, List.filter_congr hsome]
  · intro row hrow
    have hactual : row < actual.rowCount := (Nat.lt_min.1 hrow).2
    rw [pairsOf_pairColumns, pairsOf_pairColumns, List.map_filterMap, List.map_filterMap]
    refine List.filterMap_congr fun p hp => ?_
    exact map_compareCell_of_seenAlike (hseen p hp) hactual (hrows ▸ hactual)

/-- An expected column that takes part has the name of a column. -/
def expects (e : Exclusions) (expected : Table) (k : Column) : Bool :=
  expected.columns.any fun x => !e.excludes expected.name x.name && k.hasName x.name

/-- **Only expected columns matter.** A comparison that is not strict gives the same for two actual
tables with equally many rows if they show the same under the name of every expected column that
takes part. So it does if they have the same columns of such names in the same order, whatever else
they have, and if their columns have different names and are the same in some order. -/
theorem compareTables_sees_expected (c : Comparer) (e : Exclusions)
    (expected actual actual' : Table) (hmode : c.mode = .nonStrict)
    (hrows : actual.rowCount = actual'.rowCount) :
    ((∀ x ∈ expected.columns, e.excludes expected.name x.name = false →
        SeenAlike actual actual' x.name) →
      c.compareTables e expected actual = c.compareTables e expected actual') ∧
    (actual.columnCells.filter (expects e expected ·.1) =
        actual'.columnCells.filter (expects e expected ·.1) →
      c.compareTables e expected actual = c.compareTables e expected actual') ∧
    (DistinctColumns actual → actual.columnCells.Perm actual'.columnCells →
      c.compareTables e expected actual = c.compareTables e expected actual') := by
  have hmain : (∀ x ∈ expected.columns, e.excludes expected.name x.name = false →
      SeenAlike actual actual' x.name) →
      c.compareTables e expected actual = c.compareTables e expected actual' := by
    intro hseen
    apply compareTables_eq_of_seenAlike hmode hrows
    intro p hp
    obtain ⟨hmem, htakesPart⟩ := List.mem_filter.1 hp
    exact hseen p.1 (List.fst_mem_of_mem_zipIdx hmem) (by simpa using htakesPart)
  refine ⟨hmain, fun hfilter => hmain ?_, fun hd hperm => hmain ?_⟩
  · intro x hx htakesPart
    apply seenAlike_of_filter hfilter
    intro k hname
    exact List.any_eq_true.2 ⟨x, hx, by simp [htakesPart, hname]⟩
  · intro x _ _
    exact seenAlike_of_perm hd hperm x.name

end Comparer

/-- The prices of `pricesFound` between other columns and in another order of columns. -/
def pricesMoved : Table where
  metadata :=
    { name := "found", columns := [.untyped "stock", ⟨"Id", .plain .integer, .yes⟩,
        ⟨"Price", .plain .numeric, .yes⟩, .untyped "seen"] }
  rows := [[.int 7, .int 1, .int 6, .null], [.int 7, .int 2, .int 9, .null],
    [.int 7, .int 3, .int 9, .null]]
  width_eq := by decide

/-- The table `pricesFound` from right to left. -/
def pricesMirrored : Table where
  metadata := { pricesFound.metadata with columns := pricesFound.columns.reverse }
  rows := pricesFound.rows.map List.reverse
  width_eq := by decide

/-- A price that is found to differ is so wherever its column stands. -/
theorem prices_differ_wherever :
    let c : Comparer := { pricesComparer with mode := .nonStrict }
    (∃ report, c.compareTables {} pricesWanted pricesFound = .ok report ∧
      report.mismatches ≠ []) ∧
    c.compareTables {} pricesWanted pricesFound = c.compareTables {} pricesWanted pricesMoved ∧
    c.compareTables {} pricesWanted pricesFound =
      c.compareTables {} pricesWanted pricesMirrored := by
  intro c
  have hmoved := Comparer.compareTables_sees_expected c {} pricesWanted pricesFound pricesMoved
    rfl rfl
  have hmirrored := Comparer.compareTables_sees_expected c {} pricesWanted pricesFound
    pricesMirrored rfl rfl
  refine ⟨⟨_, rfl, by decide +kernel⟩, hmoved.1 ?_, hmirrored.2.2 ?_ ?_⟩
  · intro x hx _
    simp only [pricesWanted, Table.columns, List.mem_cons, List.not_mem_nil, or_false] at hx
    rcases hx with rfl | rfl | rfl
    · exact .found rfl rfl rfl (by decide +kernel)
    · exact .found rfl rfl rfl (by decide +kernel)
    · exact .missing rfl rfl
  · show List.Pairwise _ _
    decide +kernel
  · decide +kernel

end TableDiff
