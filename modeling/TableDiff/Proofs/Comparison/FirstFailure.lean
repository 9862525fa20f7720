import Mathlib.Data.Prod.Lex
import TableDiff.Proofs.Comparison.Failing

/-!
# The first cell that cannot be compared

A comparison of two tables reads no cell beyond their rows and columns, however the tables were
made, so the only reason for it to fail is a cell about which the type of its column cannot decide
(`FailsAt`). Cells are compared row by row and within a row in the order of the expected columns;
the error is about the first cell that fails in this order, whether or not cells before it differ
(`compareTables_fails_at_first`).

The places of a comparison are listed in strictly ascending order (`pairwise_places`), so what
stands before a place in the list is what is less (`exists_split_iff_of_pairwise`).
-/

namespace TableDiff

/-- In a list in strictly ascending order the elements before one are those that are less. -/
theorem exists_split_iff_of_pairwise {α β : Type} [Preorder β] {key : α → β} {p q : α → Prop}
    {xs : List α} (hxs : xs.Pairwise fun x y => key x < key y) :
    (∃ before x after, xs = before ++ x :: after ∧ p x ∧ ∀ y ∈ before, q y) ↔
      ∃ x ∈ xs, p x ∧ ∀ y ∈ xs, key y < key x → q y := by
  constructor
  · rintro ⟨before, x, after, rfl, hx, hbefore⟩
    refine ⟨x, List.mem_append_right _ List.mem_cons_self, hx, fun y hy hlt => ?_⟩
    have hafter := (List.pairwise_cons.1 (List.pairwise_append.1 hxs).2.1).1
    rcases List.mem_append.1 hy with hy | hy
    · exact hbefore y hy
    rcases List.mem_cons.1 hy with rfl | hy
    · exact absurd hlt (lt_irrefl _)
    · exact absurd hlt (lt_asymm (hafter y hy))
  · rintro ⟨x, hx, hp, hless⟩
    obtain ⟨before, after, rfl⟩ := List.append_of_mem hx
    refine ⟨before, x, after, rfl, hp, fun y hy => hless y (List.mem_append_left _ hy) ?_⟩
    exact (List.pairwise_append.1 hxs).2.2 y hy x List.mem_cons_self

/-! ## The order of places -/

theorem pairwise_participants (e : Exclusions) (t : Table) :
    (participants e t).Pairwise fun p q => p.2 < q.2 := by
  refine List.Pairwise.filter _ ?_
  rw [← List.pairwise_map, List.zipIdx_map_snd]
  exact List.pairwise_lt_range'

namespace Comparer

variable {c : Comparer} {e : Exclusions} {expected actual : Table}

theorem pairwise_pairs (c : Comparer) (e : Exclusions) (expected actual : Table) :
    (c.pairs e expected actual).Pairwise fun a b => a.expectedIndex < b.expectedIndex := by
  refine (pairwise_participants e expected).filterMap _ fun p q hpq a ha b hb => ?_
  obtain ⟨_, -, rfl⟩ := Option.map_eq_some_iff.1 ha
  obtain ⟨_, -, rfl⟩ := Option.map_eq_some_iff.1 hb
  exact hpq

/-- The places of a comparison stand in the order of rows, then of expected columns. -/
theorem pairwise_places (c : Comparer) (e : Exclusions) (expected actual : Table) :
    (c.places e expected actual).Pairwise fun a b =>
      toLex (a.1, a.2.expectedIndex) < toLex (b.1, b.2.expectedIndex) := by
  unfold places cellPlaces
  rw [List.pairwise_flatMap]
  refine ⟨fun row _ => ?_, List.pairwise_lt_range.imp fun hrows a ha b hb => ?_⟩
  · rw [List.pairwise_map]
    refine (pairwise_pairs c e expected actual).imp fun {a b} h => ?_
    exact Prod.Lex.toLex_lt_toLex.2 (.inr ⟨rfl, h⟩)
  · obtain ⟨_, -, rfl⟩ := List.mem_map.1 ha
    obtain ⟨_, -, rfl⟩ := List.mem_map.1 hb
    exact Prod.Lex.toLex_lt_toLex.2 (.inl hrows)

theorem mem_places_iff {q : Nat × ColumnPair} : q ∈ c.places e expected actual ↔
    ∃ row < min expected.rowCount actual.rowCount, ∃ p ∈ participants e expected,
      ∃ pair, pairFor? c.registry expected actual p = some pair ∧ q = (row, pair) := by
  simp only [places, cellPlaces, pairs, List.mem_flatMap, List.mem_range, List.mem_map,
    List.mem_filterMap]
  constructor
  · rintro ⟨row, hrow, pair, ⟨p, hp, hpair⟩, rfl⟩
    exact ⟨row, hrow, p, hp, pair, hpair, rfl⟩
  · rintro ⟨row, hrow, p, hp, pair, hpair, rfl⟩
    exact ⟨row, hrow, pair, ⟨p, hp, hpair⟩, rfl⟩

theorem eq_of_pairFor? {r : Registry} {p : Column × Nat} {pair : ColumnPair}
    (h : pairFor? r expected actual p = some pair) :
    pair.name = p.1.name ∧ pair.expectedIndex = p.2 := by
  obtain ⟨_, -, rfl⟩ := Option.map_eq_some_iff.1 h
  exact ⟨rfl, rfl⟩

end Comparer

/-! ## Cells that cannot be compared -/

/-- The type of an expected column and its counterpart cannot decide about the two cells in a
row. -/
def FailsAt (r : Registry) (expected actual : Table) (row : Nat) (p : Column × Nat)
    (cause : ConversionError) : Prop :=
  ∃ found index a b, counterpart? actual p.1.name = some (found, index) ∧
    expected.value row p.2 = .ok a ∧ actual.value row index = .ok b ∧
    (typeFor r expected.name p.1 found).agree a b = .error cause

namespace Comparer

variable {c : Comparer} {e : Exclusions} {expected actual : Table} {row : Nat} {p : Column × Nat}

/-- The two cells of a compared column stand in all rows that both tables have. -/
theorem cells_of_counterpart? (hrow : row < min expected.rowCount actual.rowCount)
    (hp : p ∈ participants e expected) {found : Column} {index : Nat}
    (hq : counterpart? actual p.1.name = some (found, index)) :
    expected.value row p.2 = .ok (expected.cellAt row p.2) ∧
      actual.value row index = .ok (actual.cellAt row index) :=
  ⟨Table.value_eq_cellAt (Nat.lt_min.1 hrow).1 (lt_of_mem_participants hp),
    Table.value_eq_cellAt (Nat.lt_min.1 hrow).2 (lt_of_counterpart? hq)⟩

theorem failsAt_iff (hrow : row < min expected.rowCount actual.rowCount)
    (hp : p ∈ participants e expected) {cause : ConversionError} :
    FailsAt c.registry expected actual row p cause ↔
      ∃ pair, pairFor? c.registry expected actual p = some pair ∧
        verdictAt expected actual (row, pair) = .error cause := by
  constructor
  · rintro ⟨found, index, a, b, hq, ha, hb, hfails⟩
    obtain ⟨hcell, hcell'⟩ := cells_of_counterpart? hrow hp hq
    rw [hcell] at ha
    rw [hcell'] at hb
    cases ha
    cases hb
    exact ⟨_, Option.map_eq_some_iff.2 ⟨_, hq, rfl⟩, hfails⟩
  · rintro ⟨pair, hpair, hfails⟩
    obtain ⟨⟨found, index⟩, hq, rfl⟩ := Option.map_eq_some_iff.1 hpair
    obtain ⟨hcell, hcell'⟩ := cells_of_counterpart? hrow hp hq
    exact ⟨found, index, _, _, hq, hcell, hcell', hfails⟩

theorem not_failsAt_of_decided {r : Registry} (h : Decided r expected actual row p)
    (cause : ConversionError) : ¬ FailsAt r expected actual row p cause := by
  rintro ⟨found, index, a, b, hq, ha, hb, hfails⟩
  obtain ⟨a', b', verdict, ha', hb', hv⟩ := h found index hq
  rw [ha] at ha'
  rw [hb] at hb'
  cases ha'
  cases hb'
  rw [hfails] at hv
  cases hv

/-- The error of a comparison is that of the least place without a verdict. -/
theorem compareTables_eq_error_iff {err : DiffError} :
    c.compareTables e expected actual = .error err ↔
      ∃ q ∈ c.places e expected actual,
        (∃ cause, verdictAt expected actual q = .error cause ∧
          err = .conversion expected.name q.1 q.2.name cause) ∧
        ∀ q' ∈ c.places e expected actual,
          toLex (q'.1, q'.2.expectedIndex) < toLex (q.1, q.2.expectedIndex) →
            ∃ verdict, verdictAt expected actual q' = .ok verdict := by
  rw [compareTables_eq_error, ← exists_split_iff_of_pairwise (pairwise_places c e expected actual)]
  constructor
  · rintro ⟨before, q, after, cause, hsplit, hv, herr, hbefore⟩
    exact ⟨before, q, after, hsplit, ⟨cause, hv, herr⟩, hbefore⟩
  · rintro ⟨before, q, after, hsplit, ⟨cause, hv, herr⟩, hbefore⟩
    exact ⟨before, q, after, cause, hsplit, hv, herr, hbefore⟩

/-- The first cell that fails is the least place without a verdict. -/
theorem compareTables_eq_error_of_first {err : DiffError} :
    c.compareTables e expected actual = .error err ↔
      ∃ row < min expected.rowCount actual.rowCount, ∃ p ∈ participants e expected, ∃ cause,
        FailsAt c.registry expected actual row p cause ∧
        err = .conversion expected.name row p.1.name cause ∧
        ∀ row' < min expected.rowCount actual.rowCount, ∀ p' ∈ participants e expected,
          row' < row ∨ row' = row ∧ p'.2 < p.2 →
            ∀ cause', ¬ FailsAt c.registry expected actual row' p' cause' := by
  rw [compareTables_eq_error_iff]
  constructor
  · rintro ⟨q, hq, ⟨cause, hv, rfl⟩, hless⟩
    obtain ⟨row, hrow, p, hp, pair, hpair, rfl⟩ := mem_places_iff.1 hq
    obtain ⟨hname, hindex⟩ := eq_of_pairFor? hpair
    refine ⟨row, hrow, p, hp, cause, (failsAt_iff hrow hp).2 ⟨pair, hpair, hv⟩,
      by rw [hname], fun row' hrow' p' hp' hlt cause' hfails => ?_⟩
    obtain ⟨pair', hpair', hv'⟩ := (failsAt_iff hrow' hp').1 hfails
    obtain ⟨-, hindex'⟩ := eq_of_pairFor? hpair'
    obtain ⟨verdict, hok⟩ := hless (row', pair')
      (mem_places_iff.2 ⟨row', hrow', p', hp', pair', hpair', rfl⟩)
      (Prod.Lex.toLex_lt_toLex.2 (by rwa [hindex, hindex']))
    rw [hv'] at hok
    cases hok
  · rintro ⟨row, hrow, p, hp, cause, hfails, rfl, hless⟩
    obtain ⟨pair, hpair, hv⟩ := (failsAt_iff hrow hp).1 hfails
    obtain ⟨hname, hindex⟩ := eq_of_pairFor? hpair
    refine ⟨(row, pair), mem_places_iff.2 ⟨row, hrow, p, hp, pair, hpair, rfl⟩,
      ⟨cause, hv, by rw [hname]⟩, fun q' hq' hlt => ?_⟩
    obtain ⟨row', hrow', p', hp', pair', hpair', rfl⟩ := mem_places_iff.1 hq'
    obtain ⟨-, hindex'⟩ := eq_of_pairFor? hpair'
    have hlt := Prod.Lex.toLex_lt_toLex.1 hlt
    rw [hindex, hindex'] at hlt
    cases hv' : verdictAt expected actual (row', pair') with
    | ok verdict => exact ⟨verdict, rfl⟩
    | error cause' =>
      exact absurd ((failsAt_iff hrow' hp').2 ⟨pair', hpair', hv'⟩)
        (hless row' hrow' p' hp' hlt cause')

/-- **A comparison of two tables fails only for a cell that cannot be compared.** The cells that it
reads exist, so it never fails for reading a table; it fails if and only if some type cannot decide
about two cells, and its error names the first such place. -/
theorem compareTables_fails_at_first (c : Comparer) (e : Exclusions) (expected actual : Table) :
    (∀ cause, c.compareTables e expected actual ≠ .error (.dataSet cause)) ∧
    (∀ row < min expected.rowCount actual.rowCount, ∀ p ∈ participants e expected,
      ∀ found index, counterpart? actual p.1.name = some (found, index) →
        ∃ a b, expected.value row p.2 = .ok a ∧ actual.value row index = .ok b) ∧
    ((∃ err, c.compareTables e expected actual = .error err) ↔
      ∃ row < min expected.rowCount actual.rowCount, ∃ p ∈ participants e expected, ∃ cause,
        FailsAt c.registry expected actual row p cause) ∧
    ∀ err, c.compareTables e expected actual = .error err ↔
      ∃ row < min expected.rowCount actual.rowCount, ∃ p ∈ participants e expected, ∃ cause,
        FailsAt c.registry expected actual row p cause ∧
        err = .conversion expected.name row p.1.name cause ∧
        ∀ row' < min expected.rowCount actual.rowCount, ∀ p' ∈ participants e expected,
          row' < row ∨ row' = row ∧ p'.2 < p.2 →
            ∀ cause', ¬ FailsAt c.registry expected actual row' p' cause' := by
  refine ⟨fun cause h => ?_, fun row hrow p hp found index hq => ?_, ⟨?_, ?_⟩,
    fun err => compareTables_eq_error_of_first⟩
  · obtain ⟨row, _, p, _, cause', _, herr, -⟩ := compareTables_eq_error_of_first.1 h
    cases herr
  · exact ⟨_, _, cells_of_counterpart? hrow hp hq⟩
  · rintro ⟨err, h⟩
    obtain ⟨row, hrow, p, hp, cause, hfails, -⟩ := compareTables_eq_error_of_first.1 h
    exact ⟨row, hrow, p, hp, cause, hfails⟩
  · rintro ⟨row, hrow, p, hp, cause, hfails⟩
    cases h : c.compareTables e expected actual with
    | error err => exact ⟨err, rfl⟩
    | ok report =>
      have hdecided := (compareTables_eq_ok.1 h).1 row hrow p hp
      exact absurd hfails (not_failsAt_of_decided hdecided cause)

end Comparer

end TableDiff
