import Mathlib.Data.List.Forall2
import TableDiff.Proofs.Comparison.Tables

/-!
# Comparisons that pass

Two tables pass a comparison without exclusions that is not strict exactly where every expected
column has a counterpart and the rows agree one by one under all of these pairs of columns
(`passes_iff`); a strict one must find no unexpected column besides (`passes_iff_of_mode`). The
pairs depend on the metadata of the tables only, so rows can be exchanged for others.
-/

namespace TableDiff

/-- The cells of two rows agree under every expected column and its counterpart. -/
def RowsAgree (r : Registry) (expected actual : Table) (e a : List Value) : Prop :=
  ∀ p ∈ participants {} expected, ∀ found index,
    counterpart? actual p.1.name = some (found, index) →
      (typeFor r expected.name p.1 found).agree (e.getD p.2 .null) (a.getD index .null) = .ok true

/-! ## Columns in range -/

theorem lt_of_mem_participants {e : Exclusions} {t : Table} {p : Column × Nat}
    (h : p ∈ participants e t) : p.2 < t.columns.length := by
  have hp := List.snd_lt_of_mem_zipIdx (List.mem_filter.1 h).1
  omega

theorem counterpart?_eq_some {t : Table} {name : String} {found : Column} {index : Nat}
    (h : counterpart? t name = some (found, index)) :
    (found, index) ∈ t.columns.zipIdx ∧ found.hasName name = true := by
  unfold counterpart? at h
  exact ⟨List.mem_of_find?_eq_some h, by simpa using List.find?_some h⟩

theorem lt_of_counterpart? {t : Table} {name : String} {found : Column} {index : Nat}
    (h : counterpart? t name = some (found, index)) : index < t.columns.length := by
  have hp := List.snd_lt_of_mem_zipIdx (counterpart?_eq_some h).1
  omega

namespace Comparer

variable {c : Comparer} {expected actual : Table}

/-- The comparison of two tables without exclusions finds nothing. -/
def Passes (c : Comparer) (expected actual : Table) : Prop :=
  ∃ report, c.compareTables {} expected actual = .ok report ∧ report.passed = true

theorem cellDifference?_eq_none_iff {r : Registry} {row : Nat} {p : Column × Nat}
    {e a : List Value} (hp : p ∈ participants {} expected) (he : expected.rows[row]? = some e)
    (ha : actual.rows[row]? = some a) :
    (Decided r expected actual row p ∧ cellDifference? r expected actual row p = none) ↔
      ∀ found index, counterpart? actual p.1.name = some (found, index) →
        (typeFor r expected.name p.1 found).agree (e.getD p.2 .null) (a.getD index .null) =
          .ok true := by
  have hleft := Table.value_eq_ok he (lt_of_mem_participants hp)
  constructor
  · rintro ⟨hd, hnone⟩ found index hq
    obtain ⟨a, b, verdict, hva, hvb, hv⟩ := hd found index hq
    have hright := Table.value_eq_ok ha (lt_of_counterpart? hq)
    rw [hleft] at hva
    rw [hright] at hvb
    cases hva
    cases hvb
    rw [cellDifference?_of_verdict hq hleft hright hv] at hnone
    cases verdict with
    | true => exact hv
    | false => cases hnone
  · intro h
    cases hq : counterpart? actual p.1.name with
    | none =>
      refine ⟨fun found index hf => ?_, by simp [cellDifference?, hq]⟩
      rw [hq] at hf
      cases hf
    | some q =>
      obtain ⟨found, index⟩ := q
      have hright := Table.value_eq_ok ha (lt_of_counterpart? hq)
      have hv := h found index hq
      refine ⟨fun found' index' hf => ?_, cellDifference?_of_verdict hq hleft hright hv⟩
      rw [hq] at hf
      cases hf
      exact ⟨_, _, true, hleft, hright, hv⟩

/-- A comparison passes where a strict one finds nothing unexpected, all expected columns are found
and the rows agree one by one. -/
theorem passes_iff_of_mode :
    c.Passes expected actual ↔
      (c.mode = .strict → unexpectedEntries {} expected actual = []) ∧
        (∀ p ∈ participants {} expected, (counterpart? actual p.1.name).isSome = true) ∧
        List.Forall₂ (RowsAgree c.registry expected actual) expected.rows actual.rows := by
  have hpassed : c.Passes expected actual ↔
      (∀ row < min expected.rowCount actual.rowCount, ∀ p ∈ participants {} expected,
        Decided c.registry expected actual row p) ∧ tableEntries c {} expected actual = [] := by
    unfold Passes
    simp only [compareTables_eq_ok, Report.passed]
    constructor
    · rintro ⟨-, ⟨hd, rfl⟩, hempty⟩
      exact ⟨hd, by simpa using hempty⟩
    · rintro ⟨hd, hempty⟩
      exact ⟨_, ⟨hd, rfl⟩, by simp [hempty]⟩
  have hentries : tableEntries c {} expected actual = [] ↔
      (∀ p ∈ participants {} expected, (counterpart? actual p.1.name).isSome = true) ∧
        (c.mode = .strict → unexpectedEntries {} expected actual = []) ∧
        expected.rowCount = actual.rowCount ∧
        ∀ row < min expected.rowCount actual.rowCount, ∀ p ∈ participants {} expected,
          cellDifference? c.registry expected actual row p = none := by
    have hstrict : (if c.mode = .strict then unexpectedEntries {} expected actual else []) = [] ↔
        (c.mode = .strict → unexpectedEntries {} expected actual = []) := ite_eq_right_iff
    simp only [tableEntries, missingEntries, cellEntries, hstrict, List.append_eq_nil_iff,
      List.map_eq_nil_iff, List.filter_eq_nil_iff, List.flatMap_eq_nil_iff,
      List.filterMap_eq_nil_iff, List.mem_range, ite_eq_left_iff, List.cons_ne_nil, imp_false,
      not_not, and_assoc, Option.isNone_eq_false_iff, Bool.not_eq_true]
  rw [hpassed, hentries, List.forall₂_iff_get]
  constructor
  · rintro ⟨hd, hsome, hstrict, hcount, hnone⟩
    refine ⟨hstrict, hsome, hcount, fun row he ha p hp => ?_⟩
    have hrow : row < min expected.rowCount actual.rowCount := Nat.lt_min.2 ⟨he, ha⟩
    exact (cellDifference?_eq_none_iff hp (List.getElem?_eq_getElem he)
      (List.getElem?_eq_getElem ha)).1 ⟨hd row hrow p hp, hnone row hrow p hp⟩
  · rintro ⟨hstrict, hsome, hcount, hrows⟩
    have hcells : ∀ row < min expected.rowCount actual.rowCount,
        ∀ p ∈ participants {} expected, Decided c.registry expected actual row p ∧
          cellDifference? c.registry expected actual row p = none := by
      intro row hrow p hp
      obtain ⟨he, ha⟩ := Nat.lt_min.1 hrow
      exact (cellDifference?_eq_none_iff hp (List.getElem?_eq_getElem he)
        (List.getElem?_eq_getElem ha)).2 (hrows row he ha p hp)
    exact ⟨fun row hrow p hp => (hcells row hrow p hp).1, hsome, hstrict, hcount,
      fun row hrow p hp => (hcells row hrow p hp).2⟩

/-- **A comparison passes exactly where the rows agree one by one.** -/
theorem passes_iff (hmode : c.mode = .nonStrict) :
    c.Passes expected actual ↔
      (∀ p ∈ participants {} expected, (counterpart? actual p.1.name).isSome = true) ∧
        List.Forall₂ (RowsAgree c.registry expected actual) expected.rows actual.rows := by
  have hstrict : ¬ c.mode = .strict := by simp [hmode]
  rw [passes_iff_of_mode]
  exact and_iff_right fun h => absurd h hstrict

end Comparer

end TableDiff
