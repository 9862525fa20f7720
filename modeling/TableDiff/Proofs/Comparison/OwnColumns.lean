import Mathlib.Data.List.Pairwise
import TableDiff.Proofs.Comparison.Tables
import TableDiff.Proofs.Conversion.Verdict
import TableDiff.Proofs.DataSet.Lookup
import TableDiff.Proofs.Registry.Tolerances

/-!
# Columns that are compared with themselves

Where two tables have the same columns, and these have pairwise different names, every column is
its own counterpart (`counterpart?_self`). Its cells are compared by its own type or, if this is
exactly numeric, with the tolerance that is registered for it (`typeFor_self`).
-/

namespace TableDiff

open TableDiff.Text

/-- No two columns of a table have the same name. -/
def DistinctColumns (t : Table) : Prop :=
  t.columns.Pairwise fun a b => a.hasName b.name = false

/-- A column takes its own type against itself, or the registered tolerance for it. -/
theorem typeFor_self (r : Registry) (table : String) (k : Column) :
    typeFor r table k k = k.type ∨
      k.type.ComparesNumbers ∧ ∃ base delta, typeFor r table k k = .tolerant base delta ∧
        r.tolerances.delta? table k.name = some delta := by
  have hown : (if k.type.dataType = .unknown then k.type else k.type) = k.type := ite_self _
  unfold typeFor
  rw [hown]
  split
  · rename_i delta htype hdelta
    refine .inr ⟨?_, _, delta, rfl, hdelta⟩
    rw [htype]
    rfl
  · rename_i delta htype hdelta
    refine .inr ⟨?_, _, delta, rfl, hdelta⟩
    rw [htype]
    rfl
  · exact .inl rfl

variable {r : Registry} {table : String} {k : Column}

theorem typeFor_self_ne_unknown (hk : k.type ≠ .unknown) : typeFor r table k k ≠ .unknown := by
  rcases typeFor_self r table k with h | ⟨-, base, delta, h, -⟩
  · rw [h]
    exact hk
  · rw [h]
    exact fun h => nomatch h

theorem typeFor_self_of_unknown (hk : k.type = .unknown) : typeFor r table k k = .unknown := by
  rcases typeFor_self r table k with h | ⟨hnumbers, -⟩
  · rw [h, hk]
  · rw [hk] at hnumbers
    cases hnumbers

theorem slack_typeFor_self_nonneg (hr : r.tolerances.Registered) (hk : 0 ≤ k.type.slack) :
    0 ≤ (typeFor r table k k).slack := by
  rcases typeFor_self r table k with h | ⟨-, base, delta, h, hdelta⟩
  · rw [h]
    exact hk
  · rw [h]
    exact hr.delta?_nonneg hdelta

variable {t : Table} {e : Exclusions}

/-- Some column has the name of a column. -/
theorem isSome_counterpart?_self (hk : k ∈ t.columns) :
    (counterpart? t k.name).isSome = true := by
  rw [counterpart?, List.find?_isSome]
  have hmem := hk
  rw [← List.zipIdx_map_fst 0 t.columns] at hmem
  obtain ⟨p, hp, rfl⟩ := List.mem_map.1 hmem
  exact ⟨p, hp, sameName_refl p.1.name⟩

theorem counterpart?_self (hd : DistinctColumns t) {p : Column × Nat}
    (hp : p ∈ t.columns.zipIdx) : counterpart? t p.1.name = some p := by
  have hpairwise : t.columns.zipIdx.Pairwise fun a b => a.1.hasName b.1.name = false := by
    have h := hd
    rw [DistinctColumns, ← List.zipIdx_map_fst 0 t.columns, List.pairwise_map] at h
    exact h
  exact find?_of_pairwise (p := fun a b : Column × Nat => a.1.hasName b.1.name) hpairwise
    (sameName_refl p.1.name) hp

/-- No column of a table is missing in a table of the same columns. -/
theorem missingEntries_self (hd : DistinctColumns t) : missingEntries e t t = [] := by
  unfold missingEntries
  rw [List.map_eq_nil_iff, List.filter_eq_nil_iff]
  intro p hp hnone
  rw [counterpart?_self hd (List.mem_filter.1 hp).1] at hnone
  cases hnone

/-- No column of a table of the same columns is unexpected. -/
theorem unexpectedEntries_of_columns {t' : Table} (h : t'.columns = t.columns) :
    unexpectedEntries e t t' = [] := by
  unfold unexpectedEntries
  rw [List.map_eq_nil_iff, List.filter_eq_nil_iff]
  intro k hk hnone
  rw [h] at hk
  have hsome := isSome_counterpart?_self hk
  rw [Bool.and_eq_true, Option.isNone_iff_eq_none] at hnone
  rw [hnone.1] at hsome
  cases hsome

end TableDiff
