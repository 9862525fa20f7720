import TableDiff.Proofs.Value.Equality

/-!
# Values in order

The order of values is a total preorder, in which null comes before all other values and values of
different kinds come in the order of the kinds. Values without an order between them are the ones
that are the same, floating point numbers apart, which have to agree in all their bits
(`compare_totalPreorder`). So decimals of the same number and zoned timestamps of the same instant
stand side by side, whatever their scale and their offset.
-/

open Std

namespace TableDiff.Value

open TableDiff.Calendar TableDiff.Numeric

theorem compare_float_eq_iff {x y : Binary64} : (float x).compare (float y) = .eq ↔ x = y := by
  show x.totalCompare y = .eq ↔ x = y
  exact LawfulEqCmp.compare_eq_iff_eq

theorem compare_decimal_eq_iff {a b : Decimal} :
    (decimal a).compare (decimal b) = .eq ↔ a.toRat = b.toRat := by
  show a.compare b = .eq ↔ _
  rw [Decimal.compare_eq_cmp, cmp_eq_eq_iff]

theorem compare_zoned_eq_iff {a b : ZonedTimestamp} :
    (zoned a).compare (zoned b) = .eq ↔ a.utc = b.utc := by
  show a.utc.compare b.utc = .eq ↔ a.utc = b.utc
  exact LawfulEqCmp.compare_eq_iff_eq

/-- **The order of values is a total preorder by kinds**, with null first. It leaves two values side
by side exactly if they are the same, or are floating point numbers with the same bits. -/
theorem compare_totalPreorder :
    (∀ a : Value, a.compare a = .eq) ∧
    (∀ a b : Value, b.compare a = (a.compare b).swap) ∧
    (∀ a b c : Value, (a.compare b).isLE = true → (b.compare c).isLE = true →
      (a.compare c).isLE = true) ∧
    (∀ a : Value, a.isNull = false → null.compare a = .lt) ∧
    (∀ a b : Value, a.kind ≠ b.kind → a.compare b = Ord.compare a.kind.rank b.kind.rank) ∧
    (∀ a b : Value, a.kind ≠ .float → (a.compare b = .eq ↔ a.same b = true)) ∧
    (∀ x y, (float x).compare (float y) = .eq ↔ x = y) ∧
    (∀ a b, (decimal a).compare (decimal b) = .eq ↔ a.toRat = b.toRat) ∧
    (∀ a b, (zoned a).compare (zoned b) = .eq ↔ a.utc = b.utc) := by
  refine ⟨?_, ?_, ?_, ?_, ?_, ?_, ?_, ?_, ?_⟩
  · intro a
    exact ReflCmp.compare_self
  · intro a b
    exact OrientedCmp.eq_swap
  · intro a b c hab hbc
    exact TransCmp.isLE_trans hab hbc
  · intro a ha
    exact (compare_null_of_nonNull ha).1
  · intro a b hkind
    exact compare_of_kind_ne hkind
  · intro a b ha
    exact (same_iff_compare_eq ha).symm
  · intro x y
    exact compare_float_eq_iff
  · intro a b
    exact compare_decimal_eq_iff
  · intro a b
    exact compare_zoned_eq_iff

end TableDiff.Value
