import TableDiff.Proofs.Numeric.ExactValue
import TableDiff.Value

/-!
# The order of values

The order of values is a total preorder (`Value.compare` is a `TransCmp`): kinds come in a fixed
order, and within each kind the order is that of numbers, of lists of numbers or of several such
parts in turn. Values of different kinds are never equal in it.
-/

open Std

namespace TableDiff

/-! ## Parts of values -/

theorem transCmp_of_eq {α β : Type} {cmp : α → α → Ordering} {f : α → β} {c : β → β → Ordering}
    [TransCmp c] (h : ∀ a b, cmp a b = c (f a) (f b)) : TransCmp cmp where
  eq_swap {a b} := by
    rw [h, h]
    exact OrientedCmp.eq_swap
  isLE_trans {a b d} hab hbd := by
    rw [h] at *
    exact TransCmp.isLE_trans hab hbd

namespace Calendar

instance : TransCmp Date.compare :=
  inferInstanceAs (TransCmp (compareLex (compareOn Date.year)
    (compareLex (compareOn Date.month) (compareOn Date.day))))

instance : TransCmp TimeOfDay.compare :=
  inferInstanceAs (TransCmp (compareLex (compareOn TimeOfDay.seconds) (compareOn TimeOfDay.nanos)))

instance : TransCmp Timestamp.compare :=
  have : TransCmp fun a b : Timestamp => a.date.compare b.date := transCmp_of_eq fun _ _ => rfl
  have : TransCmp fun a b : Timestamp => a.time.compare b.time := transCmp_of_eq fun _ _ => rfl
  inferInstanceAs (TransCmp (compareLex (fun a b : Timestamp => a.date.compare b.date)
    fun a b => a.time.compare b.time))

instance : TransCmp ZonedTimestamp.compare :=
  transCmp_of_eq (f := ZonedTimestamp.utc) fun _ _ => rfl

end Calendar

namespace Numeric

instance : TransCmp Binary64.totalCompare := inferInstanceAs (TransCmp (compareOn Binary64.rank))

instance : TransCmp Decimal.compare :=
  transCmp_of_eq (f := Decimal.toRat) (c := Ord.compare) fun a b => by
    rw [Decimal.compare_eq_cmp, cmp_eq_compare]

end Numeric

instance : TransCmp Uuid.compare := inferInstanceAs (TransCmp (compareOn Uuid.bytes))

/-! ## Values -/

namespace Value

variable {a b c : Value}

theorem rank_eq_iff {a b : Value} : a.kind.rank = b.kind.rank ↔ a.kind = b.kind := by
  constructor
  · intro h
    cases ha : a.kind <;> cases hb : b.kind <;> rw [ha, hb] at h <;> first | rfl | cases h
  · intro h
    rw [h]

theorem compare_of_kind_ne (h : a.kind ≠ b.kind) :
    a.compare b = Ord.compare a.kind.rank b.kind.rank := by
  cases a <;> cases b <;> first | rfl | exact absurd rfl h

theorem compare_of_rank_lt (h : a.kind.rank < b.kind.rank) : a.compare b = .lt := by
  have hne : a.kind ≠ b.kind := fun he => by simp [he] at h
  rw [compare_of_kind_ne hne, Nat.compare_eq_lt]
  exact h

theorem compare_null_of_nonNull {v : Value} (hv : v.isNull = false) :
    null.compare v = .lt ∧ v.compare null = .gt := by
  cases v <;> first | exact ⟨rfl, rfl⟩ | cases hv

/-- Values of different kinds are never equal. -/
theorem kind_eq_of_compare (h : a.compare b = .eq) : a.kind = b.kind := by
  by_contra hne
  rw [compare_of_kind_ne hne, Nat.compare_eq_eq, rank_eq_iff] at h
  exact hne h

theorem rank_le_of_isLE (h : (a.compare b).isLE = true) : a.kind.rank ≤ b.kind.rank := by
  by_cases hk : a.kind = b.kind
  · rw [hk]
  · rw [compare_of_kind_ne hk, Nat.isLE_compare] at h
    exact h

theorem compare_swap_of_kind (h : a.kind = b.kind) : a.compare b = (b.compare a).swap := by
  cases a <;> cases b <;> first
    | (cases h; done)
    | rfl
    | exact (inferInstance : OrientedCmp Numeric.Binary64.totalCompare).eq_swap
    | exact (inferInstance : OrientedCmp Numeric.Decimal.compare).eq_swap
    | exact (inferInstance : OrientedCmp Calendar.Date.compare).eq_swap
    | exact (inferInstance : OrientedCmp Calendar.TimeOfDay.compare).eq_swap
    | exact (inferInstance : OrientedCmp Calendar.ZonedTimestamp.compare).eq_swap
    | exact (inferInstance : OrientedCmp Calendar.Timestamp.compare).eq_swap
    | exact (inferInstance : OrientedCmp Uuid.compare).eq_swap
    | exact OrientedOrd.eq_swap

theorem isLE_trans_of_kind (hab : a.kind = b.kind) (hbc : b.kind = c.kind)
    (h₁ : (a.compare b).isLE = true) (h₂ : (b.compare c).isLE = true) :
    (a.compare c).isLE = true := by
  cases a <;> cases b <;> first
    | (cases hab; done)
    | (cases c <;> first
      | (cases hbc; done)
      | rfl
      | exact (inferInstance : TransCmp Numeric.Binary64.totalCompare).isLE_trans h₁ h₂
      | exact (inferInstance : TransCmp Numeric.Decimal.compare).isLE_trans h₁ h₂
      | exact (inferInstance : TransCmp Calendar.Date.compare).isLE_trans h₁ h₂
      | exact (inferInstance : TransCmp Calendar.TimeOfDay.compare).isLE_trans h₁ h₂
      | exact (inferInstance : TransCmp Calendar.ZonedTimestamp.compare).isLE_trans h₁ h₂
      | exact (inferInstance : TransCmp Calendar.Timestamp.compare).isLE_trans h₁ h₂
      | exact (inferInstance : TransCmp Uuid.compare).isLE_trans h₁ h₂
      | exact TransOrd.isLE_trans h₁ h₂)

instance : TransCmp Value.compare where
  eq_swap {a b} := by
    by_cases hk : a.kind = b.kind
    · exact compare_swap_of_kind hk
    · rw [compare_of_kind_ne hk, compare_of_kind_ne (Ne.symm hk)]
      exact OrientedOrd.eq_swap
  isLE_trans {a b c} hab hbc := by
    have h₁ := rank_le_of_isLE hab
    have h₂ := rank_le_of_isLE hbc
    by_cases hlt : a.kind.rank < c.kind.rank
    · rw [compare_of_rank_lt hlt]
      rfl
    · exact isLE_trans_of_kind (rank_eq_iff.1 (by omega)) (rank_eq_iff.1 (by omega)) hab hbc

end Value

end TableDiff
