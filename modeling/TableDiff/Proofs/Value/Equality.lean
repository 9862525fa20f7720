import TableDiff.Proofs.Value.Order

/-!
# Equality of values

Two values that are no floating point numbers are the same exactly where neither comes before the
other (`same_iff_compare_eq`). Floating point numbers are equal in order if their bits are, so
they are the same then unless they are no numbers (`same_of_compare_eq`); a value differs from
itself only if it is such a NaN (`same_self`).
-/

open Std

namespace TableDiff

/-! ## Parts of values -/

namespace Calendar

instance : LawfulEqCmp Date.compare where
  eq_of_compare {a b} h := by
    obtain ⟨hyear, hrest⟩ := Ordering.then_eq_eq.1 h
    obtain ⟨hmonth, hday⟩ := Ordering.then_eq_eq.1 hrest
    rw [Date.mk.injEq]
    exact ⟨LawfulEqOrd.eq_of_compare hyear, LawfulEqOrd.eq_of_compare hmonth,
      LawfulEqOrd.eq_of_compare hday⟩

instance : LawfulEqCmp TimeOfDay.compare where
  eq_of_compare {a b} h := by
    obtain ⟨hseconds, hnanos⟩ := Ordering.then_eq_eq.1 h
    rw [TimeOfDay.mk.injEq]
    exact ⟨LawfulEqOrd.eq_of_compare hseconds, LawfulEqOrd.eq_of_compare hnanos⟩

instance : LawfulEqCmp Timestamp.compare where
  eq_of_compare {a b} h := by
    obtain ⟨hdate, htime⟩ := Ordering.then_eq_eq.1 h
    rw [Timestamp.mk.injEq]
    exact ⟨LawfulEqCmp.eq_of_compare hdate, LawfulEqCmp.eq_of_compare htime⟩

end Calendar

instance : LawfulEqCmp Uuid.compare where
  eq_of_compare {a b} h := by
    rw [Uuid.mk.injEq]
    exact LawfulEqOrd.eq_of_compare h

namespace Numeric.Binary64

theorem rank_inj {x y : Binary64} (h : x.rank = y.rank) : x = y := by
  have hx := x.bits.toNat_lt
  have hy := y.bits.toNat_lt
  have hbits : x.bits.toNat = y.bits.toNat := by
    by_cases hxn : signBit ≤ x.bits.toNat <;> by_cases hyn : signBit ≤ y.bits.toNat <;>
      simp only [rank, negative, hxn, hyn, decide_true, decide_false, if_true, Bool.false_eq_true,
        if_false] at h <;>
      simp only [magnitudeBits, signBit] at h hxn hyn <;> omega
  rw [Binary64.mk.injEq]
  exact UInt64.toNat_inj.1 hbits

instance : LawfulEqCmp totalCompare where
  eq_of_compare h := rank_inj (LawfulEqOrd.eq_of_compare h)

theorem same_self (x : Binary64) : x.same x = !x.isNaN := by
  unfold same
  simp

end Numeric.Binary64

namespace Value

variable {u v : Value}

/-- Whether a value is a floating point number that is no number. -/
def isNaN : Value → Bool
  | float x => x.isNaN
  | _ => false

theorem isNaN_eq_false_of_kind (h : v.kind ≠ .float) : v.isNaN = false := by
  cases v <;> first | rfl | exact absurd rfl h

theorem eq_float_of_kind (h : v.kind = .float) : ∃ x, v = float x := by
  cases v <;> first | exact ⟨_, rfl⟩ | cases h

theorem beq_iff_compare {α : Type} [BEq α] [LawfulBEq α] (cmp : α → α → Ordering)
    [LawfulEqCmp cmp] {a b : α} : (a == b) = true ↔ cmp a b = .eq := by
  rw [beq_iff_eq, LawfulEqCmp.compare_eq_iff_eq]

/-- Values other than floating point numbers are the same exactly where they are equal in order. -/
theorem same_iff_compare_eq (hu : u.kind ≠ .float) : u.same v = true ↔ u.compare v = .eq := by
  by_cases hk : u.kind = v.kind
  · cases u <;> cases v <;> first
      | (cases hk; done)
      | exact absurd rfl hu
      | exact iff_of_true rfl rfl
      | exact beq_iff_eq
      | exact beq_iff_compare Calendar.Date.compare
      | exact beq_iff_compare Calendar.TimeOfDay.compare
      | exact beq_iff_compare Calendar.Timestamp.compare
      | exact beq_iff_compare Uuid.compare
      | exact beq_iff_compare (Ord.compare : Bool → Bool → Ordering)
      | exact beq_iff_compare (Ord.compare : Int64 → Int64 → Ordering)
      | exact beq_iff_compare (Ord.compare : String → String → Ordering)
      | exact beq_iff_compare (Ord.compare : List UInt8 → List UInt8 → Ordering)
  · refine iff_of_false (fun h => hk ?_) fun h => hk (kind_eq_of_compare h)
    cases u <;> cases v <;> first | rfl | cases h

/-- Values that are equal in order are the same, unless they are no numbers. -/
theorem same_of_compare_eq (h : u.compare v = .eq) (hn : u.isNaN = false) : u.same v = true := by
  by_cases hu : u.kind = .float
  · obtain ⟨x, rfl⟩ := eq_float_of_kind hu
    obtain ⟨y, rfl⟩ := eq_float_of_kind ((kind_eq_of_compare h).symm.trans hu)
    have hxy : x = y := LawfulEqCmp.eq_of_compare (show x.totalCompare y = .eq from h)
    show x.same y = true
    rw [← hxy, Numeric.Binary64.same_self, show x.isNaN = false from hn]
    rfl
  · exact (same_iff_compare_eq hu).2 h

/-- A value is the same as itself, unless it is no number. -/
theorem same_self (v : Value) : v.same v = !v.isNaN := by
  by_cases hv : v.kind = .float
  · obtain ⟨x, rfl⟩ := eq_float_of_kind hv
    exact x.same_self
  · rw [isNaN_eq_false_of_kind hv]
    exact (same_iff_compare_eq hv).2 ReflCmp.compare_self

end Value

end TableDiff
