import TableDiff.Proofs.Conversion.Coherence
import TableDiff.Proofs.Conversion.TypeOrder

/-!
# Exchanging two values

Which of two values is expected and which is actual does not matter to a type: the two questions
whether they agree are answered alike or both refused, and so are the two questions for their
order, whose answers are opposite (`exchangeable`).
-/

open Std

namespace TableDiff

open TableDiff.Numeric

/-! ## Mirrored answers -/

/-- Two questions are both refused, or both answered, the second one with the mirrored answer. -/
inductive Mirrored {ε α : Type} (mirror : α → α) : Except ε α → Except ε α → Prop
  | refused (e e' : ε) : Mirrored mirror (.error e) (.error e')
  | answered (x : α) : Mirrored mirror (.ok x) (.ok (mirror x))

/-- It is enough that each of the two answers gives the other one, since mirroring twice changes
nothing. -/
theorem Mirrored.of_answers {ε α : Type} {mirror : α → α} {r r' : Except ε α}
    (h : ∀ x, r = .ok x → r' = .ok (mirror x)) (h' : ∀ x, r' = .ok x → r = .ok (mirror x)) :
    Mirrored mirror r r' := by
  cases r with
  | ok x =>
    rw [h x rfl]
    exact .answered x
  | error e =>
    cases r' with
    | ok x => cases h' x rfl
    | error e' => exact .refused e e'

/-! ## Equality of values -/

theorem Numeric.Binary64.same_comm (x y : Binary64) : x.same y = y.same x := by
  unfold same
  simp only [Bool.and_comm, BEq.comm (a := x)]

namespace Value

variable {u v : Value}

theorem same_of_kind_ne (h : u.kind ≠ v.kind) : u.same v = false := by
  cases u <;> cases v <;> first | rfl | exact absurd rfl h

theorem compare_eq_comm : u.compare v = .eq ↔ v.compare u = .eq := by
  have hswap : u.compare v = (v.compare u).swap := OrientedCmp.eq_swap
  rw [hswap, Ordering.swap_eq_eq]

theorem same_comm (u v : Value) : u.same v = v.same u := by
  by_cases hkind : u.kind = v.kind
  · by_cases hu : u.kind = .float
    · obtain ⟨x, rfl⟩ := eq_float_of_kind hu
      obtain ⟨y, rfl⟩ := eq_float_of_kind (hkind.symm.trans hu)
      exact x.same_comm y
    · have hv : v.kind ≠ .float := fun hv => hu (hkind.trans hv)
      rw [Bool.eq_iff_iff, same_iff_compare_eq hu, same_iff_compare_eq hv]
      exact compare_eq_comm
  · rw [same_of_kind_ne hkind, same_of_kind_ne fun h => hkind h.symm]

end Value

/-! ## Types -/

theorem DataType.compare_exchanged {d : DataType} {l r : Value} {o : Ordering}
    (h : d.compare l r = .ok o) : d.compare r l = .ok o.swap := by
  by_cases hd : d.family = .exactNumeric
  · exact (DataType.orderedBy_number hd).swap h
  · exact (DataType.orderedBy_normalize hd).swap h

namespace LogicalType

variable {t : LogicalType} {l r : Value}

theorem agree_of_isNull (h : l.isNull = true ∨ r.isNull = true) :
    t.agree l r = .ok (l.isNull && r.isNull) := by
  rcases h with h | h
  · rw [isNull_eq_true h, agree_null_left]
    rfl
  · rw [isNull_eq_true h, agree_null_right]
    simp [Value.isNull]

theorem agree_unknown_exchanged (hl : l.isNull = false) (hr : r.isNull = false) {verdict : Bool}
    (h : unknown.agree l r = .ok verdict) : unknown.agree r l = .ok verdict := by
  rw [agree_unknown hl hr, Value.same_comm] at h
  rw [agree_unknown hr hl]
  exact h

theorem agree_plain_exchanged {d : DataType} (hd : d ≠ .unknown) (hl : l.isNull = false)
    (hr : r.isNull = false) {verdict : Bool} (h : (plain d).agree l r = .ok verdict) :
    (plain d).agree r l = .ok verdict := by
  rw [agree_plain hd hl hr] at h
  rw [agree_plain hd hr hl]
  obtain ⟨o, ho, rfl⟩ := map_eq_ok.1 h
  refine map_eq_ok.2 ⟨o.swap, DataType.compare_exchanged ho, ?_⟩
  cases o <;> rfl

theorem agree_tolerant_exchanged {base : DataType} {delta : Decimal} (hl : l.isNull = false)
    (hr : r.isNull = false) {verdict : Bool} (h : (tolerant base delta).agree l r = .ok verdict) :
    (tolerant base delta).agree r l = .ok verdict := by
  have ht : (tolerant base delta).ComparesNumbers := trivial
  obtain ⟨⟨n, hn⟩, m, hm⟩ := exists_numbers_of_agree ht hl hr h
  rw [agree_of_numbers ht hn hm] at h
  rw [agree_of_numbers ht hm hn, abs_sub_comm]
  exact h

/-- A verdict about two values is the verdict about them exchanged. -/
theorem agree_exchanged {verdict : Bool} (h : t.agree l r = .ok verdict) :
    t.agree r l = .ok verdict := by
  by_cases hnull : l.isNull = true ∨ r.isNull = true
  · rw [agree_of_isNull hnull] at h
    rw [agree_of_isNull hnull.symm, Bool.and_comm]
    exact h
  · obtain ⟨hl, hr⟩ := not_or.1 hnull
    rw [Bool.not_eq_true] at hl hr
    cases t with
    | plain d =>
      by_cases hd : d = .unknown
      · subst hd
        exact agree_unknown_exchanged hl hr h
      · exact agree_plain_exchanged hd hl hr h
    | tolerant base delta => exact agree_tolerant_exchanged hl hr h

/-- What a tolerant type orders are two nulls, which agree, or two numbers. -/
theorem cases_of_compare_tolerant {base : DataType} {delta : Decimal} {o : Ordering}
    (h : (tolerant base delta).compare l r = .ok o) :
    (l = .null ∧ r = .null) ∨ ∃ n m, l.toExact? = some n ∧ r.toExact? = some m := by
  have ht : (tolerant base delta).ComparesNumbers := trivial
  cases hn : l.toExact? with
  | none =>
    by_cases hnull : l.isNull = false ∨ r.isNull = false
    · rw [compare_of_no_number ht hnull hn] at h
      cases h
    · obtain ⟨hl, hr⟩ := not_or.1 hnull
      rw [Bool.not_eq_false] at hl hr
      exact .inl ⟨isNull_eq_true hl, isNull_eq_true hr⟩
  | some n =>
    cases hm : r.toExact? with
    | none =>
      rw [compare_number_of_no_number ht hn hm] at h
      cases h
    | some m => exact .inr ⟨n, m, rfl, rfl⟩

theorem compare_exchanged {o : Ordering} (h : t.compare l r = .ok o) :
    t.compare r l = .ok o.swap := by
  cases t with
  | plain d => exact DataType.compare_exchanged h
  | tolerant base delta =>
    have ht : (tolerant base delta).ComparesNumbers := trivial
    rcases cases_of_compare_tolerant h with ⟨rfl, rfl⟩ | ⟨n, m, hn, hm⟩
    · cases h
      rfl
    · rw [compare_of_numbers ht hn hm] at h
      rw [compare_of_numbers ht hm hn, abs_sub_comm, ← Except.ok.inj h, apply_ite Ordering.swap,
        cmp_swap]
      rfl

/-- **Two values may be exchanged**: whether they agree is answered alike or refused both times,
and their order is turned round or refused both times, whatever the type and the difference that
it tolerates. -/
theorem exchangeable (t : LogicalType) (a b : Value) :
    Mirrored id (t.agree a b) (t.agree b a) ∧
      Mirrored Ordering.swap (t.compare a b) (t.compare b a) := by
  constructor
  · apply Mirrored.of_answers
    · intro verdict h
      exact agree_exchanged h
    · intro verdict h
      exact agree_exchanged h
  · apply Mirrored.of_answers
    · intro o h
      exact compare_exchanged h
    · intro o h
      exact compare_exchanged h

/-- Null does not agree with a number, and a tolerant type refuses to order the two, whichever of
them comes first. -/
example : (tolerant .numeric .one).agree .null (.int 0) = .ok false ∧
    (tolerant .numeric .one).agree (.int 0) .null = .ok false ∧
    (tolerant .numeric .one).compare .null (.int 0) =
      .error ⟨.null, "NUMERIC_WITH_TOLERATED_DELTA", .notANumber⟩ ∧
    (tolerant .numeric .one).compare (.int 0) .null =
      .error ⟨.null, "NUMERIC_WITH_TOLERATED_DELTA", .notANumber⟩ := by
  decide

end LogicalType

end TableDiff
