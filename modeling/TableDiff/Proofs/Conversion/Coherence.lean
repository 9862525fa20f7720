import TableDiff.Proofs.Conversion.Verdict
import TableDiff.Proofs.Value.Equality

/-!
# Agreement and order

A logical type decides whether two values agree and how they are ordered. Both questions fail
together, and where they are answered the values agree exactly if neither comes before the other
(`coherent_iff`). The unknown type departs from this for floating point numbers: it asks whether
they are equal as numbers, but orders them by their bits (`Value.SeenApart`).
-/

namespace TableDiff

open TableDiff.Numeric

namespace Numeric.Binary64

variable {x y : Binary64}

theorem totalCompare_eq_iff : x.totalCompare y = .eq ↔ x = y :=
  Std.LawfulEqCmp.compare_eq_iff_eq

theorem not_isNaN_of_isZero (h : x.isZero = true) : x.isNaN = false := by
  have hzero : x.magnitudeBits = 0 := eq_of_beq h
  rw [isNaN, hzero]
  rfl

end Numeric.Binary64

namespace Value

/-- Floating point numbers that equality and order see differently: a NaN differs from itself, and
the two zeros are equal. -/
inductive SeenApart : Value → Value → Prop
  | nan {x : Binary64} (hx : x.isNaN = true) : SeenApart (float x) (float x)
  | zeros {x y : Binary64} (hx : x.isZero = true) (hy : y.isZero = true) (hne : x ≠ y) :
    SeenApart (float x) (float y)

variable {u v : Value}

theorem SeenApart.kind_eq (h : SeenApart u v) : u.kind = .float := by
  cases h <;> rfl

/-- Floating point numbers are the same exactly where they have the same bits, NaN and the zeros
apart. -/
theorem same_iff_compare_eq_of_float {x y : Binary64} :
    (x.same y = true ↔ x.totalCompare y = .eq) ↔ ¬ SeenApart (float x) (float y) := by
  rw [Binary64.totalCompare_eq_iff]
  constructor
  · rintro h (hx | ⟨hx, hy, hne⟩)
    · have hsame := h.2 rfl
      rw [Binary64.same_self, hx] at hsame
      cases hsame
    · refine hne (h.1 ?_)
      simp [Binary64.same, Binary64.not_isNaN_of_isZero hx, Binary64.not_isNaN_of_isZero hy, hx, hy]
  · intro h
    by_cases hxy : x = y
    · subst hxy
      have hx : x.isNaN = false := eq_false_of_ne_true fun hx => h (.nan hx)
      rw [Binary64.same_self, hx]
      simp
    · refine iff_of_false (fun hsame => h ?_) hxy
      simp only [Binary64.same, Bool.and_eq_true, Bool.or_eq_true, beq_iff_eq, hxy,
        false_or] at hsame
      exact .zeros hsame.2.1 hsame.2.2 hxy

theorem same_iff_compare_eq_iff :
    (u.same v = true ↔ u.compare v = .eq) ↔ ¬ SeenApart u v := by
  by_cases hu : u.kind = .float
  · obtain ⟨x, rfl⟩ := eq_float_of_kind hu
    by_cases hv : v.kind = .float
    · obtain ⟨y, rfl⟩ := eq_float_of_kind hv
      exact same_iff_compare_eq_of_float
    · refine iff_of_true (iff_of_false (fun h => ?_) fun h => ?_) fun h => ?_
      · cases v <;> first | exact hv rfl | cases h
      · exact hv (kind_eq_of_compare h).symm
      · cases h <;> exact hv rfl
  · exact iff_of_true (same_iff_compare_eq hu) fun h => hu h.kind_eq

end Value

namespace LogicalType

variable {t : LogicalType} {e a : Value}

/-- Two values agree exactly if neither comes before the other, where both questions are
answered. -/
def Coherent (t : LogicalType) (e a : Value) : Prop :=
  ∀ verdict order, t.agree e a = .ok verdict → t.compare e a = .ok order →
    (verdict = true ↔ order = .eq)

theorem agree_unknown (he : e.isNull = false) (ha : a.isNull = false) :
    unknown.agree e a = .ok (e.same a) := by
  unfold agree
  rw [he, ha]
  rfl

theorem coherent_unknown_iff (he : e.isNull = false) (ha : a.isNull = false) :
    unknown.Coherent e a ↔ ¬ e.SeenApart a := by
  rw [← Value.same_iff_compare_eq_iff]
  have horder : unknown.compare e a = .ok (e.compare a) := rfl
  unfold Coherent
  rw [agree_unknown he ha, horder]
  constructor
  · intro h
    exact h _ _ rfl rfl
  · rintro h _ _ ⟨⟩ ⟨⟩
    exact h

theorem coherent_plain {d : DataType} (hd : d ≠ .unknown) (he : e.isNull = false)
    (ha : a.isNull = false) : (plain d).Coherent e a := by
  intro verdict order hv ho
  have ho' : d.compare e a = .ok order := ho
  rw [agree_plain hd he ha, ho'] at hv
  cases hv
  exact beq_iff_eq

/-- Numbers that differ by more than a type allows are not equal. -/
theorem coherent_of_numbers (ht : t.ComparesNumbers) (hs : 0 ≤ t.slack) {n m : ExactDecimal}
    (hn : e.toExact? = some n) (hm : a.toExact? = some m) : t.Coherent e a := by
  intro verdict order hv ho
  rw [agree_of_numbers ht hn hm] at hv
  rw [compare_of_numbers ht hn hm] at ho
  cases hv
  cases ho
  rw [decide_eq_true_iff]
  by_cases hnear : |n.toRat - m.toRat| ≤ t.slack
  · rw [if_pos hnear]
    exact iff_of_true hnear rfl
  · rw [if_neg hnear]
    refine iff_of_false hnear fun heq => hnear ?_
    rw [(cmp_eq_eq_iff _ _).1 heq, sub_self, abs_zero]
    exact hs

/-- Values of which one has no number are neither found to agree nor ordered, for one reason. -/
theorem errors_of_missing_number (ht : t.ComparesNumbers) (he : e.isNull = false)
    (ha : a.isNull = false) (h : e.toExact? = none ∨ a.toExact? = none) :
    ∃ err, t.agree e a = .error err ∧ t.compare e a = .error err := by
  cases hn : e.toExact? with
  | none => exact ⟨_, agree_of_no_number ht he ha hn, compare_of_no_number ht (.inl he) hn⟩
  | some n =>
    have hm : a.toExact? = none := h.resolve_left (by simp [hn])
    exact ⟨_, agree_number_of_no_number ht hn ha hm, compare_number_of_no_number ht hn hm⟩

/-- Whether values agree and how they are ordered is refused for the same reasons. -/
theorem agree_eq_error_iff (he : e.isNull = false) (ha : a.isNull = false)
    (err : ConversionError) : t.agree e a = .error err ↔ t.compare e a = .error err := by
  cases t with
  | plain d =>
    by_cases hd : d = .unknown
    · subst hd
      have hagree : (plain .unknown).agree e a = .ok (e.same a) := agree_unknown he ha
      have horder : (plain .unknown).compare e a = .ok (e.compare a) := rfl
      rw [hagree, horder]
      exact iff_of_false nofun nofun
    · rw [agree_plain hd he ha]
      exact map_eq_error
  | tolerant base delta =>
    have ht : (tolerant base delta).ComparesNumbers := trivial
    by_cases h : e.toExact? = none ∨ a.toExact? = none
    · obtain ⟨err', hagree, horder⟩ := errors_of_missing_number ht he ha h
      rw [hagree, horder, Except.error.injEq, Except.error.injEq]
    · obtain ⟨hn, hm⟩ := not_or.1 h
      obtain ⟨n, hn⟩ := Option.ne_none_iff_exists'.1 hn
      obtain ⟨m, hm⟩ := Option.ne_none_iff_exists'.1 hm
      rw [agree_of_numbers ht hn hm, compare_of_numbers ht hn hm]
      exact iff_of_false nofun nofun

/-- **A type's agreement and its order say the same**, and refuse the same values, except that the
unknown type tells a NaN from itself and does not tell the two zeros apart. -/
theorem coherent_iff (hs : 0 ≤ t.slack) (he : e.isNull = false) (ha : a.isNull = false) :
    (∀ err, t.agree e a = .error err ↔ t.compare e a = .error err) ∧
      (t.Coherent e a ↔ ¬ (t = unknown ∧ e.SeenApart a)) := by
  refine ⟨agree_eq_error_iff he ha, ?_⟩
  by_cases hu : t = unknown
  · subst hu
    rw [coherent_unknown_iff he ha, and_iff_right rfl]
  · refine iff_of_true ?_ fun h => hu h.1
    cases t with
    | plain d => exact coherent_plain (fun hd => hu (congrArg plain hd)) he ha
    | tolerant base delta =>
      have ht : (tolerant base delta).ComparesNumbers := trivial
      intro verdict order hv ho
      obtain ⟨⟨n, hn⟩, m, hm⟩ := exists_numbers_of_agree ht he ha hv
      exact coherent_of_numbers ht hs hn hm verdict order hv ho

/-- The two zeros are told apart in a floating point column, but only by the order if the type of
the column is unknown. -/
theorem zeros_coherent_if_typed :
    (plain .double).Coherent (.float .zero) (.float (.ofParts true 0)) ∧
      ¬ unknown.Coherent (.float .zero) (.float (.ofParts true 0)) := by
  have hzeros : (Value.float .zero).SeenApart (.float (.ofParts true 0)) :=
    .zeros (by decide) (by decide) (by decide)
  refine ⟨(coherent_iff le_rfl rfl rfl).2.2 fun h => ?_, fun h => ?_⟩
  · cases h.1
  · exact (coherent_iff le_rfl rfl rfl).2.1 h ⟨rfl, hzeros⟩

/-- A NaN does not agree with itself under the unknown type, which orders it as equal to itself. -/
theorem nan_equal_in_order_only :
    unknown.agree (.float (.nan false)) (.float (.nan false)) = .ok false ∧
      unknown.compare (.float (.nan false)) (.float (.nan false)) = .ok .eq := by
  decide

end LogicalType

end TableDiff
