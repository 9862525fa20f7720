import TableDiff.LogicalType
import TableDiff.Proofs.Conversion.Number
import TableDiff.Result

/-!
# Verdicts about converted values

Two values are compared by the numbers that they denote (`agree_of_numbers`,
`compare_of_numbers`) if their type is exactly numeric, and else by the form that the type gives to
them, which does not change again (`convertTo_of_convertTo`). So converting two values first leaves
every verdict as it is, if under an exactly numeric type both of them keep their number, and a value
that does not is told apart from its converted form by some other value
(`convert_keeps_verdicts_iff`).
-/

namespace TableDiff

open TableDiff.Numeric

namespace LogicalType

variable {t : LogicalType} {l r l' r' : Value}

/-- Whether a type compares values by the exact numbers that they denote. -/
def ComparesNumbers : LogicalType → Prop
  | plain d => d.family = .exactNumeric
  | tolerant _ _ => True

/-- The difference up to which numbers agree. -/
def slack : LogicalType → ℚ
  | plain _ => 0
  | tolerant _ delta => delta.toRat

/-! ## Numbers -/

theorem isNull_of_toExact? {v : Value} {n : ExactDecimal} (h : v.toExact? = some n) :
    v.isNull = false := by
  cases v <;> first | rfl | cases h

theorem toExact_eq_ok {v : Value} {n : ExactDecimal} :
    v.toExact = .ok n ↔ v.toExact? = some n := by
  unfold Value.toExact
  cases v.toExact? <;> simp

theorem compare_plain_of_numbers {d : DataType} (hd : d.family = .exactNumeric)
    {n m : ExactDecimal} (hl : l.toExact? = some n) (hr : r.toExact? = some m) :
    d.compare l r = .ok (cmp n.toRat m.toRat) := by
  unfold DataType.compare
  rw [hd, ← ExactDecimal.compare_eq_cmp]
  simp only [toExact_eq_ok.2 hl, toExact_eq_ok.2 hr]
  rfl

theorem within_eq (delta : Decimal) (n m : ExactDecimal) :
    within delta n m = decide (|n.toRat - m.toRat| ≤ delta.toRat) := by
  rw [within, Bool.eq_iff_iff, decide_eq_true_iff, ExactDecimal.le_iff, ExactDecimal.toRat_abs,
    ExactDecimal.toRat_sub, ExactDecimal.toRat_ofDecimal]

theorem abs_sub_nonpos_iff {x y : ℚ} : |x - y| ≤ 0 ↔ x = y := by
  rw [abs_nonpos_iff, sub_eq_zero]

theorem agree_plain {d : DataType} (hd : d ≠ .unknown) (hl : l.isNull = false)
    (hr : r.isNull = false) : (plain d).agree l r = (d.compare l r).map (· == .eq) := by
  have hmap : ∀ x : Except ConversionError Ordering,
      (do return (← x) == .eq) = x.map (· == .eq) := fun x => by cases x <;> rfl
  unfold agree
  rw [hl, hr]
  cases d <;> first
    | exact absurd rfl hd
    | exact hmap _

theorem ne_unknown {d : DataType} (hd : d.family = .exactNumeric) : d ≠ .unknown := by
  rintro rfl
  cases hd

/-- Numbers agree if they differ by no more than the type allows. -/
theorem agree_of_numbers (ht : t.ComparesNumbers) {n m : ExactDecimal}
    (hl : l.toExact? = some n) (hr : r.toExact? = some m) :
    t.agree l r = .ok (decide (|n.toRat - m.toRat| ≤ t.slack)) := by
  have hl' := isNull_of_toExact? hl
  have hr' := isNull_of_toExact? hr
  cases t with
  | plain d =>
    have heq : (cmp n.toRat m.toRat == .eq) = decide (|n.toRat - m.toRat| ≤ 0) := by
      rw [Bool.eq_iff_iff, beq_iff_eq, decide_eq_true_iff, cmp_eq_eq_iff, abs_sub_nonpos_iff]
    rw [agree_plain (ne_unknown ht) hl' hr', compare_plain_of_numbers ht hl hr, slack, ← heq]
    rfl
  | tolerant base delta =>
    unfold agree
    rw [hl', hr', slack, ← within_eq]
    simp only [toExact_eq_ok.2 hl, toExact_eq_ok.2 hr]
    rfl

/-- Numbers that agree are equal in order, others are ordered by their value. -/
theorem compare_of_numbers (ht : t.ComparesNumbers) {n m : ExactDecimal}
    (hl : l.toExact? = some n) (hr : r.toExact? = some m) :
    t.compare l r =
      .ok (if |n.toRat - m.toRat| ≤ t.slack then .eq else cmp n.toRat m.toRat) := by
  cases t with
  | plain d =>
    have hcmp : (if |n.toRat - m.toRat| ≤ (plain d).slack then .eq else cmp n.toRat m.toRat) =
        cmp n.toRat m.toRat := by
      by_cases h : |n.toRat - m.toRat| ≤ (plain d).slack
      · rw [if_pos h, abs_sub_nonpos_iff.1 h, cmp_self_eq_eq]
      · rw [if_neg h]
    rw [hcmp]
    exact compare_plain_of_numbers ht hl hr
  | tolerant base delta =>
    unfold compare
    rw [agree_of_numbers ht hl hr]
    by_cases h : |n.toRat - m.toRat| ≤ (tolerant base delta).slack
    · rw [if_pos h]
      simp only [h, decide_true]
      rfl
    · rw [if_neg h, ← ExactDecimal.compare_eq_cmp]
      simp only [h, decide_false, toExact_eq_ok.2 hl, toExact_eq_ok.2 hr]
      rfl

/-! ## Null and other values without a number -/

theorem agree_null_left (r : Value) : t.agree .null r = .ok r.isNull := rfl

theorem agree_null_right (l : Value) : t.agree l .null = .ok l.isNull := by
  simp [agree, Value.isNull]

theorem isNull_eq_true {v : Value} (h : v.isNull = true) : v = .null := by
  cases v <;> first | rfl | cases h

theorem toExact_eq_error {v : Value} (h : v.toExact? = none) : v.toExact = .error .notANumber := by
  rw [Value.toExact, h]

theorem agree_of_no_number (ht : t.ComparesNumbers) (hl : l.isNull = false)
    (hr : r.isNull = false) (hn : l.toExact? = none) :
    t.agree l r = .error ⟨l, t.name, .notANumber⟩ := by
  cases t with
  | plain d =>
    rw [agree_plain (ne_unknown ht) hl hr, DataType.compare,
      show d.family = .exactNumeric from ht]
    simp only [toExact_eq_error hn]
    rfl
  | tolerant base delta =>
    unfold agree
    rw [hl, hr]
    simp only [toExact_eq_error hn]
    rfl

theorem agree_number_of_no_number (ht : t.ComparesNumbers) {n : ExactDecimal}
    (hl : l.toExact? = some n) (hr : r.isNull = false) (hn : r.toExact? = none) :
    t.agree l r = .error ⟨r, t.name, .notANumber⟩ := by
  have hl' := isNull_of_toExact? hl
  cases t with
  | plain d =>
    rw [agree_plain (ne_unknown ht) hl' hr, DataType.compare,
      show d.family = .exactNumeric from ht]
    simp only [toExact_eq_ok.2 hl, toExact_eq_error hn]
    rfl
  | tolerant base delta =>
    unfold agree
    rw [hl', hr]
    simp only [toExact_eq_ok.2 hl, toExact_eq_error hn]
    rfl

theorem compare_of_no_number (ht : t.ComparesNumbers) (hnull : l.isNull = false ∨ r.isNull = false)
    (hn : l.toExact? = none) : t.compare l r = .error ⟨l, t.name, .notANumber⟩ := by
  cases t with
  | plain d =>
    have hd : d.family = .exactNumeric := ht
    show d.compare l r = _
    unfold DataType.compare
    rw [hd]
    simp only [toExact_eq_error hn]
    rfl
  | tolerant base delta =>
    unfold compare
    cases hl : l.isNull with
    | true =>
      rw [isNull_eq_true hl, agree_null_left, hnull.resolve_left (by simp [hl])]
      rfl
    | false =>
      cases hr : r.isNull with
      | true =>
        rw [isNull_eq_true hr, agree_null_right, hl]
        simp only [toExact_eq_error hn]
        rfl
      | false =>
        rw [agree_of_no_number ht hl hr hn]
        rfl

theorem compare_number_of_no_number (ht : t.ComparesNumbers) {n : ExactDecimal}
    (hl : l.toExact? = some n) (hn : r.toExact? = none) :
    t.compare l r = .error ⟨r, t.name, .notANumber⟩ := by
  cases t with
  | plain d =>
    have hd : d.family = .exactNumeric := ht
    show d.compare l r = _
    unfold DataType.compare
    rw [hd]
    simp only [toExact_eq_ok.2 hl, toExact_eq_error hn]
    rfl
  | tolerant base delta =>
    unfold compare
    cases hr : r.isNull with
    | true =>
      rw [isNull_eq_true hr, agree_null_right, isNull_of_toExact? hl]
      simp only [toExact_eq_ok.2 hl]
      rfl
    | false =>
      rw [agree_number_of_no_number ht hl hr hn]
      rfl

/-- Both values are null, or they denote the same number. -/
def SameNumber (v w : Value) : Prop :=
  (v = .null ∧ w = .null) ∨
    ∃ n m, v.toExact? = some n ∧ w.toExact? = some m ∧ n.toRat = m.toRat

/-- What denotes the same number is treated alike. -/
theorem verdicts_of_sameNumber (ht : t.ComparesNumbers) (hl : SameNumber l l')
    (hr : SameNumber r r') : t.agree l' r' = t.agree l r ∧ t.compare l' r' = t.compare l r := by
  rcases hl with ⟨rfl, rfl⟩ | ⟨n, n', hn, hn', hnn⟩ <;>
    rcases hr with ⟨rfl, rfl⟩ | ⟨m, m', hm, hm', hmm⟩
  · exact ⟨rfl, rfl⟩
  · rw [agree_null_left, agree_null_left, isNull_of_toExact? hm, isNull_of_toExact? hm',
      compare_of_no_number ht (.inr (isNull_of_toExact? hm)) rfl,
      compare_of_no_number ht (.inr (isNull_of_toExact? hm')) rfl]
    exact ⟨rfl, rfl⟩
  · rw [agree_null_right, agree_null_right, isNull_of_toExact? hn, isNull_of_toExact? hn',
      compare_number_of_no_number ht hn rfl, compare_number_of_no_number ht hn' rfl]
    exact ⟨rfl, rfl⟩
  · rw [agree_of_numbers ht hn hm, agree_of_numbers ht hn' hm', compare_of_numbers ht hn hm,
      compare_of_numbers ht hn' hm', hnn, hmm]
    exact ⟨rfl, rfl⟩

/-! ## Conversion under the numeric types -/

theorem convert_eq_comparable (ht : t.ComparesNumbers) (v : Value) :
    t.convert v = if v.isNull then .ok .null else v.orError t.name v.comparableNumber := by
  cases t with
  | plain d =>
    have hd : d.family = .exactNumeric := ht
    show d.convert v = _
    unfold DataType.convert
    rw [hd]
    rfl
  | tolerant base delta => rfl

theorem convert_eq_ok (ht : t.ComparesNumbers) {v w : Value} :
    t.convert v = .ok w ↔
      (v = .null ∧ w = .null) ∨ (v.isNull = false ∧ v.comparableNumber = .ok w) := by
  rw [convert_eq_comparable ht]
  cases hv : v.isNull with
  | true =>
    have hnull : v = .null := by cases v <;> first | rfl | cases hv
    simp [hnull, eq_comm]
  | false =>
    have hnull : v ≠ .null := by
      rintro rfl
      cases hv
    simp only [Value.orError, hnull, Bool.false_eq_true, if_false, mapError_eq_ok, false_and,
      false_or, true_and]

theorem exists_toExact?_of_comparableNumber {v w : Value} (h : v.comparableNumber = .ok w)
    (hk : w.number? = v.number?) :
    ∃ n m, v.toExact? = some n ∧ w.toExact? = some m ∧ n.toRat = m.toRat := by
  have hv : ∃ n, v.toExact? = some n := by
    rcases Value.comparableNumber_eq_ok.1 h with ⟨d, -, rfl⟩ | ⟨-, n, -, hn, -⟩
    · rw [Value.number?_decimal] at hk
      obtain ⟨n, hn, -⟩ := Option.map_eq_some_iff.1 hk.symm
      exact ⟨n, hn⟩
    · exact ⟨n, hn⟩
  obtain ⟨n, hn⟩ := hv
  rw [Value.number?, Value.number?, hn] at hk
  obtain ⟨m, hm, hmn⟩ := Option.map_eq_some_iff.1 hk
  exact ⟨n, m, hn, hm, hmn.symm⟩

/-- A value that keeps its number denotes the same number when it is converted. -/
theorem sameNumber_of_convert (ht : t.ComparesNumbers) {v w : Value} (h : t.convert v = .ok w)
    (hk : v.KeepsNumber) : SameNumber v w := by
  rcases (convert_eq_ok ht).1 h with hnull | ⟨-, hw⟩
  · exact .inl hnull
  · exact .inr (exists_toExact?_of_comparableNumber hw (hk w hw))

end LogicalType

/-! ## Conversion under the other types -/

/-- Outside the exactly numeric types a converted value is left as it is. -/
theorem Value.convertTo_of_convertTo {f : TypeFamily} (hf : f ≠ .exactNumeric) {v w : Value}
    (hv : v.isNull = false) (h : v.convertTo f = .ok w) :
    w.convertTo f = .ok w ∧ w.isNull = false := by
  cases f with
  | exactNumeric => exact absurd rfl hf
  | unknown =>
    cases h
    exact ⟨rfl, hv⟩
  | text =>
    cases h
    exact ⟨by simp [convertTo, render, display], rfl⟩
  | integer => obtain ⟨x, -, rfl⟩ := map_eq_ok.1 h; exact ⟨rfl, rfl⟩
  | floating => obtain ⟨x, -, rfl⟩ := map_eq_ok.1 h; exact ⟨rfl, rfl⟩
  | boolean => obtain ⟨x, -, rfl⟩ := map_eq_ok.1 h; exact ⟨rfl, rfl⟩
  | date => obtain ⟨x, -, rfl⟩ := map_eq_ok.1 h; exact ⟨rfl, rfl⟩
  | time => obtain ⟨x, -, rfl⟩ := map_eq_ok.1 h; exact ⟨rfl, rfl⟩
  | timestamp => obtain ⟨x, -, rfl⟩ := map_eq_ok.1 h; exact ⟨rfl, rfl⟩
  | zoned => obtain ⟨x, -, rfl⟩ := map_eq_ok.1 h; exact ⟨rfl, rfl⟩
  | binary => obtain ⟨x, -, rfl⟩ := map_eq_ok.1 h; exact ⟨rfl, rfl⟩
  | uuid => obtain ⟨x, -, rfl⟩ := map_eq_ok.1 h; exact ⟨rfl, rfl⟩

namespace DataType

variable {d : DataType} {l r l' r' : Value}

/-- What is not null is converted by the rule for the family of the type. -/
theorem convert_eq_ok (hl : l.isNull = false) :
    d.convert l = .ok l' ↔ l.convertTo d.family = .ok l' := by
  unfold convert
  rw [hl]
  exact mapError_eq_ok

theorem convert_of_convert (hd : d.family ≠ .exactNumeric) (h : d.convert l = .ok l') :
    d.convert l' = .ok l' ∧ l'.isNull = l.isNull := by
  unfold convert at h
  cases hl : l.isNull with
  | true =>
    rw [hl] at h
    cases h
    exact ⟨rfl, rfl⟩
  | false =>
    rw [hl] at h
    have hto := mapError_eq_ok.1 h
    obtain ⟨hagain, hnull⟩ := Value.convertTo_of_convertTo hd hl hto
    unfold convert
    rw [hnull, hagain]
    exact ⟨rfl, rfl⟩

theorem normalize_of_convert (hd : d.family ≠ .exactNumeric) (h : d.convert l = .ok l') :
    d.normalize l' = d.normalize l := by
  unfold normalize
  rw [h, (convert_of_convert hd h).1]

theorem convert_unknown (h : convert .unknown l = .ok l') : l' = l := by
  cases l <;> cases h <;> rfl

theorem compare_of_not_exactNumeric (hd : d.family ≠ .exactNumeric) (hu : d ≠ .unknown)
    (a b : Value) : d.compare a b = do
      let x ← d.normalize a
      let y ← d.normalize b
      return x.compare y := by
  cases d <;> first
    | rfl
    | exact absurd rfl hd
    | exact absurd rfl hu

/-- Outside the exactly numeric types converted values compare as the values do. -/
theorem compare_of_convert (hd : d.family ≠ .exactNumeric) (hl : d.convert l = .ok l')
    (hr : d.convert r = .ok r') : d.compare l' r' = d.compare l r := by
  by_cases hu : d = .unknown
  · subst hu
    rw [convert_unknown hl, convert_unknown hr]
  · rw [compare_of_not_exactNumeric hd hu, compare_of_not_exactNumeric hd hu,
      normalize_of_convert hd hl, normalize_of_convert hd hr]

end DataType

namespace LogicalType

variable {t : LogicalType} {l r l' r' : Value}

theorem verdicts_of_convert {d : DataType} (hd : d.family ≠ .exactNumeric)
    (hl : d.convert l = .ok l') (hr : d.convert r = .ok r') :
    (plain d).agree l' r' = (plain d).agree l r ∧
      (plain d).compare l' r' = (plain d).compare l r := by
  have hcompare := DataType.compare_of_convert hd hl hr
  refine ⟨?_, hcompare⟩
  have hnl := (DataType.convert_of_convert hd hl).2
  have hnr := (DataType.convert_of_convert hd hr).2
  by_cases hu : d = .unknown
  · subst hu
    rw [DataType.convert_unknown hl, DataType.convert_unknown hr]
  · cases hln : l.isNull with
    | true =>
      rw [isNull_eq_true hln, isNull_eq_true (hnl.trans hln), agree_null_left, agree_null_left, hnr]
    | false =>
      cases hrn : r.isNull with
      | true =>
        rw [isNull_eq_true hrn, isNull_eq_true (hnr.trans hrn), agree_null_right,
          agree_null_right, hnl]
      | false =>
        rw [agree_plain hu (hnl.trans hln) (hnr.trans hrn), agree_plain hu hln hrn, hcompare]

/-! ## Values that do not keep their number -/

/-- A number of few digits less a decimal has few digits too. -/
theorem sub_bounds {n m : ExactDecimal} (hn : 0 ≤ n.scale ∧ n.scale ≤ 28)
    (hm : 0 ≤ m.scale ∧ m.scale ≤ 28) (hnu : n.unscaled.natAbs < 10 ^ 29)
    (hmu : m.unscaled.natAbs < 10 ^ 29) :
    (0 ≤ (n.sub m).scale ∧ (n.sub m).scale ≤ 28) ∧ (n.sub m).unscaled.natAbs < 10 ^ 60 := by
  have haligned : ∀ {u : ℤ} {k : ℕ}, u.natAbs < 10 ^ 29 → k ≤ 28 →
      (u * Nat.pow 10 k).natAbs < 10 ^ 57 := by
    intro u k hu hk
    calc (u * Nat.pow 10 k).natAbs = u.natAbs * 10 ^ k := by simp [Int.natAbs_mul]
      _ < 10 ^ 29 * 10 ^ k := Nat.mul_lt_mul_of_pos_right hu (by positivity)
      _ ≤ 10 ^ 29 * 10 ^ 28 := Nat.mul_le_mul_left _ (Nat.pow_le_pow_right (by norm_num) hk)
      _ = 10 ^ 57 := by norm_num
  have hx := haligned (k := (m.scale - n.scale).toNat) hnu (by omega)
  have hy := haligned (k := (n.scale - m.scale).toNat) hmu (by omega)
  refine ⟨⟨le_max_of_le_left hn.1, max_le hn.2 hm.2⟩, ?_⟩
  calc (n.sub m).unscaled.natAbs ≤ _ := Int.natAbs_sub_le _ _
    _ < 10 ^ 57 + 10 ^ 57 := Nat.add_lt_add hx hy
    _ ≤ 10 ^ 60 := by norm_num

theorem ofDecimal_bounds (d : Decimal) :
    (0 ≤ (ExactDecimal.ofDecimal d).scale ∧ (ExactDecimal.ofDecimal d).scale ≤ 28) ∧
      (ExactDecimal.ofDecimal d).unscaled.natAbs < 10 ^ 29 := by
  have hs := d.scale_le
  have hm := d.mantissa_lt
  unfold Decimal.mantissaLimit at hm
  simp only [ExactDecimal.ofDecimal, Decimal.unscaled]
  refine ⟨⟨by omega, by omega⟩, ?_⟩
  split <;> omega

/-- Beside a decimal there is a value that keeps its number at each of the distances `delta`. -/
theorem exists_text_at_distance (d delta : Decimal) (above : Bool) :
    ∃ s m, (Value.text s).toExact? = some m ∧ (Value.text s).KeepsNumber ∧
      m.toRat = if above then d.toRat + delta.toRat else d.toRat - delta.toRat := by
  obtain ⟨hds, hdu⟩ := ofDecimal_bounds d
  obtain ⟨hes, heu⟩ := ofDecimal_bounds delta
  cases above with
  | false =>
    obtain ⟨hs, hu⟩ := sub_bounds hds hes hdu heu
    obtain ⟨s, hexact, hkeep⟩ := Value.exists_text_of_number hs hu
    exact ⟨s, _, hexact, hkeep, ExactDecimal.toRat_sub _ _⟩
  | true =>
    let negated : ExactDecimal := ⟨-delta.unscaled, delta.scale⟩
    have hnegated : negated.toRat = -delta.toRat := by
      simp [negated, ExactDecimal.toRat, Decimal.toRat, ExactDecimal.ofDecimal]
    obtain ⟨hs, hu⟩ := sub_bounds (m := negated) hds hes hdu (by rwa [Int.natAbs_neg])
    obtain ⟨s, hexact, hkeep⟩ := Value.exists_text_of_number hs hu
    refine ⟨s, _, hexact, hkeep, ?_⟩
    rw [ExactDecimal.toRat_sub, hnegated, sub_neg_eq_add]
    rfl

theorem exists_slack (t : LogicalType) : ∃ delta : Decimal, delta.toRat = t.slack := by
  cases t with
  | plain d => exact ⟨Decimal.zero, by simp [Decimal.toRat, ExactDecimal.toRat,
      ExactDecimal.ofDecimal, Decimal.unscaled, Decimal.zero, slack]⟩
  | tolerant base delta => exact ⟨delta, rfl⟩

theorem exists_convert_of_toExact? (ht : t.ComparesNumbers) {v : Value} {n : ExactDecimal}
    (h : v.toExact? = some n) : ∃ w, t.convert v = .ok w ∧ v.comparableNumber = .ok w := by
  have hw : ∃ w, v.comparableNumber = .ok w := by
    unfold Value.comparableNumber
    rw [h]
    cases v.toDecimal <;> exact ⟨_, rfl⟩
  obtain ⟨w, hw⟩ := hw
  exact ⟨w, (convert_eq_ok ht).2 (.inr ⟨isNull_of_toExact? h, hw⟩), hw⟩

/-- Values that are told to agree or not by their numbers have numbers. -/
theorem exists_numbers_of_agree (ht : t.ComparesNumbers) {verdict : Bool} (hl : l.isNull = false)
    (hr : r.isNull = false) (h : t.agree l r = .ok verdict) :
    (∃ n, l.toExact? = some n) ∧ ∃ m, r.toExact? = some m := by
  cases t with
  | plain d =>
    rw [agree_plain (ne_unknown ht) hl hr, map_eq_ok, DataType.compare,
      show d.family = .exactNumeric from ht] at h
    simp only [bind_eq_ok, Value.orError, mapError_eq_ok, toExact_eq_ok] at h
    obtain ⟨_, ⟨n, hn, m, hm, -⟩, -⟩ := h
    exact ⟨⟨n, hn⟩, m, hm⟩
  | tolerant base delta =>
    unfold agree at h
    rw [hl, hr] at h
    simp only [Bool.or_self, Bool.false_eq_true, if_false, bind_eq_ok, Value.orError,
      mapError_eq_ok, toExact_eq_ok] at h
    obtain ⟨n, hn, m, hm, -⟩ := h
    exact ⟨⟨n, hn⟩, m, hm⟩

/-- A decimal that agrees with the same numbers as a value has the value's number: else the numbers
at the allowed distance from the decimal would tell them apart. -/
theorem toRat_eq_of_agree (ht : t.ComparesNumbers) (hslack : 0 ≤ t.slack) {d : Decimal}
    {n : ExactDecimal} (hl : l.toExact? = some n)
    (h : ∀ r r', t.convert r = .ok r' → r.KeepsNumber →
      t.agree (.decimal d) r' = t.agree l r) : n.toRat = d.toRat := by
  obtain ⟨delta, hdelta⟩ := exists_slack t
  obtain ⟨s, m, hm, hkeep, hdist⟩ :=
    exists_text_at_distance d delta (decide (n.toRat < d.toRat))
  obtain ⟨r', hr', hcomparable⟩ := exists_convert_of_toExact? ht hm
  obtain ⟨m₁, m', hm₁, hm', hmm⟩ :=
    exists_toExact?_of_comparableNumber hcomparable (hkeep r' hcomparable)
  rw [hm] at hm₁
  cases hm₁
  have hd : (Value.decimal d).toExact? = some (.ofDecimal d) := rfl
  have hagree := h _ r' hr' hkeep
  rw [agree_of_numbers ht hd hm', agree_of_numbers ht hl hm, ExactDecimal.toRat_ofDecimal,
    ← hmm, Except.ok.injEq, decide_eq_decide, hdist, hdelta] at hagree
  by_cases hlt : n.toRat < d.toRat
  · simp only [hlt, decide_true, if_true] at hagree
    have hnear := hagree.1 (by rw [sub_add_cancel_left, abs_neg, abs_of_nonneg hslack])
    rw [abs_le] at hnear
    linarith
  · simp only [hlt, decide_false, Bool.false_eq_true, if_false] at hagree
    have hnear := hagree.1 (by rw [sub_sub_cancel, abs_of_nonneg hslack])
    rw [abs_le] at hnear
    linarith

theorem keepsNumber_of_verdicts (ht : t.ComparesNumbers) (hslack : 0 ≤ t.slack)
    (hl : t.convert l = .ok l')
    (h : ∀ r r', t.convert r = .ok r' → r.KeepsNumber → t.agree l' r' = t.agree l r) :
    l.KeepsNumber := by
  intro w hw
  rcases (convert_eq_ok ht).1 hl with ⟨rfl, rfl⟩ | ⟨hnull, hl'⟩
  · cases hw
  rw [hl'] at hw
  cases hw
  -- zero is a partner that keeps its number and that only a number can be compared with
  have hzero : t.convert (.int 0) = .ok (.decimal (.ofInt64 0)) :=
    (convert_eq_ok ht).2 (.inr ⟨rfl, rfl⟩)
  have hpartner := h _ _ hzero (Value.keepsNumber_int 0)
  have hint : (Value.int 0).toExact? = some (.ofInt 0) := rfl
  have hdecimal : (Value.decimal (.ofInt64 0)).toExact? = some (.ofDecimal (.ofInt64 0)) := rfl
  rcases Value.comparableNumber_eq_ok.1 hl' with ⟨d, -, rfl⟩ | ⟨-, n, -, hn, rfl⟩
  · cases hn : l.toExact? with
    | none =>
      rw [agree_of_no_number ht hnull (isNull_of_toExact? hint) hn,
        agree_of_numbers ht (l := .decimal d) rfl hdecimal] at hpartner
      cases hpartner
    | some n =>
      rw [Value.number?_decimal, Value.number?, hn, Option.map_some,
        toRat_eq_of_agree ht hslack hn h]
  · rw [Value.number?_written, Value.number?, hn, Option.map_some]
    by_cases hfits : fitsInt64 n.normalize.scale = true
    · rw [if_pos hfits]
    · have hnone : (Value.written n).toExact? = none := by
        have hnumber := Value.number?_written n
        rw [if_neg hfits] at hnumber
        exact Option.map_eq_none_iff.1 hnumber
      rw [agree_of_no_number ht rfl (isNull_of_toExact? hdecimal) hnone,
        agree_of_numbers ht hn hint] at hpartner
      cases hpartner

/-- **Conversion keeps the verdicts about a value exactly where it keeps its number**, which the
two readings of the value decide; outside the exactly numeric types it keeps all verdicts. -/
theorem convert_keeps_verdicts_iff (hslack : 0 ≤ t.slack) (hl : t.convert l = .ok l') :
    (t.ComparesNumbers →
      ((∀ r r', t.convert r = .ok r' → r.KeepsNumber →
          t.agree l' r' = t.agree l r ∧ t.compare l' r' = t.compare l r) ↔ l.KeepsNumber)) ∧
    (l.KeepsNumber ↔ (∀ d, l.toDecimal = .ok d → l.number? = some d.toRat) ∧
      ∀ fault n, l.toDecimal = .error fault → l.toExact? = some n →
        fitsInt64 n.normalize.scale = true) ∧
    (¬ t.ComparesNumbers → ∀ r r', t.convert r = .ok r' →
      t.agree l' r' = t.agree l r ∧ t.compare l' r' = t.compare l r) := by
  refine ⟨fun ht => ⟨fun h => ?_, fun hk r r' hr hkr => ?_⟩, Value.keepsNumber_iff,
    fun ht r r' hr => ?_⟩
  · exact keepsNumber_of_verdicts ht hslack hl fun r r' hr hk => (h r r' hr hk).1
  · exact verdicts_of_sameNumber ht (sameNumber_of_convert ht hl hk)
      (sameNumber_of_convert ht hr hkr)
  · cases t with
    | plain d => exact verdicts_of_convert ht hl hr
    | tolerant base delta => exact absurd trivial ht

/-- The floating point number after the one nearest to three tenths. -/
def aboveThreeTenths : Value := .float ⟨4599075939470750516⟩

/-- The limited reading of `aboveThreeTenths` is three tenths, so some verdict about it changes. -/
theorem aboveThreeTenths_changes_verdict :
    (plain .numeric).convert aboveThreeTenths =
        .ok (.decimal { negative := false, mantissa := 3, scale := 1 }) ∧
      ¬ ∀ r r', (plain .numeric).convert r = .ok r' → r.KeepsNumber →
        (plain .numeric).agree (.decimal { negative := false, mantissa := 3, scale := 1 }) r' =
            (plain .numeric).agree aboveThreeTenths r ∧
          (plain .numeric).compare (.decimal { negative := false, mantissa := 3, scale := 1 }) r' =
            (plain .numeric).compare aboveThreeTenths r := by
  have hconvert : (plain .numeric).convert aboveThreeTenths =
      .ok (.decimal { negative := false, mantissa := 3, scale := 1 }) := by decide +kernel
  refine ⟨hconvert, fun h => ?_⟩
  have hreadings := convert_keeps_verdicts_iff (t := plain .numeric) le_rfl hconvert
  have hnumber := (hreadings.2.1.1 ((hreadings.1 rfl).1 h)).1
    { negative := false, mantissa := 3, scale := 1 } (by decide +kernel)
  have hexact : aboveThreeTenths.toExact? = some ⟨30000000000000004, 17⟩ := by decide +kernel
  rw [Value.number?, hexact] at hnumber
  norm_num [Decimal.toRat, ExactDecimal.toRat, ExactDecimal.ofDecimal, Decimal.unscaled] at hnumber

/-- A digit that the limited reader rounds away tells a text from one, but not its converted
form. -/
theorem rounded_text_changes_verdict :
    ∃ l' r', (plain .numeric).convert (.text "1.00000000000000000000000000001e0") = .ok l' ∧
      (plain .numeric).convert (.int 1) = .ok r' ∧
      (plain .numeric).agree (.text "1.00000000000000000000000000001e0") (.int 1) = .ok false ∧
      (plain .numeric).agree l' r' = .ok true := by
  refine ⟨.decimal { negative := false, mantissa := 10000000000000000000000000000, scale := 28 },
    .decimal .one, ?_, ?_, ?_, ?_⟩ <;> decide +kernel

end LogicalType

end TableDiff
