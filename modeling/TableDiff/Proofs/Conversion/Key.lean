import TableDiff.Proofs.Conversion.Verdict
import TableDiff.Proofs.Value.Equality

/-!
# Normalized values as keys

Normalized values are equal in the order of values exactly where the values agree under their type
(`compare_eq_iff_agree`). For the exactly numeric types this takes values whose comparable form is
the one that belongs to their number (`Value.Canonical`): a decimal if some decimal has the number,
else the written number. A value of another form is kept apart from a value that it agrees with, or
taken for one that it does not agree with (`canonical_iff`).

For equal keys to be keys of values that agree, less is enough: the limited reading must find the
number of the value wherever it finds one (`Value.ReadsFaithfully`, `sameNumber_of_compare_eq`).
-/

namespace TableDiff

open TableDiff.Numeric

namespace Value

variable {u v : Value}

/-- The comparable form of a value is the one that belongs to the number of the value. -/
def Canonical (v : Value) : Prop :=
  ∀ w, v.comparableNumber = .ok w → ∃ n, v.toExact? = some n ∧
    ((∃ d, w = decimal d ∧ d.toRat = n.toRat) ∨
      (w = written n ∧ ∀ d : Decimal, d.toRat ≠ n.toRat))

/-- A value has its canonical form exactly where the limited reading finds its number, and fails
only for numbers that no decimal has. -/
theorem canonical_iff_readings : v.Canonical ↔
    (∀ d, v.toDecimal = .ok d → v.number? = some d.toRat) ∧
      ∀ fault n, v.toDecimal = .error fault → v.toExact? = some n →
        ∀ d : Decimal, d.toRat ≠ n.toRat := by
  constructor
  · intro h
    refine ⟨fun d hd => ?_, fun fault n hf hn => ?_⟩
    · obtain ⟨n, hn, ⟨a, ha, hrat⟩ | ⟨ha, -⟩⟩ := h _ (comparableNumber_eq_ok.2 (.inl ⟨d, hd, rfl⟩))
      · cases ha
        rw [number?, hn, Option.map_some, hrat]
      · cases ha
    · obtain ⟨m, hm, ⟨a, ha, -⟩ | ⟨-, hno⟩⟩ :=
        h _ (comparableNumber_eq_ok.2 (.inr ⟨fault, n, hf, hn, rfl⟩))
      · cases ha
      · rw [hn] at hm
        cases hm
        exact hno
  · rintro ⟨hlimited, hexact⟩ w hw
    rcases comparableNumber_eq_ok.1 hw with ⟨d, hd, rfl⟩ | ⟨fault, n, hf, hn, rfl⟩
    · obtain ⟨n, hn, hrat⟩ := Option.map_eq_some_iff.1 (hlimited d hd)
      exact ⟨n, hn, .inl ⟨d, rfl, hrat.symm⟩⟩
    · exact ⟨n, hn, .inr ⟨rfl, hexact fault n hf hn⟩⟩

theorem canonical_decimal (d : Decimal) : (decimal d).Canonical := by
  rintro _ ⟨⟩
  exact ⟨.ofDecimal d, rfl, .inl ⟨d, rfl, rfl⟩⟩

theorem canonical_null : null.Canonical := fun _ h => nomatch h

/-- The limited reading of a value, if there is one, finds the number of the value. -/
def ReadsFaithfully (v : Value) : Prop := ∀ d, v.toDecimal = .ok d → v.number? = some d.toRat

theorem readsFaithfully_decimal (d : Decimal) : (decimal d).ReadsFaithfully := by
  rintro _ ⟨⟩
  rfl

/-- A comparable form is then a decimal of the number or the written number. -/
theorem ReadsFaithfully.form {x : Value} (hv : v.ReadsFaithfully)
    (hx : v.comparableNumber = .ok x) : ∃ n, v.toExact? = some n ∧
      ((∃ d, x = decimal d ∧ d.toRat = n.toRat) ∨ x = written n) := by
  rcases comparableNumber_eq_ok.1 hx with ⟨d, hd, rfl⟩ | ⟨-, n, -, hn, rfl⟩
  · obtain ⟨n, hn, hrat⟩ := Option.map_eq_some_iff.1 (hv d hd)
    exact ⟨n, hn, .inl ⟨d, rfl, hrat.symm⟩⟩
  · exact ⟨n, hn, .inr rfl⟩

/-! ## The order of comparable forms -/

theorem compare_decimal (a b : Decimal) :
    (decimal a).compare (decimal b) = .eq ↔ a.toRat = b.toRat := by
  show a.compare b = .eq ↔ _
  rw [Decimal.compare_eq_cmp, cmp_eq_eq_iff]

theorem compare_written (n m : ExactDecimal) :
    (written n).compare (written m) = .eq ↔ n.toRat = m.toRat := by
  show Ord.compare (String.ofList n.normalize.text) (String.ofList m.normalize.text) = .eq ↔ _
  rw [Std.LawfulEqOrd.compare_eq_iff_eq, String.ofList_inj]
  constructor
  · intro h
    rw [← ExactDecimal.toRat_normalize n, ExactDecimal.toRat_eq_of_text_eq h,
      ExactDecimal.toRat_normalize]
  · intro h
    rw [ExactDecimal.normalize_eq_iff.2 h]

theorem compare_decimal_written (d : Decimal) (n : ExactDecimal) :
    (decimal d).compare (written n) ≠ .eq ∧ (written n).compare (decimal d) ≠ .eq :=
  ⟨fun h => (nomatch kind_eq_of_compare h), fun h => (nomatch kind_eq_of_compare h)⟩

/-- The comparable forms of canonical values are equal exactly where their numbers are. -/
theorem Canonical.compare_eq_iff {x y : Value} (hu : u.Canonical) (hv : v.Canonical)
    (hx : u.comparableNumber = .ok x) (hy : v.comparableNumber = .ok y) :
    ∃ n m, u.toExact? = some n ∧ v.toExact? = some m ∧
      (x.compare y = .eq ↔ n.toRat = m.toRat) := by
  obtain ⟨n, hn, hx⟩ := hu x hx
  obtain ⟨m, hm, hy⟩ := hv y hy
  refine ⟨n, m, hn, hm, ?_⟩
  rcases hx with ⟨a, rfl, ha⟩ | ⟨rfl, hno⟩ <;> rcases hy with ⟨b, rfl, hb⟩ | ⟨rfl, hno'⟩
  · rw [compare_decimal, ha, hb]
  · exact iff_of_false (compare_decimal_written a m).1 fun h => hno' a (ha.trans h)
  · exact iff_of_false (compare_decimal_written b n).2 fun h => hno b (hb.trans h.symm)
  · exact compare_written n m

/-- Equal comparable forms are of equal numbers, if both values are read faithfully. -/
theorem ReadsFaithfully.toRat_eq {x y : Value} (hu : u.ReadsFaithfully) (hv : v.ReadsFaithfully)
    (hx : u.comparableNumber = .ok x) (hy : v.comparableNumber = .ok y)
    (h : x.compare y = .eq) :
    ∃ n m, u.toExact? = some n ∧ v.toExact? = some m ∧ n.toRat = m.toRat := by
  obtain ⟨n, hn, hx⟩ := hu.form hx
  obtain ⟨m, hm, hy⟩ := hv.form hy
  refine ⟨n, m, hn, hm, ?_⟩
  rcases hx with ⟨a, rfl, ha⟩ | rfl <;> rcases hy with ⟨b, rfl, hb⟩ | rfl
  · rw [← ha, ← hb, (compare_decimal a b).1 h]
  · exact absurd h (compare_decimal_written a m).1
  · exact absurd h (compare_decimal_written b n).2
  · exact (compare_written n m).1 h

end Value

namespace LogicalType

variable {t : LogicalType} {u v : Value}

/-- Values of the same number agree under every type that compares numbers. -/
theorem agree_of_sameNumber (ht : t.ComparesNumbers) (hs : 0 ≤ t.slack) (h : SameNumber u v) :
    t.agree u v = .ok true := by
  rcases h with ⟨rfl, rfl⟩ | ⟨n, m, hn, hm, hnm⟩
  · rfl
  · rw [agree_of_numbers ht hn hm, hnm, sub_self, abs_zero, decide_eq_true hs]

theorem agree_unknown_of_same (hnull : u.isNull = v.isNull) (h : u.same v = true) :
    unknown.agree u v = .ok true := by
  cases hv : v.isNull with
  | true =>
    rw [isNull_eq_true hv, isNull_eq_true (hnull.trans hv)]
    rfl
  | false =>
    unfold agree
    rw [hnull, hv, h]
    rfl

end LogicalType

namespace DataType

variable {d : DataType} {u v x y : Value}

theorem normalize_eq_ok : d.normalize u = .ok x ↔
    ∃ w, d.convert u = .ok w ∧ x = if d.isFormatInsensitive then d.dropFormat w else w := by
  unfold normalize
  simp only [bind_eq_ok, pure_eq_ok]
  exact exists_congr fun w => and_congr_right fun _ => eq_comm

theorem normalize_of_exactNumeric (hd : d.family = .exactNumeric) (u : Value) :
    d.normalize u = d.convert u := by
  have hf : d.isFormatInsensitive = false := by cases d <;> first | rfl | cases hd
  unfold normalize
  rw [hf]
  cases d.convert u <;> rfl

theorem isNull_dropFormat (d : DataType) (w : Value) : (d.dropFormat w).isNull = w.isNull := by
  cases w <;> try rfl
  simp only [dropFormat]
  split <;> rfl

theorem isNull_convert (h : d.convert u = .ok x) : x.isNull = u.isNull := by
  by_cases hd : d.family = .exactNumeric
  · rcases (LogicalType.convert_eq_ok (t := .plain d) hd).1 h with ⟨rfl, rfl⟩ | ⟨hu, hx⟩
    · rfl
    · rcases Value.comparableNumber_eq_ok.1 hx with ⟨a, -, rfl⟩ | ⟨-, n, -, -, rfl⟩ <;>
        exact hu.symm
  · exact (convert_of_convert hd h).2

theorem isNull_normalize (h : d.normalize u = .ok x) : x.isNull = u.isNull := by
  obtain ⟨w, hw, rfl⟩ := normalize_eq_ok.1 h
  rw [← isNull_convert hw]
  split
  · exact isNull_dropFormat d w
  · rfl

theorem isNull_eq_of_compare (h : x.compare y = .eq) : x.isNull = y.isNull := by
  have hk := Value.kind_eq_of_compare h
  cases x <;> cases y <;> first | rfl | cases hk

/-- Values with numbers agree under an exactly numeric type where the numbers are equal. -/
theorem agree_iff_of_numbers (hd : d.family = .exactNumeric) {n m : ExactDecimal}
    (hn : u.toExact? = some n) (hm : v.toExact? = some m) :
    LogicalType.agree (.plain d) u v = .ok true ↔ n.toRat = m.toRat := by
  have hnumeric : (LogicalType.plain d).ComparesNumbers := hd
  rw [LogicalType.agree_of_numbers hnumeric hn hm, Except.ok.injEq, decide_eq_true_iff,
    LogicalType.slack, LogicalType.abs_sub_nonpos_iff]

/-- The keys of values under an exactly numeric type are their comparable forms. -/
theorem normalize_of_comparable (hd : d.family = .exactNumeric) (hu : u.isNull = false)
    (hx : u.comparableNumber = .ok x) : d.normalize u = .ok x := by
  have hnumeric : (LogicalType.plain d).ComparesNumbers := hd
  rw [normalize_of_exactNumeric hd]
  exact (LogicalType.convert_eq_ok hnumeric).2 (.inr ⟨hu, hx⟩)

/-- **Normalized values are equal exactly where the values agree.** -/
theorem compare_eq_iff_agree (hd : d ≠ .unknown) (hu : d.family = .exactNumeric → u.Canonical)
    (hv : d.family = .exactNumeric → v.Canonical) (hx : d.normalize u = .ok x)
    (hy : d.normalize v = .ok y) :
    x.compare y = .eq ↔ LogicalType.agree (.plain d) u v = .ok true := by
  have hxu := isNull_normalize hx
  have hyv := isNull_normalize hy
  cases hun : u.isNull with
  | true =>
    have hxn := LogicalType.isNull_eq_true (hxu.trans hun)
    rw [LogicalType.isNull_eq_true hun, LogicalType.agree_null_left, hxn, Except.ok.injEq, ← hyv]
    refine ⟨fun h => (isNull_eq_of_compare h).symm, fun h => ?_⟩
    rw [LogicalType.isNull_eq_true h]
    rfl
  | false =>
    cases hvn : v.isNull with
    | true =>
      have hyn := LogicalType.isNull_eq_true (hyv.trans hvn)
      rw [LogicalType.isNull_eq_true hvn, LogicalType.agree_null_right, hyn, hun]
      refine iff_of_false (fun h => ?_) (by simp)
      have hnull := isNull_eq_of_compare h
      rw [hxu, hun] at hnull
      cases hnull
    | false =>
      by_cases hf : d.family = .exactNumeric
      · rw [normalize_of_exactNumeric hf] at hx hy
        have hnumeric : (LogicalType.plain d).ComparesNumbers := hf
        have hxc := ((LogicalType.convert_eq_ok hnumeric).1 hx).resolve_left
          fun h => by simp [h.1, Value.isNull] at hun
        have hyc := ((LogicalType.convert_eq_ok hnumeric).1 hy).resolve_left
          fun h => by simp [h.1, Value.isNull] at hvn
        obtain ⟨n, m, hn, hm, hiff⟩ := (hu hf).compare_eq_iff (hv hf) hxc.2 hyc.2
        rw [hiff, agree_iff_of_numbers hf hn hm]
      · have hcompare : d.compare u v = .ok (x.compare y) := by
          rw [compare_of_not_exactNumeric hf hd, hx, hy]
          rfl
        rw [LogicalType.agree_plain hd hun hvn, hcompare]
        simp [Except.map]

/-- **Only canonical values are told apart from others as their type does.** -/
theorem canonical_iff (hd : d.family = .exactNumeric) (hx : d.normalize u = .ok x) :
    u.Canonical ↔ ∀ v y, v.Canonical → d.normalize v = .ok y →
      (x.compare y = .eq ↔ LogicalType.agree (.plain d) u v = .ok true) := by
  have hnumeric : (LogicalType.plain d).ComparesNumbers := hd
  constructor
  · intro hu v y hv hy
    exact compare_eq_iff_agree (LogicalType.ne_unknown hd) (fun _ => hu) (fun _ => hv) hx hy
  · intro h w hw
    rw [normalize_of_exactNumeric hd] at hx
    rcases (LogicalType.convert_eq_ok hnumeric).1 hx with ⟨rfl, -⟩ | ⟨hun, hxw⟩
    · cases hw
    rw [hxw] at hw
    cases hw
    -- a decimal is equal to itself as a key, and to no written number
    have hdecimal := fun a => h (.decimal a) _ (Value.canonical_decimal a)
      (normalize_of_comparable hd rfl rfl)
    rcases Value.comparableNumber_eq_ok.1 hxw with ⟨a, -, rfl⟩ | ⟨-, n, -, hn, rfl⟩
    · have hagree := (hdecimal a).1 ((Value.compare_decimal a a).2 rfl)
      cases hn : u.toExact? with
      | none =>
        rw [LogicalType.agree_of_no_number hnumeric hun rfl hn] at hagree
        cases hagree
      | some n =>
        rw [agree_iff_of_numbers hd hn (m := .ofDecimal a) rfl] at hagree
        exact ⟨n, rfl, .inl ⟨a, rfl, hagree.symm⟩⟩
    · refine ⟨n, hn, .inr ⟨rfl, fun a ha => (Value.compare_decimal_written a n).2 ?_⟩⟩
      exact (hdecimal a).2 ((agree_iff_of_numbers hd hn (m := .ofDecimal a) rfl).2 ha.symm)

/-! ## Values with equal keys -/

/-- Values that an exactly numeric type normalizes alike denote the same number, if they are read
faithfully. -/
theorem sameNumber_of_compare_eq (hd : d.family = .exactNumeric) (hu : u.ReadsFaithfully)
    (hv : v.ReadsFaithfully) (hx : d.normalize u = .ok x) (hy : d.normalize v = .ok y)
    (h : x.compare y = .eq) : LogicalType.SameNumber u v := by
  have hnumeric : (LogicalType.plain d).ComparesNumbers := hd
  have hnull := isNull_eq_of_compare h
  rw [isNull_normalize hx, isNull_normalize hy] at hnull
  rw [normalize_of_exactNumeric hd] at hx hy
  rcases (LogicalType.convert_eq_ok hnumeric).1 hx with ⟨rfl, -⟩ | ⟨hun, hx⟩
  · exact .inl ⟨rfl, LogicalType.isNull_eq_true hnull.symm⟩
  rcases (LogicalType.convert_eq_ok hnumeric).1 hy with ⟨rfl, -⟩ | ⟨-, hy⟩
  · rw [hun] at hnull
    cases hnull
  · exact .inr (hu.toRat_eq hv hx hy h)

theorem normalize_unknown (v : Value) : unknown.normalize v = .ok v := by
  cases v <;> rfl

/-- Outside the exactly numeric types values that are normalized alike agree, under the unknown type
unless they are no numbers. -/
theorem agree_of_compare_eq (hd : d.family ≠ .exactNumeric) (hn : d = .unknown → u.isNaN = false)
    (hx : d.normalize u = .ok x) (hy : d.normalize v = .ok y) (h : x.compare y = .eq) :
    LogicalType.agree (.plain d) u v = .ok true := by
  by_cases hu : d = .unknown
  · subst hu
    rw [normalize_unknown] at hx hy
    cases hx
    cases hy
    exact LogicalType.agree_unknown_of_same (isNull_eq_of_compare h)
      (Value.same_of_compare_eq h (hn rfl))
  · exact (compare_eq_iff_agree hu (fun hf => absurd hf hd) (fun hf => absurd hf hd) hx hy).1 h

end DataType

end TableDiff
