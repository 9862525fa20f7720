import TableDiff.Proofs.Conversion.Verdict
import TableDiff.Proofs.Numeric.Literal
import TableDiff.Proofs.Numeric.PrintedFloat

/-!
# Exact comparison

Which rational number a value denotes is said without a reader (`Value.Denotes`), and the exact
reading finds this number (`Value.number?_eq_some_iff`). Values of exactly numeric types are
compared by these numbers (`LogicalType.compares_denoted_numbers`): two of them agree where their
numbers are equal, or differ by no more than the type tolerates, and a value that denotes no number
cannot be compared.
-/

namespace TableDiff

open TableDiff.Numeric

namespace Value

/-- A value denotes a number. A text denotes the number of the literal that stands in it between
blanks; what a text denotes whose sign follows its point is left to the reader. -/
inductive Denotes : Value → ℚ → Prop
  | int (i : Int64) : Denotes (int i) i.toInt
  | bool (b : Bool) : Denotes (bool b) (if b then 1 else 0)
  | decimal (d : Decimal) : Denotes (decimal d) (d.unscaled / 10 ^ d.scale)
  | float {x : Binary64} (hfinite : x.isFinite = true) : Denotes (float x) x.printed
  | literal {s : String} {l : Literal} (htext : Text.trim s.toList = l.text)
      (hfits : fitsInt64 l.exact.scale = true) : Denotes (text s) l.value
  | signAfterPoint {s : String} {n : ExactDecimal}
      (hsign : ExactDecimal.SignAfterPoint (Text.trim s.toList))
      (hread : ExactDecimal.ofText? (Text.trim s.toList) = some n) : Denotes (text s) n.toRat

variable {v : Value} {q : ℚ}

theorem Denotes.number?_eq (h : v.Denotes q) : v.number? = some q := by
  cases h with
  | int i => simp [number?, toExact?, ExactDecimal.toRat_ofInt]
  | bool b => cases b <;> simp [number?, toExact?, ExactDecimal.toRat_ofInt]
  | decimal d => rw [number?_decimal, Decimal.toRat_eq_div]
  | @float x hfinite =>
    have hread := Binary64.ofText?_text hfinite
    simpa only [number?, toExact?, hfinite, if_true] using hread
  | literal htext hfits =>
    rw [number?, toExact?_text, htext, ExactDecimal.ofText?_literal, if_pos hfits, Option.map_some,
      Literal.toRat_exact]
  | signAfterPoint hsign hread => rw [number?, toExact?_text, hread, Option.map_some]

theorem denotes_text {s : String} (h : (text s).number? = some q) : (text s).Denotes q := by
  obtain ⟨n, hread, rfl⟩ := Option.map_eq_some_iff.1 h
  rw [toExact?_text] at hread
  by_cases hsign : ExactDecimal.SignAfterPoint (Text.trim s.toList)
  · exact .signAfterPoint hsign hread
  · obtain ⟨l, htext, hfits, rfl⟩ := ExactDecimal.exists_literal hread hsign
    rw [Literal.toRat_exact]
    exact .literal htext.symm hfits

/-- **The exact reading finds the number that a value denotes**, and finds none elsewhere. -/
theorem number?_eq_some_iff : v.number? = some q ↔ v.Denotes q := by
  refine ⟨fun h => ?_, Denotes.number?_eq⟩
  -- outside of texts and numbers that are not finite, each value denotes some number
  have hread : ∀ {p : ℚ}, v.Denotes p → v.Denotes q := by
    intro p hp
    rw [hp.number?_eq] at h
    cases h
    exact hp
  cases v with
  | int i => exact hread (.int i)
  | bool b => exact hread (.bool b)
  | decimal d => exact hread (.decimal d)
  | text s => exact denotes_text h
  | float x =>
    cases hfinite : x.isFinite with
    | true => exact hread (.float hfinite)
    | false => simp [number?, toExact?, hfinite] at h
  | _ => cases h

theorem toExact?_eq_none_iff : v.toExact? = none ↔ ∀ q, ¬ v.Denotes q := by
  rw [← Option.map_eq_none_iff (f := ExactDecimal.toRat)]
  show v.number? = none ↔ _
  simp only [← number?_eq_some_iff, Option.eq_none_iff_forall_ne_some, ne_eq]

theorem Denotes.exists_toExact? (h : v.Denotes q) : ∃ n, v.toExact? = some n ∧ n.toRat = q :=
  Option.map_eq_some_iff.1 h.number?_eq

end Value

namespace LogicalType

variable {t : LogicalType} {l r : Value} {x y : ℚ}

theorem agree_of_denotes (ht : t.ComparesNumbers) (hl : l.Denotes x) (hr : r.Denotes y) :
    t.agree l r = .ok (decide (|x - y| ≤ t.slack)) := by
  obtain ⟨n, hn, rfl⟩ := hl.exists_toExact?
  obtain ⟨m, hm, rfl⟩ := hr.exists_toExact?
  exact agree_of_numbers ht hn hm

theorem compare_plain_of_denotes {d : DataType} (hd : d.family = .exactNumeric)
    (hl : l.Denotes x) (hr : r.Denotes y) : (plain d).compare l r = .ok (cmp x y) := by
  obtain ⟨n, hn, rfl⟩ := hl.exists_toExact?
  obtain ⟨m, hm, rfl⟩ := hr.exists_toExact?
  exact compare_plain_of_numbers hd hn hm

/-- Whichever side a value without a number stands on, comparing it fails with an error about one
of the two values, and so does asking whether it agrees, unless with null. -/
theorem errors_of_no_number (ht : t.ComparesNumbers) {v w : Value} (hnull : v.isNull = false)
    (hv : ∀ q, ¬ v.Denotes q) :
    t.compare v w = .error ⟨v, t.name, .notANumber⟩ ∧
      (∃ u, (u = v ∨ u = w) ∧ t.compare w v = .error ⟨u, t.name, .notANumber⟩) ∧
      (w.isNull = false → t.agree v w = .error ⟨v, t.name, .notANumber⟩ ∧
        ∃ u, (u = v ∨ u = w) ∧ t.agree w v = .error ⟨u, t.name, .notANumber⟩) := by
  have hnone : v.toExact? = none := Value.toExact?_eq_none_iff.2 hv
  refine ⟨compare_of_no_number ht (.inl hnull) hnone, ?_, fun hw => ⟨?_, ?_⟩⟩
  · cases hw : w.toExact? with
    | none => exact ⟨w, .inr rfl, compare_of_no_number ht (.inr hnull) hw⟩
    | some n => exact ⟨v, .inl rfl, compare_number_of_no_number ht hw hnone⟩
  · exact agree_of_no_number ht hnull hw hnone
  · cases hnumber : w.toExact? with
    | none => exact ⟨w, .inr rfl, agree_of_no_number ht hw hnull hnumber⟩
    | some n => exact ⟨v, .inl rfl, agree_number_of_no_number ht hnumber hnull hnone⟩

/-- **Values of exactly numeric types are compared by the rational numbers that they denote.** -/
theorem compares_denoted_numbers {d : DataType} (hd : d = .numeric ∨ d = .decimal)
    (base : DataType) (delta : Decimal) :
    (∀ l r x y, l.Denotes x → r.Denotes y →
      (plain d).compare l r = .ok (cmp x y) ∧
      (plain d).agree l r = .ok (decide (x = y)) ∧
      (tolerant base delta).agree l r = .ok (decide (|x - y| ≤ delta.toRat)) ∧
      (delta.toRat = 0 → (tolerant base delta).agree l r = (plain d).agree l r) ∧
      ∀ wider : Decimal, delta.toRat ≤ wider.toRat →
        (tolerant base delta).agree l r = .ok true → (tolerant base wider).agree l r = .ok true) ∧
    ∀ t, t = plain d ∨ t = tolerant base delta → ∀ v w : Value, v.isNull = false →
      (∀ q, ¬ v.Denotes q) →
      t.compare v w = .error ⟨v, t.name, .notANumber⟩ ∧
      (∃ u, (u = v ∨ u = w) ∧ t.compare w v = .error ⟨u, t.name, .notANumber⟩) ∧
      (w.isNull = false → t.agree v w = .error ⟨v, t.name, .notANumber⟩ ∧
        ∃ u, (u = v ∨ u = w) ∧ t.agree w v = .error ⟨u, t.name, .notANumber⟩) := by
  have hfamily : d.family = .exactNumeric := by
    rcases hd with rfl | rfl <;> rfl
  have hplain : (plain d).ComparesNumbers := hfamily
  have htolerant : ∀ delta, (tolerant base delta).ComparesNumbers := fun _ => trivial
  constructor
  · intro l r x y hl hr
    have hagree : (plain d).agree l r = .ok (decide (x = y)) := by
      rw [agree_of_denotes hplain hl hr]
      exact congrArg _ (decide_eq_decide.2 abs_sub_nonpos_iff)
    refine ⟨compare_plain_of_denotes hfamily hl hr, hagree,
      agree_of_denotes (htolerant delta) hl hr, fun hzero => ?_, fun wider hle h => ?_⟩
    · rw [agree_of_denotes (htolerant delta) hl hr, agree_of_denotes hplain hl hr, slack, slack,
        hzero]
    · rw [agree_of_denotes (htolerant _) hl hr, Except.ok.injEq, decide_eq_true_iff] at h ⊢
      exact h.trans hle
  · rintro t (rfl | rfl) v w hnull hv
    · exact errors_of_no_number hplain hnull hv
    · exact errors_of_no_number (htolerant delta) hnull hv

/-- Fifteen with an exponent is the integer fifteen, a hundredth more agrees with it up to a
hundredth, and a word has no place in the order. -/
theorem fifteen_compared :
    (plain .numeric).compare (.text "1.50e1") (.int 15) = .ok .eq ∧
      (tolerant .numeric { negative := false, mantissa := 1, scale := 2 }).agree
        (.text " 15.01 ") (.int 15) = .ok true ∧
      (plain .numeric).compare (.text "fifteen") (.int 15) =
        .error ⟨.text "fifteen", "NUMERIC", .notANumber⟩ := by
  have hint : (Value.int 15).Denotes 15 := .int 15
  have hexponent : (Value.text "1.50e1").Denotes 15 := by
    have hread : (Value.text "1.50e1").toExact? = some ⟨150, 1⟩ := by decide +kernel
    refine Value.number?_eq_some_iff.1 ?_
    rw [Value.number?, hread]
    norm_num [ExactDecimal.toRat]
  have hnear : (Value.text " 15.01 ").Denotes (1501 / 100) := by
    have hread : (Value.text " 15.01 ").toExact? = some ⟨1501, 2⟩ := by decide +kernel
    refine Value.number?_eq_some_iff.1 ?_
    rw [Value.number?, hread]
    norm_num [ExactDecimal.toRat]
  have hword : ∀ q, ¬ (Value.text "fifteen").Denotes q :=
    Value.toExact?_eq_none_iff.1 (by decide +kernel)
  obtain ⟨hnumbers, herrors⟩ := compares_denoted_numbers (.inl rfl) .numeric
    { negative := false, mantissa := 1, scale := 2 }
  refine ⟨?_, ?_, (herrors _ (.inl rfl) _ _ rfl hword).1⟩
  · rw [(hnumbers _ _ _ _ hexponent hint).1, cmp_self_eq_eq]
  · rw [(hnumbers _ _ _ _ hnear hint).2.2.1]
    norm_num [abs_le, Decimal.toRat, ExactDecimal.toRat, ExactDecimal.ofDecimal, Decimal.unscaled]

end LogicalType

end TableDiff
