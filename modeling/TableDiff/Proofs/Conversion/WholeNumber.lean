import TableDiff.Proofs.Conversion.TypeOrder
import TableDiff.Proofs.Numeric.PlainLiteral
import TableDiff.Proofs.Numeric.WholeFloat
import TableDiff.Proofs.Numeric.WholePart

/-!
# Conversion to integers

A value is converted to an integer by truncating the number that the limited reading finds. This is
the whole part of the number that the value denotes exactly if the limited reading has the same
whole part (`truncatesNumber_iff`). Integers, truth values, decimals and whole floating point numbers
below `2 ^ 53` are truncated, and so is a plain literal whose digits fit a decimal. Digits that do
not fit are refused, even where they are decimal places only, and floating point numbers close below
an integer are rounded up to it first.
-/

namespace TableDiff

open TableDiff.Numeric

/-- The number that the limited reading finds. -/
def Value.limitedNumber? (v : Value) : Option ℚ := v.toDecimal.toOption.map Decimal.toRat

/-- The type converts a value to the whole part of the number that the value denotes. It refuses the
value if the whole part does not fit, or if the value denotes no number. -/
structure DataType.TruncatesNumber (d : DataType) (v : Value) : Prop where
  whole : ∀ q, v.number? = some q → fitsInt64 (towardZero q) = true →
    d.convert v = .ok (.int (Int64.ofInt (towardZero q)))
  outOfRange : ∀ q, v.number? = some q → fitsInt64 (towardZero q) = false →
    ∃ e, d.convert v = .error e
  noNumber : v.number? = none → ∃ e, d.convert v = .error e

namespace Value

variable {v : Value}

/-! ## The whole part of the limited reading -/

theorem truncated_toOption (r : Except ConversionFault Decimal) :
    (do
      let n := (← r).truncate
      if fitsInt64 n then .ok (Int64.ofInt n) else .error .outOfRange :
        Except ConversionFault Int64).toOption = (r.toOption.map Decimal.toRat).bind wholePart? := by
  cases r with
  | error fault => rfl
  | ok a =>
    show (if fitsInt64 a.truncate then .ok (Int64.ofInt a.truncate) else .error .outOfRange :
      Except ConversionFault Int64).toOption = wholePart? a.toRat
    rw [Decimal.wholePart?_toRat]
    split <;> rfl

/-- The integer of a value is the whole part of the number that the limited reading finds. -/
theorem toInteger_toOption (v : Value) :
    v.toInteger.toOption = v.limitedNumber?.bind wholePart? := by
  cases v with
  | int i =>
    show some i = wholePart? (Decimal.ofInt64 i).toRat
    rw [Decimal.wholePart?_toRat, Decimal.truncate_ofInt64, if_pos (fitsInt64_toInt i),
      Int64.ofInt_toInt]
  | bool b =>
    show some (if b then 1 else 0) = wholePart? (Decimal.ofBool b).toRat
    rw [Decimal.wholePart?_toRat]
    cases b <;> rfl
  | _ => exact truncated_toOption _

/-! ## Where both readings find one number -/

theorem limitedNumber?_eq (htext : v.kind ≠ .text) (hfloat : v.kind ≠ .float) :
    v.limitedNumber? = v.number? := by
  cases v with
  | int i =>
    show some (Decimal.ofInt64 i).toRat = some (ExactDecimal.ofInt i.toInt).toRat
    rw [Decimal.toRat_ofInt64, ExactDecimal.toRat_ofInt]
  | bool b =>
    show some (Decimal.ofBool b).toRat = some (ExactDecimal.ofInt (if b then 1 else 0)).toRat
    rw [Decimal.toRat_ofBool, ExactDecimal.toRat_ofInt]
    cases b <;> simp
  | text s => exact absurd rfl htext
  | float x => exact absurd rfl hfloat
  | _ => rfl

theorem limitedNumber?_whole {x : Binary64} {n : ℕ} (h : x.IsWhole n) (hn : n < 2 ^ 53) :
    (float x).limitedNumber? = (float x).number? := by
  obtain ⟨d, hd, hrat⟩ := Decimal.ofBinary64?_whole h hn
  have hfinite := h.isFinite hn
  have hlimited : (float x).toDecimal = .ok d := by
    simp only [toDecimal, hd]
  have hexact : (float x).number? = some x.printed := by
    rw [number?, toExact?, if_pos hfinite]
    exact Binary64.ofText?_text hfinite
  rw [limitedNumber?, hlimited, hexact, Binary64.printed_whole h hn, ← hrat]
  rfl

theorem limitedNumber?_fits {s : String} {l : Literal} (hs : Text.trim s.toList = l.text)
    (hl : l.IsPlain) (hfit : l.DigitsFit) : (text s).limitedNumber? = (text s).number? := by
  obtain ⟨d, hd⟩ := (Decimal.exists_ofTextExact?_iff hl).2 hfit
  have hlimited : (text s).toDecimal = .ok d := by
    simp only [toDecimal, hs, hd, Option.some_or]
  rw [limitedNumber?, hlimited, number?, toExact?_text, hs, ExactDecimal.ofText?_of_ofTextExact? hd]
  rfl

theorem limitedNumber?_eq_none {s : String} {l : Literal} (hs : Text.trim s.toList = l.text)
    (hl : l.IsPlain) (hfit : ¬ l.DigitsFit) : (text s).limitedNumber? = none := by
  have hexact : Decimal.ofTextExact? l.text = none := by
    rw [Option.eq_none_iff_forall_ne_some]
    intro d hd
    exact hfit ((Decimal.exists_ofTextExact?_iff hl).1 ⟨d, hd⟩)
  have hscientific : Decimal.ofScientific? l.text = none := by
    rw [Decimal.ofScientific?, Decimal.splitExponent?_literal hl]
    rfl
  have hlimited : (text s).toDecimal = .error .notANumber := by
    simp only [toDecimal, hs, hexact, hscientific, Option.none_or]
  rw [limitedNumber?, hlimited]
  rfl

end Value

namespace DataType

variable {d : DataType} {v : Value}

theorem convert_toOption (hd : d.family = .integer) (hv : v.isNull = false) :
    (d.convert v).toOption = (v.limitedNumber?.bind wholePart?).map .int := by
  rw [← Value.toInteger_toOption, convert, hv, if_neg (by decide), hd]
  show (v.orError d.name (v.toInteger.map Value.int)).toOption = v.toInteger.toOption.map Value.int
  cases v.toInteger <;> rfl

theorem truncatesNumber_iff_toOption :
    d.TruncatesNumber v ↔ (d.convert v).toOption = (v.number?.bind wholePart?).map .int := by
  constructor
  · intro h
    cases hq : v.number? with
    | none =>
      obtain ⟨e, he⟩ := h.noNumber hq
      rw [he]
      rfl
    | some q =>
      rw [Option.bind_some, wholePart?]
      cases hfits : fitsInt64 (towardZero q) with
      | true =>
        rw [h.whole q hq hfits]
        rfl
      | false =>
        obtain ⟨e, he⟩ := h.outOfRange q hq hfits
        rw [he]
        rfl
  · intro h
    constructor
    · intro q hq hfits
      rw [hq, Option.bind_some, wholePart?, if_pos hfits] at h
      exact toOption_eq_some.1 h
    · intro q hq hfits
      rw [hq, Option.bind_some, wholePart?, hfits, if_neg (by decide)] at h
      exact toOption_eq_none.1 h
    · intro hq
      rw [hq] at h
      exact toOption_eq_none.1 h

theorem truncatesNumber_iff_wholeParts (hd : d.family = .integer) (hv : v.isNull = false) :
    d.TruncatesNumber v ↔ v.limitedNumber?.bind wholePart? = v.number?.bind wholePart? := by
  rw [truncatesNumber_iff_toOption, convert_toOption hd hv]
  exact (Option.map_injective fun _ _ => Value.int.inj).eq_iff

/-- **A value is converted to the whole part of the number that the limited reading finds.** So the
number that the value denotes is truncated exactly if the limited reading has the same whole part. -/
theorem truncatesNumber_iff (hd : d.family = .integer) (hv : v.isNull = false) :
    (d.convert v).toOption = (v.limitedNumber?.bind wholePart?).map .int ∧
    (d.TruncatesNumber v ↔ v.limitedNumber?.bind wholePart? = v.number?.bind wholePart?) ∧
    (v.kind ≠ .text → v.kind ≠ .float → d.TruncatesNumber v) ∧
    (∀ x n, v = .float x → x.IsWhole n → n < 2 ^ 53 → d.TruncatesNumber v) ∧
    ∀ s (l : Literal), v = .text s → Text.trim s.toList = l.text → l.IsPlain →
      (d.TruncatesNumber v ↔ l.DigitsFit ∨ v.number?.bind wholePart? = none) := by
  have hparts := truncatesNumber_iff_wholeParts hd hv
  refine ⟨convert_toOption hd hv, hparts, ?_, ?_, ?_⟩
  · intro htext hfloat
    rw [hparts, Value.limitedNumber?_eq htext hfloat]
  · rintro x n rfl hwhole hn
    rw [hparts, Value.limitedNumber?_whole hwhole hn]
  · rintro s l rfl hs hl
    rw [hparts]
    by_cases hfit : l.DigitsFit
    · rw [Value.limitedNumber?_fits hs hl hfit]
      exact iff_of_true rfl (.inl hfit)
    · rw [Value.limitedNumber?_eq_none hs hl hfit, or_iff_right hfit]
      exact eq_comm

/-- The literal `42.9`. -/
def fortyTwoPointNine : Literal where
  sign := .absent
  whole := ['4', '2']
  places := some ['9']
  exponent := none
  startsWithDigit := ⟨'4', ['2', '9'], rfl, rfl⟩
  isGroupChar_of_mem := List.all_eq_true.1 rfl

theorem fortyTwoPointNine_truncated :
    integer.TruncatesNumber (.text "42.9") ∧ integer.convert (.text "42.9") = .ok (.int 42) := by
  have hplain : fortyTwoPointNine.IsPlain := ⟨rfl, List.all_eq_true.1 rfl⟩
  have hfit : fortyTwoPointNine.DigitsFit := ⟨by decide, by decide⟩
  refine ⟨?_, by decide +kernel⟩
  exact ((truncatesNumber_iff rfl rfl).2.2.2.2 _ fortyTwoPointNine rfl rfl hplain).2 (.inl hfit)

/-- The floating point number before one, printed as `0.9999999999999999`. -/
def belowOne : Binary64 := ⟨4607182418800017407⟩

/-- It is converted to one, although its whole part is zero. -/
theorem belowOne_rounded_up :
    (Value.float belowOne).number? = some (9999999999999999 / 10 ^ 16) ∧
      integer.convert (.float belowOne) = .ok (.int 1) ∧
      ¬ integer.TruncatesNumber (.float belowOne) := by
  have hnumber : (Value.float belowOne).number? = some (9999999999999999 / 10 ^ 16) := by
    have hread : (Value.float belowOne).toExact? = some ⟨9999999999999999, 16⟩ := by
      decide +kernel
    rw [Value.number?, hread]
    norm_num [ExactDecimal.toRat]
  have hconvert : integer.convert (.float belowOne) = .ok (.int 1) := by
    decide +kernel
  refine ⟨hnumber, hconvert, ?_⟩
  intro h
  have hzero : towardZero (9999999999999999 / 10 ^ 16) = 0 := by
    rw [towardZero, if_pos (by norm_num)]
    norm_num
  have htruncated := h.whole _ hnumber (by rw [hzero]; rfl)
  rw [hconvert, hzero] at htruncated
  cases htruncated

end DataType

end TableDiff
