import Mathlib.Data.List.TakeDrop
import TableDiff.Json.Number
import TableDiff.Json.Token
import TableDiff.Proofs.Text.Blank

/-!
# Numerals of JSON

The digits of an integer are one token of a JSON text if no character follows that could go on with
them (`takeNumber?_intDigits`), and as a literal they stand for this integer as far as words of 64
bits reach (`ofLiteral?_intDigits`).
-/

namespace TableDiff.Json

open TableDiff.Numeric TableDiff.Text

variable {rest : List Char} {n : Nat} {i : Int}

/-! ## Digits -/

/-- The digits of a number other than zero do not start with zero. -/
theorem exists_digits_cons (n : Nat) :
    ∃ c ds, digits n = c :: ds ∧ isDigit c = true ∧ (n ≠ 0 → c ≠ '0') := by
  induction n using Nat.strong_induction_on with
  | _ n ih =>
    by_cases h : n < 10
    · refine ⟨digitChar n, [], digits_of_lt h, isDigit_digitChar h, fun hn => ?_⟩
      rwa [ne_eq, digitChar_eq_zero h]
    · obtain ⟨c, ds, hcons, hc, hzero⟩ := ih (n / 10) (by omega)
      refine ⟨c, ds ++ [digitChar (n % 10)], ?_, hc, fun _ => hzero (by omega)⟩
      rw [digits_of_le (by omega), hcons, List.cons_append]

theorem intDigits_natCast (n : Nat) : intDigits n = digits n := by
  have hneg : ¬ (n : Int) < 0 := by omega
  rw [intDigits, if_neg hneg, Int.natAbs_natCast]

theorem exists_intDigits_cons (i : Int) :
    ∃ c ds, intDigits i = c :: ds ∧ (c = '-' ∨ isDigit c = true) := by
  obtain ⟨c, ds, hcons, hc, -⟩ := exists_digits_cons i.natAbs
  unfold intDigits
  split
  · exact ⟨'-', _, rfl, .inl rfl⟩
  · exact ⟨c, ds, hcons, .inr hc⟩

/-- The text does not go on with a digit, a point or an exponent. -/
def LiteralEnds (rest : List Char) : Prop :=
  Stops (fun c => isDigit c || c = '.' || c = 'e' || c = 'E') rest

theorem span_digits (h : LiteralEnds rest) (n : Nat) :
    (digits n ++ rest).span isDigit = (digits n, rest) := by
  have hdigits : ∀ c ∈ digits n, isDigit c = true := fun _ => isDigit_of_mem_digits
  have hstops : Stops isDigit rest := h.mono fun c hc => by simp [hc]
  rw [List.span_eq_takeWhile_dropWhile, List.takeWhile_append_of_pos hdigits,
    List.dropWhile_append_of_pos hdigits, hstops.takeWhile_eq, hstops.dropWhile_eq,
    List.append_nil]

/-! ## The token -/

theorem takeInteger?_digits (h : LiteralEnds rest) (n : Nat) :
    takeInteger? (digits n ++ rest) = some (digits n, rest) := by
  have hspan := span_digits h n
  obtain ⟨c, ds, hcons, -, hzero⟩ := exists_digits_cons n
  by_cases hn : n = 0
  · rw [hn, digits_of_lt (by decide)]
    rfl
  · rw [hcons, List.cons_append] at hspan ⊢
    unfold takeInteger?
    split
    next hc => exact absurd (List.cons.inj hc).1 (hzero hn)
    next => rw [takeDigits?, hspan]

theorem takeFraction?_of_ends (h : LiteralEnds rest) : takeFraction? rest = some ([], rest) := by
  unfold takeFraction?
  split
  next => exact absurd h.head (by decide)
  next => rfl

theorem takeExponent?_of_ends (h : LiteralEnds rest) : takeExponent? rest = some ([], rest) := by
  cases rest with
  | nil => rfl
  | cons c rest =>
    have hc : ¬ (c = 'e' ∨ c = 'E') := by
      rintro (rfl | rfl)
      · exact absurd h.head (by decide)
      · exact absurd h.head (by decide)
    simp only [takeExponent?, if_neg hc]

theorem takeNumber?_intDigits (h : LiteralEnds rest) (i : Int) :
    takeNumber? (intDigits i ++ rest) = some (intDigits i, rest) := by
  have hinteger := takeInteger?_digits h i.natAbs
  obtain ⟨c, ds, hcons, hc, -⟩ := exists_digits_cons i.natAbs
  unfold intDigits
  split
  next =>
    simp [takeNumber?, hinteger, takeFraction?_of_ends h, takeExponent?_of_ends h]
  next =>
    have hminus : ∀ r, c :: (ds ++ rest) ≠ '-' :: r := fun r hr =>
      ne_of_isDigit hc rfl (List.cons.inj hr).1
    rw [hcons, List.cons_append] at hinteger ⊢
    unfold takeNumber?
    split
    rename_i hsign
    split at hsign
    next r hr => exact absurd hr (hminus r)
    next =>
      cases hsign
      simp [hinteger, takeFraction?_of_ends h, takeExponent?_of_ends h]

theorem takeToken?_intDigits (h : LiteralEnds rest) (i : Int) :
    takeToken? (intDigits i ++ rest) = some (.number (intDigits i), rest) := by
  have hnumber := takeNumber?_intDigits h i
  obtain ⟨d, ds, hcons, hd⟩ := exists_intDigits_cons i
  rw [hcons, List.cons_append] at hnumber ⊢
  have hne : ∀ e, e ≠ '-' → isDigit e = false → d ≠ e := by
    rintro e heq hdigit rfl
    rcases hd with hd | hd
    · exact heq hd
    · rw [hd] at hdigit
      cases hdigit
  rw [takeToken?, hnumber] <;> first
    | rfl
    | exact fun _ hr => hne _ (by decide) (by decide) (List.cons.inj hr).1

/-! ## The literal -/

theorem parts_digits (negative : Bool) (n : Nat) :
    NumberParts.ofLiteral (if negative then '-' :: digits n else digits n) =
      ⟨negative, digits n, none, none⟩ := by
  have hspan := span_digits stops_nil n
  rw [List.append_nil] at hspan
  obtain ⟨c, ds, hcons, hc, -⟩ := exists_digits_cons n
  cases negative with
  | true => simp only [NumberParts.ofLiteral, if_true, hspan]
  | false =>
    rw [hcons] at hspan
    have hminus : c ≠ '-' := ne_of_isDigit hc rfl
    simp [NumberParts.ofLiteral, hcons, hspan, hminus, -List.span_eq_takeWhile_dropWhile]

/-- An integer fits a word of 64 bits, signed or unsigned. -/
def FitsWord (i : Int) : Prop := -9223372036854775808 ≤ i ∧ i < 18446744073709551616

theorem ofLiteral?_intDigits (h : FitsWord i) :
    Number.ofLiteral? (intDigits i) = some (.int i) := by
  obtain ⟨hlow, hhigh⟩ := h
  have hvalue := natOfDigits_digits i.natAbs
  by_cases hneg : i < 0
  · have hparts := parts_digits true i.natAbs
    rw [if_pos rfl] at hparts
    have hfits : 0 < i.natAbs ∧ fitsInt64 (-(i.natAbs : Int)) = true := by
      simp only [fitsInt64, Bool.and_eq_true, decide_eq_true_eq]
      omega
    have habs : -(i.natAbs : Int) = i := by omega
    simp only [Number.ofLiteral?, intDigits, hneg, if_true, hparts, hvalue, and_self]
    rw [if_pos hfits, habs]
  · have hparts := parts_digits false i.natAbs
    rw [if_neg (by decide)] at hparts
    have hword : IsWord i.natAbs := by
      show i.natAbs < _
      omega
    have hfits : fitsNat64 i.natAbs = true := decide_eq_true hword
    have habs : (i.natAbs : Int) = i := by omega
    simp only [Number.ofLiteral?, intDigits, hneg, if_false, if_true, hparts, hvalue, and_self,
      hfits, habs]
    rfl

theorem int64?_ofInt (i : Int64) : (ofInt i.toInt).int64? = some i := by
  have hlow := i.le_toInt
  have hhigh := i.toInt_lt
  have hword : FitsWord i.toInt := ⟨by omega, by omega⟩
  simp only [ofInt, int64?, ofLiteral?_intDigits hword, fitsInt64_toInt, if_true,
    Int64.ofInt_toInt]

theorem nat?_ofNat (h : IsWord n) : (ofNat n).nat? = some n := by
  have hword : FitsWord n := ⟨by omega, Int.ofNat_lt.2 h⟩
  have hliteral := ofLiteral?_intDigits hword
  rw [intDigits_natCast] at hliteral
  simp only [ofNat, nat?, hliteral, Int.natCast_nonneg, if_true, Int.toNat_natCast]

theorem byte?_ofNat (b : UInt8) : (ofNat b.toNat).byte? = some b := by
  have hb := b.toNat_lt
  have hword : IsWord b.toNat := Nat.lt_trans hb (by decide)
  rw [byte?, nat?_ofNat hword, Option.bind_some, if_pos (by omega), UInt8.ofNat_toNat]

end TableDiff.Json
