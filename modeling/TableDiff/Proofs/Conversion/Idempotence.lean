import Mathlib.Data.List.DropRight
import TableDiff.Proofs.Conversion.Key
import TableDiff.Proofs.Conversion.WrittenNumber
import TableDiff.Proofs.Text.LowerCase

/-!
# Converting converted values

Conversion leaves converted values as they are, and so does normalization
(`conversion_idempotent_iff`). Under the exactly numeric types this takes numbers that are kept as
text because no decimal has them (`Value.KeepsForm`): the text of any other number is read as a
decimal when it is converted again (`comparableNumber_written_iff`).
-/

namespace TableDiff

open TableDiff.Numeric

namespace Value

variable {v w : Value} {n : ExactDecimal}

/-! ## Numbers -/

/-- Where the value is kept as text, no decimal has its number and the text can be read back. -/
def KeepsForm (v : Value) : Prop :=
  ∀ fault n, v.toDecimal = .error fault → v.toExact? = some n →
    (∀ d : Decimal, d.toRat ≠ n.toRat) ∧ fitsInt64 n.normalize.scale = true

/-- A written number is its own comparable form if no decimal has the number. -/
theorem comparableNumber_written_iff : (written n).comparableNumber = .ok (written n) ↔
    (∀ d : Decimal, d.toRat ≠ n.toRat) ∧ fitsInt64 n.normalize.scale = true := by
  constructor
  · intro h
    rcases comparableNumber_eq_ok.1 h with ⟨d, -, heq⟩ | ⟨fault, m, hf, hm, -⟩
    · cases heq
    · refine ⟨fun d hd => ?_, ?_⟩
      · obtain ⟨b, hb⟩ := exists_toDecimal_written hd
        rw [hf] at hb
        cases hb
      · have hnumber := number?_written n
        rw [number?, hm] at hnumber
        by_contra hfits
        rw [if_neg hfits] at hnumber
        cases hnumber
  · rintro ⟨hno, hfits⟩
    have hnumber := number?_written n
    rw [if_pos hfits] at hnumber
    obtain ⟨m, hm, hmn⟩ := Option.map_eq_some_iff.1 hnumber
    cases hd : (written n).toDecimal with
    | ok d => exact absurd (toRat_of_toDecimal_written hd) (hno d)
    | error fault =>
      refine comparableNumber_eq_ok.2 (.inr ⟨fault, m, hd, hm, ?_⟩)
      rw [written, written, ExactDecimal.normalize_eq_iff.2 hmn]

/-- A comparable form is its own comparable form if the value keeps its form. -/
theorem comparableNumber_again_iff (h : v.comparableNumber = .ok w) :
    w.comparableNumber = .ok w ↔ v.KeepsForm := by
  rcases comparableNumber_eq_ok.1 h with ⟨d, hd, rfl⟩ | ⟨fault, n, hf, hn, rfl⟩
  · refine iff_of_true rfl fun fault n hf => ?_
    rw [hd] at hf
    cases hf
  · rw [comparableNumber_written_iff]
    constructor
    · intro hform fault' m hf' hm
      rw [hn] at hm
      cases hm
      exact hform
    · intro hkeep
      exact hkeep fault n hf hn

end Value

namespace LogicalType

variable {t : LogicalType} {v w : Value}

theorem convert_again_iff (h : t.convert v = .ok w) :
    t.convert w = .ok w ↔ (t.ComparesNumbers → v.KeepsForm) := by
  by_cases ht : t.ComparesNumbers
  · rw [forall_prop_of_true ht]
    rcases (convert_eq_ok ht).1 h with ⟨rfl, rfl⟩ | ⟨-, hw⟩
    · exact iff_of_true h fun _ _ _ hn => nomatch hn
    · have hnull : w.isNull = false := by
        rcases Value.comparableNumber_eq_ok.1 hw with ⟨d, -, rfl⟩ | ⟨-, n, -, -, rfl⟩ <;> rfl
      rw [← Value.comparableNumber_again_iff hw, convert_eq_ok ht, and_iff_right hnull,
        or_iff_right fun h => by simp [h.1, Value.isNull] at hnull]
  · refine iff_of_true ?_ fun h => absurd h ht
    cases t with
    | plain d => exact (DataType.convert_of_convert ht h).1
    | tolerant base delta => exact absurd trivial ht

end LogicalType

namespace DataType

variable {d : DataType} {v w : Value}

/-! ## Text -/

theorem dropFormat_dropFormat (d : DataType) (w : Value) :
    d.dropFormat (d.dropFormat w) = d.dropFormat w := by
  cases w with
  | text s =>
    by_cases hd : d = citext
    · simp only [dropFormat, if_pos hd, String.toList_ofList, Text.toLower_toLower]
    · have hagain : ∀ cs, Text.dropTailWhile (· = ' ') (Text.dropTailWhile (· = ' ') cs) =
          Text.dropTailWhile (· = ' ') cs := fun cs => List.rdropWhile_idempotent _ cs
      simp only [dropFormat, if_neg hd, String.toList_ofList, hagain]
  | _ => rfl

theorem convert_text (hd : d.family = .text) (s : String) : d.convert (.text s) = .ok (.text s) := by
  have htext : (Value.text s).render = s := String.ofList_toList
  rw [convert, hd, Value.convertTo, htext]
  rfl

/-- What the type ignores in a text does not come back by converting the text. -/
theorem convert_dropFormat (hd : d.isFormatInsensitive = true) (h : d.convert v = .ok w) :
    d.convert (d.dropFormat w) = .ok (d.dropFormat w) := by
  have hfamily : d.family = .text := by cases d <;> first | rfl | cases hd
  cases w with
  | text s =>
    simp only [dropFormat]
    split <;> exact convert_text hfamily _
  | _ => exact (convert_of_convert (by rw [hfamily]; decide) h).1

theorem normalize_again_iff (h : d.normalize v = .ok w) :
    d.normalize w = .ok w ↔ (d.family = .exactNumeric → v.KeepsForm) := by
  by_cases hd : d.family = .exactNumeric
  · rw [normalize_of_exactNumeric hd] at h ⊢
    exact LogicalType.convert_again_iff (t := .plain d) h
  · refine iff_of_true ?_ fun h => absurd h hd
    obtain ⟨x, hx, rfl⟩ := normalize_eq_ok.1 h
    rw [normalize_eq_ok]
    by_cases hf : d.isFormatInsensitive = true
    · simp only [if_pos hf]
      exact ⟨_, convert_dropFormat hf hx, (dropFormat_dropFormat d x).symm⟩
    · simp only [if_neg hf]
      exact ⟨x, (convert_of_convert hd hx).1, rfl⟩

end DataType

/-! ## All types -/

/-- **Converting a converted value changes nothing, nor does normalizing a normalized one**, under
the exactly numeric types if the value keeps its form. -/
theorem conversion_idempotent_iff (v w : Value) :
    (∀ t : LogicalType, t.convert v = .ok w →
      (t.convert w = .ok w ↔ (t.ComparesNumbers → v.KeepsForm))) ∧
    ∀ d : DataType, d.normalize v = .ok w →
      (d.normalize w = .ok w ↔ (d.family = .exactNumeric → v.KeepsForm)) :=
  ⟨fun _ => LogicalType.convert_again_iff, fun _ => DataType.normalize_again_iff⟩

/-- A number that is too large for a decimal stays the text that it becomes. -/
theorem ten_to_forty_keepsForm :
    DataType.numeric.convert (.text "10e39") = .ok (.text "1e+40") ∧
      (Value.text "10e39").KeepsForm := by
  have hconvert : (LogicalType.plain .numeric).convert (.text "10e39") = .ok (.text "1e+40") := by
    decide +kernel
  have hagain : (LogicalType.plain .numeric).convert (.text "1e+40") = .ok (.text "1e+40") := by
    decide +kernel
  exact ⟨hconvert, ((conversion_idempotent_iff _ _).1 _ hconvert).1 hagain rfl⟩

/-- One with more zeros than a decimal holds becomes text that is read as a decimal. -/
theorem one_with_surplus_zeros_converts_on :
    DataType.numeric.convert (.text "1.00000000000000000000000000000") = .ok (.text "1") ∧
      DataType.numeric.convert (.text "1") = .ok (.decimal .one) := by
  decide +kernel

end TableDiff
