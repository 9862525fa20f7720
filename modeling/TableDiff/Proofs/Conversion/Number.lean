import TableDiff.DataType.Number
import TableDiff.Proofs.Numeric.ExactText

/-!
# The number of a value and its comparable form

A value denotes the number that its exact reading finds (`Value.number?`). Its comparable form is a
decimal where the limited reading succeeds, and else the text of the exact number; `KeepsNumber`
says that it denotes the same number. That is so for integers, and for text unless the limited
reader rounds digits before an exponent, passes a doubled sign in the exponent, or the written
number needs an exponent that does not fit (`keepsNumber_text`). For all values it is decided by the
two readings alone (`keepsNumber_iff`).
-/

namespace TableDiff.Value

open TableDiff.Numeric

variable {v w : Value}

/-- The number that a value denotes. -/
def number? (v : Value) : Option ℚ := v.toExact?.map ExactDecimal.toRat

/-- The comparable form of a value denotes the number that the value denotes. -/
def KeepsNumber (v : Value) : Prop := ∀ w, v.comparableNumber = .ok w → w.number? = v.number?

theorem number?_decimal (d : Decimal) : (decimal d).number? = some d.toRat := rfl

theorem toExact?_text (s : String) :
    (text s).toExact? = ExactDecimal.ofText? (Text.trim s.toList) := rfl

/-- The text that is kept for an exact number. -/
def written (n : ExactDecimal) : Value := text (String.ofList n.normalize.text)

theorem trim_written (n : ExactDecimal) :
    Text.trim (String.ofList n.normalize.text).toList = n.normalize.text := by
  rw [String.toList_ofList]
  exact Text.trim_eq_self fun c => ExactDecimal.not_isBlank_of_mem_text

theorem number?_written (n : ExactDecimal) :
    (written n).number? = if fitsInt64 n.normalize.scale then some n.toRat else none := by
  rw [number?, written, toExact?_text, trim_written, ExactDecimal.ofText?_text,
    ExactDecimal.toRat_normalize]

/-- A comparable form is a decimal that the limited reading finds, or else the written number. -/
theorem comparableNumber_eq_ok : v.comparableNumber = .ok w ↔
    (∃ d, v.toDecimal = .ok d ∧ w = decimal d) ∨
      ∃ fault n, v.toDecimal = .error fault ∧ v.toExact? = some n ∧ w = written n := by
  unfold comparableNumber
  cases hd : v.toDecimal with
  | ok d => simp [eq_comm]
  | error fault => cases hn : v.toExact? <;> simp [written, eq_comm]

/-- **A value keeps its number exactly where the limited reading, if there is one, finds the exact
number, and where else the exact number can be read back.** -/
theorem keepsNumber_iff : v.KeepsNumber ↔
    (∀ d, v.toDecimal = .ok d → v.number? = some d.toRat) ∧
      ∀ fault n, v.toDecimal = .error fault → v.toExact? = some n →
        fitsInt64 n.normalize.scale = true := by
  constructor
  · intro h
    refine ⟨fun d hd => ?_, fun fault n hf hn => ?_⟩
    · rw [← h _ (comparableNumber_eq_ok.2 (.inl ⟨d, hd, rfl⟩)), number?_decimal]
    · have hkeep := h _ (comparableNumber_eq_ok.2 (.inr ⟨fault, n, hf, hn, rfl⟩))
      rw [number?_written, number?, hn] at hkeep
      by_contra hfits
      rw [if_neg hfits] at hkeep
      cases hkeep
  · rintro ⟨hlimited, hexact⟩ w hw
    rcases comparableNumber_eq_ok.1 hw with ⟨d, hd, rfl⟩ | ⟨fault, n, hf, hn, rfl⟩
    · rw [hlimited d hd, number?_decimal]
    · rw [number?_written, if_pos (hexact fault n hf hn), number?, hn, Option.map_some]

/-! ## Values that keep their number -/

theorem keepsNumber_int (i : Int64) : (int i).KeepsNumber := by
  rintro _ ⟨⟩
  rw [number?_decimal, Decimal.toRat_ofInt64, number?]
  simp [toExact?, ExactDecimal.toRat_ofInt]

/-- The limited reader does not round the digits of a text and finds no second sign in its
exponent. -/
def ReadsAlike (cs : List Char) : Prop :=
  ∀ base e, Decimal.splitExponent? cs = some (base, e) →
    Decimal.ofText? base = Decimal.ofTextExact? base ∧ ¬ Decimal.DoubleSigned e

theorem readsAlike_of_plain {cs : List Char} (h : Decimal.splitExponent? cs = none) :
    ReadsAlike cs := fun base e he => by
  rw [h] at he
  cases he

theorem readsAlike_of_exponent {cs base e : List Char}
    (hsplit : Decimal.splitExponent? cs = some (base, e))
    (hbase : Decimal.ofText? base = Decimal.ofTextExact? base) (he : ¬ Decimal.DoubleSigned e) :
    ReadsAlike cs := fun base' e' h => by
  rw [hsplit] at h
  cases h
  exact ⟨hbase, he⟩

/-- Where the limited reader does not round, it finds the exact number. -/
theorem ReadsAlike.number?_eq {s : String} (h : ReadsAlike (Text.trim s.toList)) {d : Decimal}
    (hd : (text s).toDecimal = .ok d) : (text s).number? = some d.toRat := by
  rw [number?, toExact?_text]
  simp only [toDecimal] at hd
  generalize Text.trim s.toList = cs at h hd ⊢
  cases hexact : Decimal.ofTextExact? cs with
  | some b =>
    rw [hexact] at hd
    cases hd
    rw [ExactDecimal.ofText?_of_ofTextExact? hexact]
    rfl
  | none =>
    rw [hexact, Option.none_or] at hd
    cases hs : Decimal.ofScientific? cs with
    | none =>
      rw [hs] at hd
      cases hd
    | some b =>
      rw [hs] at hd
      cases hd
      obtain ⟨⟨base, e⟩, hsplit, hread⟩ := Option.bind_eq_some_iff.1 hs
      obtain ⟨read, hbase, -⟩ := Option.bind_eq_some_iff.1 hread
      obtain ⟨halike, hsign⟩ := h base e hsplit
      obtain ⟨n, hn, hrat⟩ :=
        Decimal.ofText?_of_ofScientific? hsplit (halike.symm.trans hbase) hsign hs
      rw [hn, Option.map_some, hrat]

/-- Text keeps its number if the limited reader does not round it and the written form of its
number can be read back. -/
theorem keepsNumber_text {s : String} (h : ReadsAlike (Text.trim s.toList))
    (hfits : ∀ n, (text s).toExact? = some n → fitsInt64 n.normalize.scale = true) :
    (text s).KeepsNumber :=
  keepsNumber_iff.2 ⟨fun _ hd => h.number?_eq hd, fun _ n _ hn => hfits n hn⟩

/-! ## A value for every number -/

/-- The integer of a number followed by its scale as a negative exponent. -/
def exponential (n : ExactDecimal) : List Char :=
  ExactDecimal.signedDigits n.unscaled (Text.digits n.unscaled.natAbs) ++
    'e' :: '-' :: Text.digits n.scale.toNat

theorem trim_exponential (n : ExactDecimal) : Text.trim (exponential n) = exponential n := by
  refine Text.trim_eq_self fun c hc => ?_
  have hdigits : ∀ {k : ℕ}, c ∈ Text.digits k → Text.isBlank c = false := fun h =>
    Text.not_isBlank_of_isDigit (Text.isDigit_of_mem_digits h)
  rcases List.mem_append.1 hc with hc | hc
  · rcases ExactDecimal.mem_signedDigits hc with rfl | hc
    · decide
    · exact hdigits hc
  · rcases List.mem_cons.1 hc with rfl | hc
    · decide
    · rcases List.mem_cons.1 hc with rfl | hc
      · decide
      · exact hdigits hc

theorem splitExponent?_exponential (n : ExactDecimal) :
    Decimal.splitExponent? (exponential n) =
      some (ExactDecimal.signedDigits n.unscaled (Text.digits n.unscaled.natAbs),
        '-' :: Text.digits n.scale.toNat) := by
  refine ExactDecimal.splitExponent?_append (.inl rfl) fun c hc => ?_
  rcases ExactDecimal.mem_signedDigits hc with rfl | hc
  · decide
  · exact ExactDecimal.ne_exponent_of_isDigit (Text.isDigit_of_mem_digits hc)

theorem readsAlike_exponential (n : ExactDecimal) : ReadsAlike (exponential n) :=
  readsAlike_of_exponent (splitExponent?_exponential n)
    (Decimal.ofText?_eq_ofTextExact?
      (ExactDecimal.point_notMem fun _ hc => Text.isDigit_of_mem_digits hc))
    (ExactDecimal.not_doubleSigned_digits _)

/-- Every number with few decimal places and digits is denoted by a text that keeps it. -/
theorem exists_text_of_number {n : ExactDecimal} (hs : 0 ≤ n.scale ∧ n.scale ≤ 28)
    (hu : n.unscaled.natAbs < 10 ^ 60) :
    ∃ s, (text s).toExact? = some n ∧ (text s).KeepsNumber := by
  have hread : ExactDecimal.ofText? (exponential n) = some n := by
    have hplain := ExactDecimal.ofPlain?_digits (u := n.unscaled)
      (Text.digits_ne_nil n.unscaled.natAbs) fun c hc => Text.isDigit_of_mem_digits hc
    have hscale : (0 : ℤ) - -(n.scale.toNat : ℤ) = n.scale := by omega
    rw [ExactDecimal.ofText?_eq_parts,
      ExactDecimal.parts?_of_exponent (splitExponent?_exponential n),
      ExactDecimal.readInt?_minus_digits, Option.bind_some, hplain, Option.map_some,
      Option.bind_some, ExactDecimal.shifted?, hscale, ExactDecimal.signedNat_digits,
      if_pos (ExactDecimal.fitsInt64_of_le (by omega))]
  have hexact : (text (String.ofList (exponential n))).toExact? = some n := by
    rw [toExact?_text, String.toList_ofList, trim_exponential, hread]
  refine ⟨String.ofList (exponential n), hexact, keepsNumber_text ?_ fun m hm => ?_⟩
  · rw [String.toList_ofList, trim_exponential]
    exact readsAlike_exponential n
  · rw [hexact] at hm
    cases hm
    have hb := ExactDecimal.normalize_scale_bounds hu hs.1
    simp only [fitsInt64, Bool.and_eq_true, decide_eq_true_eq]
    omega

end TableDiff.Value
