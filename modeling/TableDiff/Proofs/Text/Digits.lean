import Mathlib.Tactic.IntervalCases
import Mathlib.Tactic.Ring
import TableDiff.Numeric.Rounding
import TableDiff.Text.Digits

/-!
# Decimal digits denote their number

The digits written for a number are read back as this number (`natOfDigits_digits`), and a run of
digits after another one shifts the first by its length (`natOfDigits_append`). The zeros at the end
of a number's digits are the powers of ten that divide it (`trailingZeros_mul`,
`trailingZeros_maximal`). A number is below the power of ten of its digits' count
(`lt_pow_digitCount`), and filled up with zeros it still denotes itself
(`natOfDigits_paddedDigits`).
-/

namespace TableDiff.Text

/-! ## Single digits -/

theorem digitChar_toNat {d : Nat} (h : d < 10) : (digitChar d).toNat = '0'.toNat + d := by
  unfold digitChar
  interval_cases d <;> rfl

theorem isDigit_digitChar {d : Nat} (h : d < 10) : isDigit (digitChar d) = true := by
  interval_cases d <;> rfl

theorem digitValue_digitChar {d : Nat} (h : d < 10) : digitValue (digitChar d) = d := by
  rw [digitValue, digitChar_toNat h]
  omega

theorem digitChar_eq_zero {d : Nat} (h : d < 10) : digitChar d = '0' ↔ d = 0 := by
  interval_cases d <;> decide

/-- A digit is none of the other characters of a numeral. -/
theorem ne_of_isDigit {c d : Char} (hc : isDigit c = true) (hd : isDigit d = false) : c ≠ d := by
  rintro rfl
  rw [hc] at hd
  cases hd

/-! ## Values of runs of digits -/

theorem natOfDigitsFrom_eq (n : Nat) (cs : List Char) :
    natOfDigitsFrom n cs = n * 10 ^ cs.length + natOfDigits cs := by
  unfold natOfDigits
  induction cs generalizing n with
  | nil => simp [natOfDigitsFrom]
  | cons c cs ih =>
    have hcons : ∀ m, natOfDigitsFrom m (c :: cs) = natOfDigitsFrom (10 * m + digitValue c) cs :=
      fun m => rfl
    rw [hcons, hcons, ih, ih (10 * 0 + digitValue c), List.length_cons, pow_succ]
    ring

theorem natOfDigits_append (cs ds : List Char) :
    natOfDigits (cs ++ ds) = natOfDigits cs * 10 ^ ds.length + natOfDigits ds := by
  rw [← natOfDigitsFrom_eq, natOfDigits, natOfDigits, natOfDigitsFrom, List.foldl_append]
  rfl

theorem natOfDigits_concat (cs : List Char) (c : Char) :
    natOfDigits (cs ++ [c]) = 10 * natOfDigits cs + digitValue c := by
  rw [natOfDigits_append]
  simp [natOfDigits, natOfDigitsFrom, mul_comm]

theorem natOfDigits_replicate_zero (k : Nat) : natOfDigits (List.replicate k '0') = 0 := by
  induction k with
  | zero => rfl
  | succ k ih => rw [List.replicate_succ', natOfDigits_concat, ih]; rfl

/-! ## The digits of a number -/

theorem digitsOnto_eq (n : Nat) (tail : List Char) : digitsOnto n tail = digits n ++ tail := by
  unfold digits
  induction n using Nat.strong_induction_on generalizing tail with
  | _ n ih =>
    conv_lhs => rw [digitsOnto]
    conv_rhs => rw [digitsOnto]
    by_cases h : n < 10
    · rw [if_pos h, if_pos h, List.singleton_append]
    · rw [if_neg h, if_neg h, ih (n / 10) (by omega), ih (n / 10) (by omega) [digitChar (n % 10)],
        List.append_assoc, List.singleton_append]

theorem digits_of_lt {n : Nat} (h : n < 10) : digits n = [digitChar n] := by
  rw [digits, digitsOnto, if_pos h]

theorem digits_of_le {n : Nat} (h : 10 ≤ n) :
    digits n = digits (n / 10) ++ [digitChar (n % 10)] := by
  rw [digits, digitsOnto, if_neg (by omega), digitsOnto_eq]

theorem isDigit_of_mem_digits {n : Nat} {c : Char} (hc : c ∈ digits n) : isDigit c = true := by
  induction n using Nat.strong_induction_on with
  | _ n ih =>
    by_cases h : n < 10
    · rw [digits_of_lt h, List.mem_singleton] at hc
      rw [hc]
      exact isDigit_digitChar h
    · rw [digits_of_le (by omega), List.mem_append, List.mem_singleton] at hc
      rcases hc with hc | rfl
      · exact ih (n / 10) (by omega) hc
      · exact isDigit_digitChar (Nat.mod_lt n (by omega))

theorem digits_ne_nil (n : Nat) : digits n ≠ [] := by
  by_cases h : n < 10
  · simp [digits_of_lt h]
  · simp [digits_of_le (Nat.le_of_not_lt h)]

/-- **The digits of a number denote it.** -/
theorem natOfDigits_digits (n : Nat) : natOfDigits (digits n) = n := by
  induction n using Nat.strong_induction_on with
  | _ n ih =>
    by_cases h : n < 10
    · rw [digits_of_lt h]
      show 10 * 0 + digitValue (digitChar n) = n
      rw [digitValue_digitChar h]
      omega
    · rw [digits_of_le (by omega), natOfDigits_concat, ih (n / 10) (by omega),
        digitValue_digitChar (Nat.mod_lt n (by omega))]
      omega

theorem length_digits_le {n k : Nat} (hk : 0 < k) (h : n < 10 ^ k) : (digits n).length ≤ k := by
  induction k generalizing n with
  | zero => omega
  | succ k ih =>
    by_cases hn : n < 10
    · rw [digits_of_lt hn, List.length_singleton]
      omega
    · have hpos : 0 < k := by
        rcases k with - | k
        · omega
        · omega
      have hle := ih (n := n / 10) hpos (by rw [pow_succ] at h; omega)
      rw [digits_of_le (by omega), List.length_append, List.length_singleton]
      omega

/-! ## Padded digits -/

theorem isDigit_of_mem_paddedDigits {w n : Nat} {c : Char} (hc : c ∈ paddedDigits w n) :
    isDigit c = true := by
  rcases List.mem_append.1 hc with hc | hc
  · rw [List.eq_of_mem_replicate hc]
    rfl
  · exact isDigit_of_mem_digits hc

theorem paddedDigits_ne_nil (w n : Nat) : paddedDigits w n ≠ [] :=
  List.append_ne_nil_of_right_ne_nil _ (digits_ne_nil n)

@[simp] theorem natOfDigits_paddedDigits (w n : Nat) : natOfDigits (paddedDigits w n) = n := by
  rw [paddedDigits, natOfDigits_append, natOfDigits_replicate_zero, natOfDigits_digits,
    Nat.zero_mul, Nat.zero_add]

theorem length_paddedDigits {w n : Nat} (hw : 0 < w) (h : n < 10 ^ w) :
    (paddedDigits w n).length = w := by
  have hle := length_digits_le hw h
  simp only [paddedDigits, List.length_append, List.length_replicate]
  omega

theorem paddedDigits_two {n : Nat} (h : n < 100) :
    paddedDigits 2 n = [digitChar (n / 10), digitChar (n % 10)] := by
  by_cases hn : n < 10
  · have hdiv : n / 10 = 0 := by omega
    have hmod : n % 10 = n := by omega
    rw [paddedDigits, digits_of_lt hn, hdiv, hmod]
    rfl
  · have hdiv : n / 10 < 10 := by omega
    rw [paddedDigits, digits_of_le (by omega), digits_of_lt hdiv]
    rfl

/-! ## Zeros at the end -/

/-- The number of zeros at the end of a number's digits. -/
def trailingZeros (n : Nat) : Nat := ((digits n).reverse.takeWhile (· = '0')).length

theorem trailingZeros_of_le {n : Nat} (h : 10 ≤ n) :
    trailingZeros n = if n % 10 = 0 then trailingZeros (n / 10) + 1 else 0 := by
  have hd : digitChar (n % 10) = '0' ↔ n % 10 = 0 := digitChar_eq_zero (Nat.mod_lt n (by omega))
  unfold trailingZeros
  rw [digits_of_le h, List.reverse_concat, List.takeWhile_cons]
  by_cases hz : n % 10 = 0
  · rw [hd.2 hz, if_pos hz]
    simp
  · simp [hd, hz]

theorem trailingZeros_of_lt {n : Nat} (h : n < 10) (hn : n ≠ 0) : trailingZeros n = 0 := by
  have hd : digitChar n ≠ '0' := fun hc => hn ((digitChar_eq_zero h).1 hc)
  simp [trailingZeros, digits_of_lt h, hd]

/-- The powers of ten that the zeros stand for divide the number. -/
theorem trailingZeros_mul {n : Nat} (hn : n ≠ 0) :
    n / 10 ^ trailingZeros n * 10 ^ trailingZeros n = n := by
  induction n using Nat.strong_induction_on with
  | _ n ih =>
    by_cases h : n < 10
    · simp [trailingZeros_of_lt h hn]
    · rw [trailingZeros_of_le (by omega)]
      by_cases hz : n % 10 = 0
      · rw [if_pos hz, pow_succ', ← Nat.div_div_eq_div_mul, mul_left_comm,
          ih (n / 10) (by omega) (by omega)]
        omega
      · simp [hz]

/-- What is left without the zeros is no multiple of ten. -/
theorem trailingZeros_maximal {n : Nat} (hn : n ≠ 0) : n / 10 ^ trailingZeros n % 10 ≠ 0 := by
  induction n using Nat.strong_induction_on with
  | _ n ih =>
    by_cases h : n < 10
    · rw [trailingZeros_of_lt h hn, pow_zero, Nat.div_one]
      omega
    · rw [trailingZeros_of_le (by omega)]
      by_cases hz : n % 10 = 0
      · rw [if_pos hz, pow_succ', ← Nat.div_div_eq_div_mul]
        exact ih (n / 10) (by omega) (by omega)
      · simp [hz]

end TableDiff.Text

namespace TableDiff.Numeric

theorem digitCount_pos (n : Nat) : 0 < digitCount n := by
  rw [digitCount]
  split <;> omega

theorem lt_pow_digitCount (n : Nat) : n < 10 ^ digitCount n := by
  induction n using Nat.strong_induction_on with
  | _ n ih =>
    rw [digitCount]
    by_cases h : n < 10
    · simp [h]
    · have := ih (n / 10) (by omega)
      rw [if_neg h, pow_succ]
      omega

theorem pow_digitCount_le {n : Nat} (hn : n ≠ 0) : 10 ^ (digitCount n - 1) ≤ n := by
  induction n using Nat.strong_induction_on with
  | _ n ih =>
    rw [digitCount]
    by_cases h : n < 10
    · simp only [h, if_true, Nat.sub_self, pow_zero]
      omega
    · have hle := ih (n / 10) (by omega) (by omega)
      have hc : digitCount (n / 10) = digitCount (n / 10) - 1 + 1 := by
        have := digitCount_pos (n / 10)
        omega
      rw [if_neg h, Nat.add_sub_cancel, hc, pow_succ]
      omega

end TableDiff.Numeric
