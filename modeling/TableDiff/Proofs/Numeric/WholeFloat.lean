import TableDiff.Numeric.Decimal.Approximation
import TableDiff.Proofs.Numeric.PrintedFloat

/-!
# Whole floating point numbers

A floating point number below `2 ^ 53` without a fractional part is printed as the integer that it is
(`Binary64.printed_whole`), since the reals that round to it hold no other integer, and it is also
the decimal of this integer (`Decimal.ofBinary64?_whole`).
-/

namespace TableDiff.Numeric

namespace Binary64

variable {x : Binary64} {n k : ℕ}

/-- The absolute value of the number is a natural number. -/
def IsWhole (x : Binary64) (n : ℕ) : Prop := x.ratio.1 = n * x.ratio.2

/-- The number with the sign of a floating point number. -/
def signedNat (x : Binary64) (n : ℕ) : ℤ := if x.negative then -n else n

/-! ## The significand -/

theorem hiddenBit_le_significand (h : 0 ≤ x.exponent) : hiddenBit ≤ x.significand := by
  have hbits : x.exponentBits ≠ 0 := by
    intro hzero
    rw [exponent, if_pos hzero] at h
    omega
  rw [significand, if_neg hbits]
  exact Nat.le_add_right _ _

/-- A whole number below `2 ^ 53` is its significand without some zeros at the end. -/
theorem IsWhole.significand_eq (h : x.IsWhole n) (hn : n < 2 ^ 53) :
    ∃ k : ℕ, x.exponent = -k ∧ x.significand = n * 2 ^ k := by
  unfold IsWhole ratio scaleBy at h
  by_cases he : 0 ≤ x.exponent
  · rw [if_pos he, Nat.mul_one, Nat.pow_eq] at h
    dsimp only at h
    have hlarge := hiddenBit_le_significand he
    have hzero : x.exponent.toNat = 0 := by
      by_contra hpos
      have htwo : 2 ^ 1 ≤ 2 ^ x.exponent.toNat :=
        Nat.pow_le_pow_right (by decide) (Nat.one_le_iff_ne_zero.2 hpos)
      have hmul : hiddenBit * 2 ^ 1 ≤ x.significand * 2 ^ x.exponent.toNat :=
        Nat.mul_le_mul hlarge htwo
      rw [h] at hmul
      exact absurd (hmul.trans_lt hn) (by decide)
    rw [hzero, pow_zero, Nat.mul_one] at h
    exact ⟨0, by omega, by rw [h, pow_zero, Nat.mul_one]⟩
  · rw [if_neg he, Nat.one_mul, Nat.pow_eq] at h
    exact ⟨(-x.exponent).toNat, by omega, h⟩

theorem IsWhole.isFinite (h : x.IsWhole n) (hn : n < 2 ^ 53) : x.isFinite = true := by
  obtain ⟨k, hk, -⟩ := h.significand_eq hn
  have hbits : x.exponentBits < 2047 := by
    unfold exponent at hk
    split at hk <;> omega
  exact decide_eq_true (Nat.div_lt_iff_lt_mul (by decide) |>.1 hbits)

theorem isZero_iff : x.isZero = true ↔ x.significand = 0 := by
  have hsplit : hiddenBit * x.exponentBits + x.fractionBits = x.magnitudeBits :=
    Nat.div_add_mod _ _
  have hpos : 0 < hiddenBit := by decide
  rw [isZero, beq_iff_eq, significand]
  by_cases hbits : x.exponentBits = 0
  · rw [if_pos hbits, ← hsplit, hbits, Nat.mul_zero, Nat.zero_add]
  · rw [if_neg hbits, ← hsplit]
    have := Nat.mul_pos hpos (Nat.pos_of_ne_zero hbits)
    omega

theorem isZero_iff_of_significand (hk : x.significand = n * 2 ^ k) : x.isZero = true ↔ n = 0 := by
  have hpow : 2 ^ k ≠ 0 := by positivity
  rw [isZero_iff, hk, Nat.mul_eq_zero, or_iff_left hpow]

/-! ## The search for the shortest digits -/

/-- What is found on a grid lies in the interval. -/
theorem contains_of_gridPoint? {tie : TieRule} {i : RoundingInterval} {num den g : ℕ}
    (h : gridPoint? tie i num den = some g) : i.contains (g * num) den = true := by
  unfold gridPoint? at h
  dsimp only at h
  split at h
  next hboth =>
    obtain ⟨hdown, hup⟩ := Bool.and_eq_true_iff.1 hboth
    have hbelow := (Bool.and_eq_true_iff.1 hdown).1
    split at h
    next =>
      cases h
      exact hbelow
    next =>
      split at h
      next =>
        cases h
        exact hup
      next =>
        cases tie with
        | up =>
          cases h
          exact hup
        | even =>
          cases h
          split
          · exact hbelow
          · exact hup
  next =>
    split at h
    next hdown =>
      cases h
      exact (Bool.and_eq_true_iff.1 hdown).1
    next =>
      split at h
      next hup =>
        cases h
        exact hup
      next => cases h

/-- The value of digits times a power of ten. -/
def Scientific.toRat (s : Scientific) : ℚ := s.digits * 10 ^ s.exponent

theorem Scientific.toRat_normalize (fuel : ℕ) (s : Scientific) :
    (normalize fuel s).toRat = s.toRat := by
  induction fuel generalizing s with
  | zero => rfl
  | succ fuel ih =>
    rw [normalize]
    split
    next hzero =>
      have hdigits : s.digits = 10 * (s.digits / 10) := by omega
      have hcast : (s.digits : ℚ) = 10 * (s.digits / 10 : ℕ) := by exact_mod_cast hdigits
      rw [ih, toRat, toRat, hcast, zpow_add_one₀ (by norm_num)]
      ring
    next => rfl

theorem four_mul_significand (hk : x.significand = n * 2 ^ k) :
    4 * x.significand = n * 2 ^ (k + 2) := by
  rw [hk, pow_add]
  ring

theorem lower_bounds (x : Binary64) : 4 * x.significand - 2 ≤ x.roundingInterval.lower ∧
    x.roundingInterval.lower ≤ 4 * x.significand - 1 := by
  unfold roundingInterval
  dsimp only
  split <;> omega

theorem bounds_of_contains {num : ℕ} (h : x.roundingInterval.contains num 1 = true) :
    4 * x.significand - 2 ≤ num ∧ num ≤ 4 * x.significand + 2 := by
  have hends := x.lower_bounds
  have hupper : x.roundingInterval.upper = 4 * x.significand + 2 := rfl
  unfold RoundingInterval.contains at h
  split at h <;> simp only [Bool.and_eq_true, decide_eq_true_eq] at h <;> omega

/-- The reals that round to a whole number hold no other whole number. -/
theorem eq_of_contains {g : ℕ} (hk : x.significand = n * 2 ^ k)
    (h : x.roundingInterval.contains (g * 2 ^ (k + 2)) 1 = true) : g = n := by
  have hunit : 2 ^ 2 ≤ 2 ^ (k + 2) := Nat.pow_le_pow_right (by decide) (Nat.le_add_left 2 k)
  obtain ⟨hlower, hupper⟩ := bounds_of_contains h
  rw [four_mul_significand hk] at hlower hupper
  generalize 2 ^ (k + 2) = unit at *
  rcases Nat.lt_trichotomy g n with hlt | heq | hgt
  · have hgap := Nat.mul_le_mul_right unit (Nat.succ_le_of_lt hlt)
    rw [Nat.succ_mul] at hgap
    omega
  · exact heq
  · have hgap := Nat.mul_le_mul_right unit (Nat.succ_le_of_lt hgt)
    rw [Nat.succ_mul] at hgap
    omega

theorem contains_self (hk : x.significand = n * 2 ^ k) (hn : 0 < n) :
    x.roundingInterval.contains (n * 2 ^ (k + 2)) 1 = true := by
  have hpos : 0 < x.significand := by
    rw [hk]
    positivity
  have hends := x.lower_bounds
  have hupper : x.roundingInterval.upper = 4 * x.significand + 2 := rfl
  unfold RoundingInterval.contains
  rw [← four_mul_significand hk, hupper]
  split <;> simp only [Bool.and_eq_true, decide_eq_true_eq] <;> omega

theorem exists_gridPoint? (hk : x.significand = n * 2 ^ k) (hn : 0 < n) (tie : TieRule) :
    ∃ g, gridPoint? tie x.roundingInterval (2 ^ (k + 2)) 1 = some g := by
  have hbelow : x.roundingInterval.centre * 1 / 2 ^ (k + 2) = n := by
    have hcentre : x.roundingInterval.centre = n * 2 ^ (k + 2) := four_mul_significand hk
    rw [hcentre, Nat.mul_one]
    exact Nat.mul_div_cancel n (by positivity)
  unfold gridPoint?
  rw [hbelow]
  dsimp only
  rw [contains_self hk hn, decide_eq_true hn]
  split
  · split
    · exact ⟨_, rfl⟩
    · split
      · exact ⟨_, rfl⟩
      · cases tie <;> exact ⟨_, rfl⟩
  · exact ⟨_, rfl⟩

/-- On whatever grid the search ends, it finds the whole number. -/
theorem toRat_searchGrids (hk : x.significand = n * 2 ^ k) (hn : 0 < n) (tie : TieRule) {e more : ℕ}
    (hmore : more ≤ e) {length : ℕ} (hlength : e < more + length) :
    (searchGrids tie x.roundingInterval (-k - 2) e (List.range' more length)).toRat = n := by
  induction length generalizing more with
  | zero => omega
  | succ length ih =>
    have hten : scaleBy 10 ((e : ℤ) - more) 1 1 = (10 ^ (e - more), 1) := by
      have hpower : ((e : ℤ) - more).toNat = e - more := by omega
      rw [scaleBy, if_pos (by omega), hpower, Nat.one_mul, Nat.pow_eq]
    have htwo : scaleBy 2 (-(-(k : ℤ) - 2)) (10 ^ (e - more)) 1 =
        (10 ^ (e - more) * 2 ^ (k + 2), 1) := by
      have hpower : (-(-(k : ℤ) - 2)).toNat = k + 2 := by omega
      rw [scaleBy, if_pos (by omega), hpower, Nat.pow_eq]
    rw [List.range'_succ, searchGrids]
    simp only [hten, htwo]
    split
    next g hg =>
      have hcontains := contains_of_gridPoint? hg
      rw [← Nat.mul_assoc] at hcontains
      have hpower : (e : ℤ) - more = (e - more : ℕ) := by omega
      rw [Scientific.toRat_normalize, Scientific.toRat, hpower, zpow_natCast,
        ← eq_of_contains hk hcontains]
      push_cast
      rfl
    next hnone =>
      by_cases hlast : more = e
      · -- with the ones as its unit, the grid has the number itself
        obtain ⟨g, hg⟩ := exists_gridPoint? hk hn tie
        rw [hlast, Nat.sub_self, pow_zero, Nat.one_mul, hg] at hnone
        cases hnone
      · exact ih (by omega) (by omega)

theorem log10Floor_of_whole (h : x.IsWhole n) (hn : 0 < n) :
    log10Floor x.ratio.1 x.ratio.2 = (digitCount n - 1 : ℕ) := by
  have hden : 0 < x.ratio.2 := by
    unfold ratio scaleBy
    split <;> simp
  have hdigits := digitCount_pos n
  rw [IsWhole] at h
  rw [h, log10Floor, if_pos (Nat.le_mul_of_pos_left _ hn), Nat.mul_div_cancel _ hden]
  omega

theorem toRat_shortest (h : x.IsWhole n) (hn : n < 2 ^ 53) (tie : TieRule) :
    (x.shortest tie).toRat = n := by
  obtain ⟨k, hexponent, hk⟩ := h.significand_eq hn
  unfold shortest
  by_cases hzero : x.isZero = true
  · rw [if_pos hzero, (isZero_iff_of_significand hk).1 hzero]
    simp [Scientific.toRat]
  · have hpos : 0 < n := by
      rw [isZero_iff_of_significand hk] at hzero
      exact Nat.pos_of_ne_zero hzero
    have hdigits : digitCount n ≤ 16 + 1 :=
      digitCount_le_of_lt_pow (hn.trans (by norm_num : 2 ^ 53 < 10 ^ 16))
    rw [if_neg hzero]
    dsimp only
    rw [log10Floor_of_whole h hpos, hexponent, List.range_eq_range']
    exact toRat_searchGrids hk hpos tie (Nat.zero_le _) (by omega)

/-- **A whole number below `2 ^ 53` is printed as it is.** -/
theorem printed_whole (h : x.IsWhole n) (hn : n < 2 ^ 53) : x.printed = x.signedNat n := by
  have hvalue : (x.shortest .up).digits * (10 : ℚ) ^ (x.shortest .up).exponent = n :=
    toRat_shortest h hn .up
  rw [printed, mul_assoc, hvalue, signedNat]
  split <;> simp

end Binary64

namespace Decimal

variable {x : Binary64} {n : ℕ}

/-- Tens are split off from a multiple of a power of two without a loss. -/
theorem absorbFives_mul_pow (k m : ℕ) (e : ℤ) : absorbFives k (m * 2 ^ k) e = (m, e + k) := by
  induction k generalizing e with
  | zero => simp [absorbFives]
  | succ k ih =>
    have heven : m * 2 ^ (k + 1) % 2 = 0 := by
      rw [pow_succ, ← Nat.mul_assoc]
      exact Nat.mul_mod_left _ 2
    have hhalf : m * 2 ^ (k + 1) / 2 = m * 2 ^ k := by
      rw [pow_succ, ← Nat.mul_assoc]
      exact Nat.mul_div_cancel _ (by decide)
    rw [absorbFives, if_pos heven, hhalf, ih]
    congr 1
    push_cast
    ring

theorem exists_ofParts?_whole (x : Binary64) (hn : n < mantissaLimit) :
    ∃ d, ofParts? x.negative n 0 = some d ∧ d.toRat = x.signedNat n := by
  rw [ofParts?, dif_pos ⟨hn, Nat.zero_le 28⟩]
  refine ⟨_, rfl, ?_⟩
  rw [toRat_eq_div, unscaled, Binary64.signedNat]
  simp

/-- **A whole number below `2 ^ 53` is a decimal.** -/
theorem ofBinary64?_whole (h : x.IsWhole n) (hn : n < 2 ^ 53) :
    ∃ d, ofBinary64? x = some d ∧ d.toRat = x.signedNat n := by
  obtain ⟨k, hexponent, hk⟩ := h.significand_eq hn
  have hlimit : n < mantissaLimit := hn.trans (by decide)
  have hwhole := exists_ofParts?_whole x hlimit
  unfold ofBinary64?
  rw [h.isFinite hn, if_neg (by decide)]
  by_cases hzero : x.isZero = true
  · rw [if_pos hzero]
    rw [Binary64.isZero_iff_of_significand hk] at hzero
    subst hzero
    exact hwhole
  · rw [if_neg hzero, hk, hexponent]
    cases k with
    | zero =>
      have hpower : (-((0 : ℕ) : ℤ)).toNat = 0 := rfl
      rw [if_pos (by simp), hpower, Nat.pow_eq, pow_zero, Nat.mul_one, Nat.mul_one]
      exact hwhole
    | succ k =>
      have hpower : (-(-((k + 1 : ℕ) : ℤ))).toNat = k + 1 := by omega
      rw [if_neg (by omega), hpower, absorbFives_mul_pow, neg_add_cancel]
      -- nothing is left of the fraction, so no places are dropped
      exact hwhole

end Decimal

end TableDiff.Numeric
