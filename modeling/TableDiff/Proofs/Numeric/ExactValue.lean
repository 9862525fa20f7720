import Mathlib.Algebra.Order.Field.Rat
import Mathlib.Algebra.Order.Field.Power
import Mathlib.Tactic.FieldSimp
import Mathlib.Tactic.Linarith
import Mathlib.Tactic.Positivity
import TableDiff.Numeric.ExactDecimal
import TableDiff.Proofs.Text.Digits

/-!
# The rational numbers that decimals denote

An exact decimal denotes the rational number `toRat`. Its arithmetic and its order are those of the
rational numbers (`toRat_sub`, `toRat_abs`, `compare_eq_cmp`), although the order is decided by the
place of the leading digit where it can be. Removing zeros at the end keeps the number
(`toRat_normalize`), and numbers without such zeros are equal where they denote the same
(`normalize_eq_iff`).
-/

namespace TableDiff.Numeric

open TableDiff.Text

namespace ExactDecimal

/-- The number that is denoted. -/
def toRat (a : ExactDecimal) : ℚ := a.unscaled * (10 : ℚ) ^ (-a.scale)

theorem ten_zpow_pos (k : ℤ) : (0 : ℚ) < 10 ^ k := by positivity

theorem toRat_mk_natPow (u : ℤ) (k : ℕ) (s : ℤ) :
    toRat ⟨u * Nat.pow 10 k, s⟩ = toRat ⟨u, s - k⟩ := by
  have h : -(s - (k : ℤ)) = k + -s := by ring
  simp only [toRat, Nat.pow_eq]
  rw [h, zpow_add₀ (by norm_num), zpow_natCast]
  push_cast
  ring

/-! ## Sign -/

theorem toRat_pos_iff {a : ExactDecimal} : 0 < a.toRat ↔ 0 < a.unscaled := by
  rw [toRat, mul_pos_iff_of_pos_right (ten_zpow_pos _), Int.cast_pos]

theorem toRat_neg_iff {a : ExactDecimal} : a.toRat < 0 ↔ a.unscaled < 0 := by
  rw [← neg_pos, toRat, ← neg_mul, mul_pos_iff_of_pos_right (ten_zpow_pos _), neg_pos,
    Int.cast_lt_zero]

theorem toRat_eq_zero_iff {a : ExactDecimal} : a.toRat = 0 ↔ a.unscaled = 0 := by
  rw [toRat, mul_eq_zero_iff_right (ten_zpow_pos _).ne', Int.cast_eq_zero]

/-! ## Arithmetic -/

theorem align_fst (a b : ExactDecimal) :
    a.toRat = (align a b).1 * (10 : ℚ) ^ (-max a.scale b.scale) := by
  have hs : max a.scale b.scale - (b.scale - a.scale).toNat = a.scale := by omega
  have h := toRat_mk_natPow a.unscaled (b.scale - a.scale).toNat (max a.scale b.scale)
  rw [hs] at h
  exact h.symm

theorem align_snd (a b : ExactDecimal) :
    b.toRat = (align a b).2 * (10 : ℚ) ^ (-max a.scale b.scale) := by
  have hs : max a.scale b.scale - (a.scale - b.scale).toNat = b.scale := by omega
  have h := toRat_mk_natPow b.unscaled (a.scale - b.scale).toNat (max a.scale b.scale)
  rw [hs] at h
  exact h.symm

theorem toRat_sub (a b : ExactDecimal) : (a.sub b).toRat = a.toRat - b.toRat := by
  rw [align_fst a b, align_snd a b, ← sub_mul, sub, toRat]
  push_cast
  rfl

theorem toRat_abs (a : ExactDecimal) : a.abs.toRat = |a.toRat| := by
  rw [toRat, toRat, abs_mul, abs_of_pos (ten_zpow_pos _), abs, Nat.cast_natAbs]
  push_cast
  rfl

/-! ## Order -/

theorem cmp_align (a b : ExactDecimal) :
    Ord.compare (align a b).1 (align a b).2 = cmp a.toRat b.toRat := by
  rw [align_fst a b, align_snd a b, cmp_mul_pos_right (ten_zpow_pos _), ← cmp_eq_compare]
  exact (Int.cast_strictMono.cmp_map_eq _ _).symm

/-- A number other than zero lies between the powers of ten of its magnitude. -/
theorem magnitude_bounds {a : ExactDecimal} (ha : a.unscaled ≠ 0) :
    (10 : ℚ) ^ (a.magnitude - 1) ≤ |a.toRat| ∧ |a.toRat| < 10 ^ a.magnitude := by
  have hne : a.unscaled.natAbs ≠ 0 := Int.natAbs_ne_zero.2 ha
  have habs : |a.toRat| = a.unscaled.natAbs * (10 : ℚ) ^ (-a.scale) := by
    rw [toRat, abs_mul, abs_of_pos (ten_zpow_pos _), Nat.cast_natAbs]
    push_cast
    rfl
  have hcount := digitCount_pos a.unscaled.natAbs
  have hlow : (10 : ℚ) ^ (digitCount a.unscaled.natAbs - 1) ≤ a.unscaled.natAbs := by
    exact_mod_cast pow_digitCount_le hne
  have hhigh : (a.unscaled.natAbs : ℚ) < 10 ^ digitCount a.unscaled.natAbs := by
    exact_mod_cast lt_pow_digitCount a.unscaled.natAbs
  have hsplit : a.magnitude - 1 = ((digitCount a.unscaled.natAbs - 1 : ℕ) : ℤ) + -a.scale := by
    unfold magnitude
    omega
  rw [habs]
  constructor
  · rw [hsplit, zpow_add₀ (by norm_num), zpow_natCast]
    exact mul_le_mul_of_nonneg_right hlow (ten_zpow_pos _).le
  · rw [magnitude, sub_eq_add_neg, zpow_add₀ (by norm_num), zpow_natCast]
    exact mul_lt_mul_of_pos_right hhigh (ten_zpow_pos _)

theorem abs_lt_of_magnitude_lt {a b : ExactDecimal} (ha : a.unscaled ≠ 0) (hb : b.unscaled ≠ 0)
    (h : a.magnitude < b.magnitude) : |a.toRat| < |b.toRat| :=
  calc |a.toRat| < 10 ^ a.magnitude := (magnitude_bounds ha).2
    _ ≤ 10 ^ (b.magnitude - 1) := zpow_le_zpow_right₀ (by norm_num) (by omega)
    _ ≤ |b.toRat| := (magnitude_bounds hb).1

theorem compareSameSign_of_pos {a b : ExactDecimal} (ha : 0 < a.unscaled) (hb : 0 < b.unscaled) :
    compareSameSign a b = cmp a.toRat b.toRat := by
  have ha' := toRat_pos_iff.2 ha
  have hb' := toRat_pos_iff.2 hb
  unfold compareSameSign
  by_cases h : a.magnitude = b.magnitude
  · rw [if_pos h]
    exact cmp_align a b
  · rw [if_neg h, if_pos ha]
    rcases lt_or_gt_of_ne h with h | h
    · have hlt := abs_lt_of_magnitude_lt ha.ne' hb.ne' h
      rw [abs_of_pos ha', abs_of_pos hb'] at hlt
      rw [(cmp_eq_lt_iff _ _).2 hlt, compare_lt_iff_lt.2 h]
    · have hlt := abs_lt_of_magnitude_lt hb.ne' ha.ne' h
      rw [abs_of_pos ha', abs_of_pos hb'] at hlt
      rw [(cmp_eq_gt_iff _ _).2 hlt, compare_gt_iff_gt.2 h]

theorem compareSameSign_of_neg {a b : ExactDecimal} (ha : a.unscaled < 0) (hb : b.unscaled < 0) :
    compareSameSign a b = cmp a.toRat b.toRat := by
  have ha' := toRat_neg_iff.2 ha
  have hb' := toRat_neg_iff.2 hb
  unfold compareSameSign
  by_cases h : a.magnitude = b.magnitude
  · rw [if_pos h]
    exact cmp_align a b
  · rw [if_neg h, if_neg ha.not_gt]
    rcases lt_or_gt_of_ne h with h | h
    · have hlt := abs_lt_of_magnitude_lt ha.ne hb.ne h
      rw [abs_of_neg ha', abs_of_neg hb'] at hlt
      rw [(cmp_eq_gt_iff _ _).2 (neg_lt_neg_iff.1 hlt), compare_lt_iff_lt.2 h]
      rfl
    · have hlt := abs_lt_of_magnitude_lt hb.ne ha.ne h
      rw [abs_of_neg ha', abs_of_neg hb'] at hlt
      rw [(cmp_eq_lt_iff _ _).2 (neg_lt_neg_iff.1 hlt), compare_gt_iff_gt.2 h]
      rfl

theorem toRat_lt_of_sign_lt {a b : ExactDecimal} (h : a.unscaled.sign < b.unscaled.sign) :
    a.toRat < b.toRat := by
  rcases lt_trichotomy a.unscaled 0 with ha | ha | ha
  · have hb : 0 ≤ b.toRat := by
      refine le_of_not_gt fun hb => ?_
      rw [Int.sign_eq_neg_one_of_neg ha, Int.sign_eq_neg_one_of_neg (toRat_neg_iff.1 hb)] at h
      exact h.false
    exact (toRat_neg_iff.2 ha).trans_le hb
  · rw [ha, Int.sign_zero, Int.sign_pos_iff] at h
    rw [toRat_eq_zero_iff.2 ha]
    exact toRat_pos_iff.2 h
  · rw [Int.sign_eq_one_of_pos ha] at h
    rcases Int.sign_trichotomy b.unscaled with hb | hb | hb <;> omega

/-- **Numbers are ordered by their value.** -/
theorem compare_eq_cmp (a b : ExactDecimal) : a.compare b = cmp a.toRat b.toRat := by
  unfold compare
  cases hs : Ord.compare a.unscaled.sign b.unscaled.sign with
  | lt =>
    have hlt := toRat_lt_of_sign_lt (compare_lt_iff_lt.1 hs)
    exact ((cmp_eq_lt_iff _ _).2 hlt).symm
  | gt =>
    have hlt := toRat_lt_of_sign_lt (compare_gt_iff_gt.1 hs)
    exact ((cmp_eq_gt_iff _ _).2 hlt).symm
  | eq =>
    have hsign := compare_eq_iff_eq.1 hs
    rcases lt_trichotomy a.unscaled 0 with ha | ha | ha
    · rw [Int.sign_eq_neg_one_of_neg ha, eq_comm, Int.sign_eq_neg_one_iff_neg] at hsign
      dsimp only
      rw [if_neg ha.ne]
      exact compareSameSign_of_neg ha hsign
    · rw [ha, Int.sign_zero, eq_comm, Int.sign_eq_zero_iff_zero] at hsign
      dsimp only
      rw [if_pos ha, toRat_eq_zero_iff.2 ha, toRat_eq_zero_iff.2 hsign, cmp_self_eq_eq]
    · rw [Int.sign_eq_one_of_pos ha, eq_comm, Int.sign_eq_one_iff_pos] at hsign
      dsimp only
      rw [if_neg ha.ne']
      exact compareSameSign_of_pos ha hsign

theorem le_iff {a b : ExactDecimal} : a.le b = true ↔ a.toRat ≤ b.toRat := by
  rw [le, compare_eq_cmp, bne_iff_ne, ne_eq, cmp_eq_gt_iff, not_lt]

/-! ## Numbers without zeros at the end -/

theorem normalize_of_ne {a : ExactDecimal} (ha : a.unscaled ≠ 0) :
    a.normalize = ⟨a.unscaled.tdiv (Nat.pow 10 (trailingZeros a.unscaled.natAbs)),
      a.scale - trailingZeros a.unscaled.natAbs⟩ := by
  rw [normalize, if_neg ha]
  rfl

theorem toRat_normalize (a : ExactDecimal) : a.normalize.toRat = a.toRat := by
  by_cases ha : a.unscaled = 0
  · rw [normalize, if_pos ha, toRat_eq_zero_iff.2 ha, toRat_eq_zero_iff]
  · have hne : a.unscaled.natAbs ≠ 0 := Int.natAbs_ne_zero.2 ha
    have hdvd : (Nat.pow 10 (trailingZeros a.unscaled.natAbs) : ℤ) ∣ a.unscaled :=
      Int.natCast_dvd.2 (Dvd.intro_left _ (trailingZeros_mul hne))
    rw [normalize_of_ne ha, ← toRat_mk_natPow, Int.tdiv_mul_cancel hdvd]

/-- The integer of a normalized number other than zero is no multiple of ten. -/
theorem normalize_unscaled_emod {a : ExactDecimal} (ha : a.unscaled ≠ 0) :
    ¬ (10 : ℤ) ∣ a.normalize.unscaled := by
  have hne : a.unscaled.natAbs ≠ 0 := Int.natAbs_ne_zero.2 ha
  intro hdvd
  rw [normalize_of_ne ha, Int.dvd_natAbs.symm, Int.natAbs_tdiv] at hdvd
  have h := trailingZeros_maximal hne
  have hdvd' : 10 ∣ a.unscaled.natAbs / 10 ^ trailingZeros a.unscaled.natAbs := by
    exact_mod_cast hdvd
  omega

theorem normalize_scale_bounds {a : ExactDecimal} {k : ℕ} (hu : a.unscaled.natAbs < 10 ^ k)
    (hs : 0 ≤ a.scale) : -(k : ℤ) ≤ a.normalize.scale ∧ a.normalize.scale ≤ a.scale := by
  by_cases ha : a.unscaled = 0
  · rw [normalize, if_pos ha]
    exact ⟨by simp, hs⟩
  · have hne : a.unscaled.natAbs ≠ 0 := Int.natAbs_ne_zero.2 ha
    have hle : 10 ^ trailingZeros a.unscaled.natAbs ≤ a.unscaled.natAbs :=
      Nat.le_of_dvd (Nat.pos_of_ne_zero hne) (Dvd.intro_left _ (trailingZeros_mul hne))
    have hlt : trailingZeros a.unscaled.natAbs < k :=
      (Nat.pow_lt_pow_iff_right (by norm_num)).1 (hle.trans_lt hu)
    rw [normalize_of_ne ha]
    simp only
    omega

theorem align_eq_of_toRat_eq {a b : ExactDecimal} (h : a.toRat = b.toRat) :
    a.unscaled * 10 ^ (b.scale - a.scale).toNat = b.unscaled * 10 ^ (a.scale - b.scale).toNat := by
  rw [align_fst a b, align_snd a b] at h
  exact_mod_cast mul_right_cancel₀ (ten_zpow_pos _).ne' h

theorem scale_le_of_toRat_eq {a b : ExactDecimal} (hb : ¬ (10 : ℤ) ∣ b.unscaled)
    (h : a.toRat = b.toRat) : b.scale ≤ a.scale := by
  have hal := align_eq_of_toRat_eq h
  refine le_of_not_gt fun hlt => hb ?_
  obtain ⟨k, hk⟩ : ∃ k, (b.scale - a.scale).toNat = k + 1 :=
    ⟨(b.scale - a.scale).toNat - 1, by omega⟩
  rw [hk, Int.toNat_of_nonpos (by omega : a.scale - b.scale ≤ 0), pow_zero, mul_one, pow_succ,
    ← mul_assoc] at hal
  exact Dvd.intro_left _ hal

/-- **Normalized numbers are equal where they denote the same number.** -/
theorem normalize_eq_iff {a b : ExactDecimal} : a.normalize = b.normalize ↔ a.toRat = b.toRat := by
  constructor
  · intro h
    rw [← toRat_normalize a, h, toRat_normalize]
  · intro h
    by_cases ha : a.unscaled = 0
    · have hb : b.unscaled = 0 := by
        rw [← toRat_eq_zero_iff, ← h, toRat_eq_zero_iff, ha]
      rw [normalize, normalize, if_pos ha, if_pos hb]
    · have hb : b.unscaled ≠ 0 := by
        rw [ne_eq, ← toRat_eq_zero_iff, ← h, toRat_eq_zero_iff]
        exact ha
      have hn : a.normalize.toRat = b.normalize.toRat := by
        rw [toRat_normalize, toRat_normalize, h]
      have hs : a.normalize.scale = b.normalize.scale :=
        le_antisymm (scale_le_of_toRat_eq (normalize_unscaled_emod ha) hn.symm)
          (scale_le_of_toRat_eq (normalize_unscaled_emod hb) hn)
      have hu := align_eq_of_toRat_eq hn
      rw [hs, sub_self, Int.toNat_zero, pow_zero, mul_one, mul_one] at hu
      exact congrArg₂ ExactDecimal.mk hu hs

end ExactDecimal

end TableDiff.Numeric

/-! ## Decimals of limited size -/

namespace TableDiff.Numeric.Decimal

/-- The number that a decimal denotes. -/
def toRat (d : Decimal) : ℚ := (ExactDecimal.ofDecimal d).toRat

theorem toRat_eq_div (d : Decimal) : d.toRat = d.unscaled / 10 ^ d.scale := by
  rw [toRat, ExactDecimal.toRat, ExactDecimal.ofDecimal, zpow_neg, zpow_natCast, div_eq_mul_inv]

theorem unscaled_mul_pow (d : Decimal) (k : ℕ) :
    ((d.unscaled * Nat.pow 10 k : ℤ) : ℚ) = d.toRat * 10 ^ (d.scale + k) := by
  have hcancel : (10 : ℚ) ^ (-(d.scale : ℤ)) * 10 ^ d.scale = 1 := by
    rw [← zpow_natCast, ← zpow_add₀ (by norm_num), neg_add_cancel, zpow_zero]
  rw [toRat, ExactDecimal.toRat, ExactDecimal.ofDecimal, pow_add, mul_assoc, ← mul_assoc (10 ^ _),
    hcancel, one_mul]
  simp

theorem compare_eq_cmp (a b : Decimal) : a.compare b = cmp a.toRat b.toRat := by
  have hpos : (0 : ℚ) < 10 ^ (a.scale + b.scale) := by positivity
  rw [compare, ← cmp_eq_compare, ← (Int.cast_strictMono (R := ℚ)).cmp_map_eq, unscaled_mul_pow,
    unscaled_mul_pow, add_comm b.scale, cmp_mul_pos_right hpos]

/-- The largest decimal. -/
def largest : Decimal :=
  { one with mantissa := 79228162514264337593543950335, mantissa_lt := by decide }

theorem toRat_le_largest (d : Decimal) : d.toRat ≤ largest.toRat := by
  have hunscaled : (d.unscaled : ℚ) ≤ d.mantissa := by
    unfold unscaled
    split <;> push_cast <;> linarith [Nat.cast_nonneg (α := ℚ) d.mantissa]
  have hscale : (10 : ℚ) ^ (-(d.scale : ℤ)) ≤ 1 :=
    zpow_le_one_of_nonpos₀ (by norm_num) (by omega)
  have hmantissa : d.mantissa ≤ largest.mantissa := Nat.le_of_lt_succ d.mantissa_lt
  calc d.toRat ≤ d.mantissa * 10 ^ (-(d.scale : ℤ)) :=
        mul_le_mul_of_nonneg_right hunscaled (ExactDecimal.ten_zpow_pos _).le
    _ ≤ d.mantissa := mul_le_of_le_one_right (Nat.cast_nonneg _) hscale
    _ ≤ largest.mantissa := by exact_mod_cast hmantissa
    _ = largest.toRat := by norm_num [toRat, largest, one, ExactDecimal.toRat,
        ExactDecimal.ofDecimal, unscaled]

theorem toRat_ofInt64 (i : Int64) : (ofInt64 i).toRat = i.toInt := by
  have h : (ofInt64 i).unscaled = i.toInt := by
    simp only [unscaled, ofInt64, decide_eq_true_eq]
    split <;> omega
  rw [toRat, ExactDecimal.toRat, ExactDecimal.ofDecimal, h]
  simp [ofInt64]

theorem toRat_ofBool (b : Bool) : (ofBool b).toRat = if b then 1 else 0 := by
  cases b <;> simp [toRat, ExactDecimal.toRat, ExactDecimal.ofDecimal, ofBool, unscaled, one, zero]

end TableDiff.Numeric.Decimal

namespace TableDiff.Numeric.ExactDecimal

theorem toRat_ofInt (i : ℤ) : (ofInt i).toRat = i := by simp [toRat, ofInt]

theorem toRat_ofDecimal (d : Decimal) : (ofDecimal d).toRat = d.toRat := rfl

end TableDiff.Numeric.ExactDecimal
