import TableDiff.Proofs.Numeric.ExactText

/-!
# The printed number of a floating point number

A finite floating point number is printed as the shortest digits that tell it apart, times a power
of ten. The exact reader finds this number in the printed text (`ofText?_text`): the text is
positional, and a floating point number has few decimal places (`neg_le_shortest_exponent`).
-/

namespace TableDiff.Numeric

open TableDiff.Text

theorem digitCount_le_of_lt_pow {n k : ℕ} (h : n < 10 ^ k) : digitCount n ≤ k + 1 := by
  by_cases hn : n = 0
  · subst hn
    simp [digitCount]
  · have hlt : 10 ^ (digitCount n - 1) < 10 ^ k := (pow_digitCount_le hn).trans_lt h
    have := (Nat.pow_lt_pow_iff_right (by norm_num)).1 hlt
    omega

namespace Binary64

/-! ## The places of the shortest digits -/

theorem neg_le_exponent (x : Binary64) : -1074 ≤ x.exponent := by
  unfold exponent
  split <;> omega

theorem ratio_snd_le (x : Binary64) : x.ratio.2 ≤ 10 ^ (-x.exponent).toNat := by
  unfold ratio scaleBy
  split
  · exact Nat.one_le_pow _ _ (by norm_num)
  · simpa using Nat.pow_le_pow_left (by norm_num : 2 ≤ 10) _

theorem neg_le_log10Floor (x : Binary64) : -1075 ≤ log10Floor x.ratio.1 x.ratio.2 := by
  unfold log10Floor
  split
  · omega
  · have hpos : 0 < 10 ^ (-x.exponent).toNat := by positivity
    have hlt : (x.ratio.2 - 1) / x.ratio.1 < 10 ^ (-x.exponent).toNat := by
      have := Nat.div_le_self (x.ratio.2 - 1) x.ratio.1
      have := ratio_snd_le x
      omega
    have := digitCount_le_of_lt_pow hlt
    have := neg_le_exponent x
    omega

theorem Scientific.le_normalize_exponent (fuel : ℕ) (s : Scientific) :
    s.exponent ≤ (normalize fuel s).exponent := by
  induction fuel generalizing s with
  | zero => exact le_rfl
  | succ fuel ih =>
    unfold normalize
    split
    · exact le_trans (by simp) (ih _)
    · exact le_rfl

/-- The digits stand on one of the grids that are tried, or are the number itself. -/
theorem le_searchGrids_exponent {tie : TieRule} {i : RoundingInterval} {q e b : ℤ} {grids : List ℕ}
    (hq : b ≤ q) (hgrids : ∀ more ∈ grids, b ≤ e - more) :
    b ≤ (searchGrids tie i q e grids).exponent := by
  induction grids with
  | nil => exact hq
  | cons more rest ih =>
    obtain ⟨hmore, hrest⟩ := List.forall_mem_cons.1 hgrids
    rw [searchGrids]
    dsimp only
    split
    next digits _ => exact hmore.trans (Scientific.le_normalize_exponent 20 ⟨digits, e - more⟩)
    next => exact ih hrest

theorem neg_le_shortest_exponent (tie : TieRule) (x : Binary64) :
    -1091 ≤ (x.shortest tie).exponent := by
  unfold shortest
  split
  · decide
  · have hlog := neg_le_log10Floor x
    refine le_searchGrids_exponent ?_ ?_
    · have := neg_le_exponent x
      omega
    · intro more hmore
      have := List.mem_range.1 hmore
      change -1091 ≤ log10Floor x.ratio.1 x.ratio.2 - more
      omega

/-! ## The printed text -/

/-- The number that is printed for a finite floating point number. -/
def printed (x : Binary64) : ℚ :=
  (if x.negative then -1 else 1) * (x.shortest .up).digits * 10 ^ (x.shortest .up).exponent

end Binary64

namespace ExactDecimal

open Binary64 (Scientific positional)

variable {u : ℤ} {cs : List Char} {n : ExactDecimal}

theorem ofText?_of_plain (hcs : ∀ d ∈ cs, isDigit d = true ∨ d = '.')
    (hn : ofPlain? (signedDigits u cs) = some n) (hfits : fitsInt64 n.scale = true) :
    ofText? (signedDigits u cs) = some n := by
  rw [ofText?_eq_parts, parts?_plain hcs hn, Option.bind_some, shifted?_zero, if_pos hfits]

/-- Positional text is read as the number that it is the form of. -/
theorem ofText?_positional (u : ℤ) {s : Scientific} (hs : -9223372036854775808 < s.exponent) :
    (ofText? (signedDigits u (positional s))).map toRat =
      some ((signedNat u s.digits : ℤ) * (10 : ℚ) ^ s.exponent) := by
  have hd : ∀ c ∈ digits s.digits, isDigit c = true := fun c => isDigit_of_mem_digits
  have hne := digits_ne_nil s.digits
  unfold positional
  dsimp only
  split
  next hpos =>
    have hall : ∀ c ∈ digits s.digits ++ List.replicate s.exponent.toNat '0', isDigit c = true :=
      fun c hc => (List.mem_append.1 hc).elim (hd c) (isDigit_of_mem_zeros c)
    have hplain := ofPlain?_digits (u := u) (List.append_ne_nil_of_left_ne_nil hne _) hall
    have hpow : (10 : ℚ) ^ s.exponent = 10 ^ s.exponent.toNat := by
      rw [← zpow_natCast, Int.toNat_of_nonneg hpos]
    rw [ofText?_of_plain (fun c hc => .inl (hall c hc)) hplain (fitsInt64_of_le (by simp)),
      Option.map_some, natOfDigits_append, natOfDigits_replicate_zero, natOfDigits_digits,
      List.length_replicate, Nat.add_zero, signedNat_mul, toRat, hpow]
    simp
  next hneg =>
    have hplaces : -(((-s.exponent).toNat : ℕ) : ℤ) = s.exponent := by omega
    have hfits : fitsInt64 ((-s.exponent).toNat : ℕ) = true := by
      simp only [fitsInt64, Bool.and_eq_true, decide_eq_true_eq]
      omega
    have hread : ∀ {cs : List Char}, (∀ c ∈ cs, isDigit c = true ∨ c = '.') →
        ofPlain? (signedDigits u cs) =
          some ⟨signedNat u (natOfDigits (digits s.digits)), (-s.exponent).toNat⟩ →
        (ofText? (signedDigits u cs)).map toRat =
          some ((signedNat u s.digits : ℤ) * (10 : ℚ) ^ s.exponent) := by
      intro cs hcs hplain
      rw [ofText?_of_plain hcs hplain hfits, Option.map_some, toRat, natOfDigits_digits, hplaces]
    split
    next hlt => exact hread (mem_pointInserted hd) (ofPlain?_pointInserted hlt hd)
    next hge =>
      have hzeros : ∀ c ∈ List.replicate ((-s.exponent).toNat - (digits s.digits).length) '0' ++
          digits s.digits, isDigit c = true :=
        fun c hc => (List.mem_append.1 hc).elim (isDigit_of_mem_zeros c) (hd c)
      have hzero : ∀ c ∈ ['0'], isDigit c = true := by
        intro c hc
        rw [List.mem_singleton.1 hc]
        rfl
      have hplain := ofPlain?_point (u := u) (List.cons_ne_nil '0' []) hzero hzeros
      have hvalue : natOfDigits (['0'] ++ (List.replicate
          ((-s.exponent).toNat - (digits s.digits).length) '0' ++ digits s.digits)) =
          natOfDigits (digits s.digits) := by
        rw [natOfDigits_append, natOfDigits_append, natOfDigits_replicate_zero]
        simp [natOfDigits, natOfDigitsFrom, digitValue]
      have hlength : (List.replicate ((-s.exponent).toNat - (digits s.digits).length) '0' ++
          digits s.digits).length = (-s.exponent).toNat := by
        rw [List.length_append, List.length_replicate]
        omega
      rw [hvalue, hlength] at hplain
      refine hread (List.forall_mem_cons.2 ⟨.inl (by decide), List.forall_mem_cons.2
        ⟨.inr rfl, fun c hc => .inl (hzeros c hc)⟩⟩) hplain

end ExactDecimal

theorem Binary64.ofText?_text {x : Binary64} (h : x.isFinite = true) :
    (ExactDecimal.ofText? x.text).map ExactDecimal.toRat = some x.printed := by
  have hnan : x.isNaN = false := by
    simp only [isFinite, isNaN, decide_eq_true_eq, decide_eq_false_iff_not] at h ⊢
    omega
  have hinfinite : x.isInfinite = false := by
    simp only [isFinite, isInfinite, decide_eq_true_eq, beq_eq_false_iff_ne] at h ⊢
    omega
  have hexponent := neg_le_shortest_exponent .up x
  have htext : x.text = ExactDecimal.signedDigits (if x.negative then -1 else 1)
      (positional (x.shortest .up)) := by
    rw [text, hnan, hinfinite]
    cases x.negative <;> rfl
  rw [htext, ExactDecimal.ofText?_positional _ (by omega), printed]
  cases x.negative <;> simp [ExactDecimal.signedNat]

end TableDiff.Numeric
