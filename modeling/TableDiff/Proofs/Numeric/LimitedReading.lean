import TableDiff.Proofs.Numeric.ExactText
import TableDiff.Proofs.Numeric.WrittenDecimal

/-!
# The limited reader on parts of written numbers

The parts of which the text of a number consists are read as decimals of limited size: digits
(`read?_digits`), digits with a point among them (`read?_placed`) and the exponents after them
(`ofScientific?_minus`, `ofScientific?_plus`). Digits with a point after the first of them are
rounded in one of their last places or not at all (`ofText?_pointAfterFirst`), and then no room is
left for the exponent of a small number (`shiftDown?_eq_none`).
-/

namespace TableDiff.Numeric

open TableDiff.Text
open Binary64 (pointAfterFirst)

namespace Decimal

open ExactDecimal (signedDigits)

variable {surplus : Surplus} {negative : Bool} {u : ℤ} {p : Progress}
  {cs ds whole places : List Char}

/-! ## Rounded digits -/

theorem digitValue_lt {c : Char} (h : isDigit c = true) : digitValue c < 10 := by
  have hle : c.toNat ≤ '9'.toNat := by
    simp only [isDigit, Bool.and_eq_true, decide_eq_true_eq] at h
    exact h.2
  have hnine : '9'.toNat - '0'.toNat < 10 := by decide
  unfold digitValue
  omega

theorem scale_of_ofUnsigned? {m s : ℕ} {d : Decimal} (h : ofUnsigned? negative m s = some d) :
    d.scale = s := by
  have hs : ((d.scale : ℕ) : ℤ) = s :=
    congrArg ExactDecimal.scale (ofDecimal_of_ofUnsigned? h).1
  exact_mod_cast hs

theorem scale_of_roundedUp? {m s : ℕ} {d : Decimal} (h : roundedUp? negative m s = some d) :
    s ≤ d.scale + 1 := by
  unfold roundedUp? at h
  split at h
  next =>
    rw [scale_of_ofUnsigned? h]
    exact Nat.le_succ s
  next =>
    split at h
    next => cases h
    next =>
      rw [scale_of_ofUnsigned? h]
      omega

/-- Rounding gives up one decimal place at most. -/
theorem scale_of_settle? {m s : ℕ} {c : Char} {d : Decimal}
    (h : settle? .round negative m s c = some d) : s ≤ d.scale + 1 := by
  have hkeep : ofUnsigned? negative m s = some d → s ≤ d.scale + 1 := fun h => by
    rw [scale_of_ofUnsigned? h]
    exact Nat.le_succ s
  simp only [settle?] at h
  split at h
  next =>
    split at h
    next => exact scale_of_roundedUp? h
    next => exact hkeep h
  next =>
    split at h
    next => exact hkeep h
    next => cases h

/-- After a point that follows the first digit, digits are rounded in their last places only. -/
theorem scan_round_cases {d : Decimal} (hp : p.point = true) (hm : p.mantissa < 10 ^ (p.scale + 1))
    (h : scan .round negative p cs = some d) :
    scan .refuse negative p cs = some d ∨ 26 ≤ d.scale := by
  induction cs generalizing p with
  | nil => exact .inl h
  | cons c rest ih =>
    rw [scan] at h
    rw [scan]
    by_cases hfull : p.scale = 28
    · rw [if_pos hfull] at h
      have hscale := scale_of_settle? h
      exact .inr (by omega)
    rw [if_neg hfull] at h ⊢
    by_cases hc : isDigit c = true
    · have hpush : (p.push c).mantissa < 10 ^ ((p.push c).scale + 1) := by
        have hvalue := digitValue_lt hc
        simp only [Progress.push, hp, if_true, pow_succ 10 (p.scale + 1)]
        omega
      rw [if_pos hc] at h ⊢
      by_cases hfits : (p.push c).mantissa < mantissaLimit
      · rw [if_pos hfits] at h ⊢
        exact ih (p := p.push c) hp hpush h
      · rw [if_neg hfits, if_pos hp] at h
        refine .inr ?_
        have hscale := scale_of_settle? h
        have hlarge : 10 ^ 28 < 10 ^ ((p.push c).scale + 1) :=
          (by decide : 10 ^ 28 < mantissaLimit).trans_le ((Nat.not_lt.1 hfits).trans hpush.le)
        have hplaces := (Nat.pow_lt_pow_iff_right (by decide)).1 hlarge
        simp only [Progress.push, hp, if_true] at hplaces
        omega
    · rw [if_neg hc] at h ⊢
      rw [if_neg (by simp [hp])] at h ⊢
      split at h
      next hu =>
        rw [if_pos hu]
        exact ih hp hm h
      next => cases h

theorem startsWithDigit_append (hne : ds ≠ []) (hd : ∀ c ∈ ds, isDigit c = true) (cs : List Char) :
    StartsWithDigit (ds ++ cs) := by
  obtain ⟨c, rest, rfl⟩ := List.exists_cons_of_ne_nil hne
  exact ⟨c, rest ++ cs, rfl, hd c List.mem_cons_self⟩

theorem read?_signedDigits (h : StartsWithDigit cs) :
    read? surplus (signedDigits u cs) = scan surplus (decide (u < 0)) {} cs := by
  unfold signedDigits
  by_cases hu : u < 0
  · rw [if_pos hu, decide_eq_true hu]
    rfl
  · rw [if_neg hu, decide_eq_false hu]
    exact read?_of_startsWithDigit h

theorem ofText?_pointAfterFirst (hne : ds ≠ []) (hd : ∀ c ∈ ds, isDigit c = true) {d : Decimal}
    (h : ofText? (signedDigits u (pointAfterFirst ds)) = some d) :
    ofTextExact? (signedDigits u (pointAfterFirst ds)) = some d ∨ 26 ≤ d.scale := by
  match ds, hne with
  | [c], _ =>
    have hread : ofText? (signedDigits u [c]) = ofTextExact? (signedDigits u [c]) :=
      ofText?_eq_ofTextExact? (ExactDecimal.point_notMem hd)
    exact .inl (hread.symm.trans h)
  | c :: c' :: more, _ =>
    have hc : isDigit c = true := hd c List.mem_cons_self
    let p : Progress := { Progress.push {} c with point := true }
    have hfirst : p.mantissa < 10 := by
      simpa [p, Progress.push] using digitValue_lt hc
    have hread : ∀ surplus, read? surplus (signedDigits u (pointAfterFirst (c :: c' :: more))) =
        scan surplus (decide (u < 0)) p (c' :: more) := by
      intro surplus
      have hs : StartsWithDigit (c :: '.' :: c' :: more) := ⟨c, _, rfl, hc⟩
      have hform : pointAfterFirst (c :: c' :: more) = c :: '.' :: c' :: more := rfl
      rw [hform, read?_signedDigits hs]
      rw [scan, if_neg (by decide), if_pos hc, if_pos (Nat.lt_trans hfirst (by decide))]
      rw [scan, if_neg (by simp [Progress.push]), if_neg (by decide), if_pos ⟨rfl, rfl⟩]
    rw [ofText?, hread] at h
    rw [ofTextExact?, hread]
    exact scan_round_cases rfl hfirst h

/-! ## Parts of written numbers -/

theorem read?_digits (hne : ds ≠ []) (hd : ∀ c ∈ ds, isDigit c = true)
    (hm : natOfDigits ds < mantissaLimit) :
    read? surplus (signedDigits u ds) = ofUnsigned? (decide (u < 0)) (natOfDigits ds) 0 := by
  have hs : StartsWithDigit ds := List.append_nil ds ▸ startsWithDigit_append hne hd []
  rw [read?_signedDigits hs, scan_whole hne hd hm]

theorem read?_placed (hne : whole ≠ []) (hd : ∀ c ∈ whole ++ places, isDigit c = true)
    (hm : natOfDigits (whole ++ places) < mantissaLimit) (hlength : places.length ≤ 28) :
    read? surplus (signedDigits u (whole ++ '.' :: places)) =
      ofUnsigned? (decide (u < 0)) (natOfDigits (whole ++ places)) places.length := by
  have hs := startsWithDigit_append hne (List.forall_mem_append.1 hd).1 ('.' :: places)
  rw [read?_signedDigits hs,
    scan_placed (List.append_ne_nil_of_left_ne_nil hne _) hd hm hlength]

theorem read?_pointAfterFirst (hne : ds ≠ []) (hd : ∀ c ∈ ds, isDigit c = true)
    (hm : natOfDigits ds < mantissaLimit) (hlength : ds.length ≤ 29) :
    read? surplus (signedDigits u (pointAfterFirst ds)) =
      ofUnsigned? (decide (u < 0)) (natOfDigits ds) (ds.length - 1) := by
  match ds, hne with
  | [c], hne => exact read?_digits hne hd hm
  | c :: c' :: more, _ =>
    show read? surplus (signedDigits u ([c] ++ '.' :: c' :: more)) = _
    refine read?_placed (List.cons_ne_nil c []) hd hm ?_
    simp only [List.length_cons] at hlength ⊢
    omega

theorem ofUnsigned?_of_lt (negative : Bool) {m s : ℕ} (hm : m < mantissaLimit) (hs : s ≤ 28) :
    ∃ d, ofUnsigned? negative m s = some d ∧ d.mantissa = m ∧ d.scale = s := by
  rw [ofUnsigned?, ofParts?, dif_pos ⟨hm, hs⟩]
  exact ⟨_, rfl, rfl, rfl⟩

theorem ofParts?_of_lt {m s : ℕ} (hm : m < mantissaLimit) (hs : s ≤ 28) :
    ∃ d, ofParts? negative m s = some d := by
  rw [ofParts?, dif_pos ⟨hm, hs⟩]
  exact ⟨_, rfl⟩

/-! ## Exponents -/

theorem readUnsigned?_digits (k : ℕ) : readUnsigned? (digits k) = some k := by
  have hall : (digits k).all isDigit = true :=
    List.all_eq_true.2 fun c hc => isDigit_of_mem_digits hc
  have hplus : ∀ rest, digits k ≠ '+' :: rest := by
    intro rest h
    have hmem : '+' ∈ digits k := h ▸ List.mem_cons_self
    exact absurd (isDigit_of_mem_digits hmem) (by decide)
  rw [readUnsigned?_of_ne_plus hplus, if_pos ⟨digits_ne_nil k, hall⟩, natOfDigits_digits]

theorem ofScientific?_minus {base : List Char} {k : ℕ} {b : Decimal}
    (hsplit : splitExponent? cs = some (base, '-' :: digits k)) (hb : ofText? base = some b) :
    ofScientific? cs = b.shiftDown? k := by
  simp only [ofScientific?, hsplit, hb, Option.bind_eq_bind, Option.bind_some,
    readUnsigned?_digits]

theorem ofScientific?_plus {base : List Char} {k : ℕ} {b : Decimal}
    (hsplit : splitExponent? cs = some (base, '+' :: digits k)) (hb : ofText? base = some b) :
    ofScientific? cs = b.shiftUp? k := by
  have hread : readUnsigned? ('+' :: digits k) = some k := by
    have hall : (digits k).all isDigit = true :=
      List.all_eq_true.2 fun c hc => isDigit_of_mem_digits hc
    simp only [readUnsigned?]
    rw [if_pos ⟨digits_ne_nil k, hall⟩, natOfDigits_digits]
  simp only [ofScientific?, hsplit, hb, Option.bind_eq_bind, Option.bind_some]
  show (readUnsigned? ('+' :: digits k)).bind b.shiftUp? = b.shiftUp? k
  rw [hread, Option.bind_some]

/-- There is no room for an exponent after digits that fill the places. -/
theorem shiftDown?_eq_none {b : Decimal} {k : ℕ} (h : 28 < b.scale + k) :
    b.shiftDown? k = none := by
  rw [shiftDown?, ofParts?, dif_neg]
  omega

/-- A decimal is multiplied by a power of ten if the digits fit with all zeros appended. -/
theorem exists_shiftUp? {b : Decimal} {k : ℕ} (hk : k ≤ 28)
    (hm : b.mantissa * 10 ^ k < mantissaLimit) : ∃ d, b.shiftUp? k = some d := by
  unfold shiftUp?
  by_cases hscale : k ≤ b.scale
  · rw [if_pos hscale]
    exact ofParts?_of_lt b.mantissa_lt ((Nat.sub_le _ _).trans b.scale_le)
  · rw [if_neg hscale, if_neg (by omega)]
    have hle : b.mantissa * 10 ^ (k - b.scale) ≤ b.mantissa * 10 ^ k :=
      Nat.mul_le_mul_left _ (Nat.pow_le_pow_right (by decide) (Nat.sub_le _ _))
    exact ofParts?_of_lt (Nat.lt_of_le_of_lt hle hm) (Nat.zero_le 28)

/-- Text with an exponent is not read where none is expected. -/
theorem ofTextExact?_of_exponent {p : List Char × List Char} (h : splitExponent? cs = some p) :
    ofTextExact? cs = none := by
  cases hd : ofTextExact? cs with
  | none => rfl
  | some d =>
    rw [(ExactDecimal.ofPlain?_of_ofTextExact? hd).1] at h
    cases h

theorem natAbs_unscaled (d : Decimal) : d.unscaled.natAbs = d.mantissa := by
  unfold unscaled
  split <;> omega

end Decimal

end TableDiff.Numeric
