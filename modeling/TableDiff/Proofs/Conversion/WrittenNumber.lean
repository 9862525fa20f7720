import TableDiff.Proofs.Conversion.Number
import TableDiff.Proofs.Numeric.LimitedReading

/-!
# The limited reading of written numbers

A written number is read as a decimal exactly where some decimal has this number, and then as a
decimal that has it (`toDecimal_written`, `exists_toDecimal_written`).
-/

namespace TableDiff

open TableDiff.Numeric TableDiff.Text
open Numeric.Binary64 (pointAfterFirst)

namespace Numeric.ExactDecimal

variable {a n : ExactDecimal}

/-! ## Numbers that fit a decimal -/

/-- The number fits the limits of a decimal as it is, or with zeros appended. -/
structure FitsDecimal (a : ExactDecimal) : Prop where
  scale_le : a.scale ≤ 28
  neg_scale_le : -a.scale ≤ 28
  lt : a.unscaled.natAbs * 10 ^ (-a.scale).toNat < Decimal.mantissaLimit

theorem FitsDecimal.unscaled_lt (h : a.FitsDecimal) : a.unscaled.natAbs < Decimal.mantissaLimit :=
  Nat.lt_of_le_of_lt (Nat.le_mul_of_pos_right _ (by positivity)) h.lt

theorem fitsDecimal_normalize {d : Decimal} (h : d.toRat = n.toRat) : n.normalize.FitsDecimal := by
  by_cases hzero : n.unscaled = 0
  · rw [normalize, if_pos hzero]
    exact ⟨by decide, by decide, by decide⟩
  rw [← toRat_normalize] at h
  have hten := normalize_unscaled_emod hzero
  generalize n.normalize = a at h hten
  have hscale : a.scale ≤ d.scale := scale_le_of_toRat_eq (a := ofDecimal d) hten h
  -- the zeros of the decimal that the number lacks
  have hunscaled : d.unscaled = a.unscaled * 10 ^ ((d.scale : ℤ) - a.scale).toNat := by
    have halign := align_eq_of_toRat_eq (a := ofDecimal d) h
    simp only [ofDecimal] at halign
    rwa [Int.toNat_of_nonpos (by omega : a.scale - d.scale ≤ 0), pow_zero, mul_one] at halign
  have hmantissa : d.mantissa = a.unscaled.natAbs * 10 ^ ((d.scale : ℤ) - a.scale).toNat := by
    rw [← d.natAbs_unscaled, hunscaled, Int.natAbs_mul, Int.natAbs_pow]
    rfl
  have hlt : a.unscaled.natAbs * 10 ^ (-a.scale).toNat < Decimal.mantissaLimit := by
    refine Nat.lt_of_le_of_lt ?_ d.mantissa_lt
    rw [hmantissa]
    exact Nat.mul_le_mul_left _ (Nat.pow_le_pow_right (by decide) (by omega))
  have hpos : 0 < a.unscaled.natAbs := by
    refine Nat.pos_of_ne_zero fun h0 => hten ?_
    rw [Int.natAbs_eq_zero.1 h0]
    exact dvd_zero 10
  have hpow : 10 ^ (-a.scale).toNat < 10 ^ 29 :=
    calc 10 ^ (-a.scale).toNat ≤ a.unscaled.natAbs * 10 ^ (-a.scale).toNat :=
          Nat.le_mul_of_pos_left _ hpos
      _ < Decimal.mantissaLimit := hlt
      _ < 10 ^ 29 := by decide
  have hzeros := (Nat.pow_lt_pow_iff_right (by decide)).1 hpow
  have hplaces := d.scale_le
  exact ⟨by omega, by omega, hlt⟩

/-! ## The four written forms -/

/-- A written number is read without rounding, or not at all: a rounded one would need more decimal
places than there are. -/
theorem readsAlike_text (a : ExactDecimal) : Value.ReadsAlike a.text ∨
    Decimal.ofTextExact? a.text = none ∧ Decimal.ofScientific? a.text = none := by
  have hdig : ∀ c ∈ digits a.unscaled.natAbs, isDigit c = true := fun c => isDigit_of_mem_digits
  have hne := digits_ne_nil a.unscaled.natAbs
  rw [text_eq]
  split
  next hexp =>
    have hsplit := splitExponent?_signedDigits (u := a.unscaled)
      (e := '-' :: digits (a.scale - (digits a.unscaled.natAbs).length + 1).natAbs) (.inr rfl)
      (mem_pointAfterFirst hdig)
    generalize hbase : signedDigits a.unscaled (pointAfterFirst (digits a.unscaled.natAbs)) = base
      at hsplit
    have hsign := not_doubleSigned_digits
      (a.scale - (digits a.unscaled.natAbs).length + 1).natAbs
    cases hb : Decimal.ofText? base with
    | none =>
      refine .inl (Value.readsAlike_of_exponent hsplit ?_ hsign)
      cases hexact : Decimal.ofTextExact? base with
      | none => exact hb
      | some d =>
        rw [Decimal.ofText?_of_ofTextExact? hexact] at hb
        cases hb
    | some b =>
      rcases Decimal.ofText?_pointAfterFirst hne hdig (hbase ▸ hb) with hexact | hscale
      · exact .inl (Value.readsAlike_of_exponent hsplit (hb.trans (hbase ▸ hexact).symm) hsign)
      · refine .inr ⟨Decimal.ofTextExact?_of_exponent hsplit, ?_⟩
        rw [Decimal.ofScientific?_minus hsplit hb, Decimal.shiftDown?_eq_none (by omega)]
  next =>
    refine .inl ?_
    split
    next =>
      exact Value.readsAlike_of_exponent
        (splitExponent?_signedDigits (.inl rfl) fun c hc => .inl (hdig c hc))
        (Decimal.ofText?_eq_ofTextExact? (point_notMem hdig)) nofun
    next =>
      refine Value.readsAlike_of_plain (Decimal.splitExponent?_eq_none ?_)
      split
      next =>
        exact ne_exponent_of_mem_signedDigits fun c hc =>
          .inl ((List.mem_append.1 hc).elim (hdig c) (isDigit_of_mem_zeros c))
      next =>
        refine ne_exponent_of_mem_signedDigits (mem_pointInserted fun c hc => ?_)
        exact (List.mem_append.1 hc).elim (isDigit_of_mem_zeros c) (hdig c)

theorem FitsDecimal.value_lt (h : a.FitsDecimal) :
    natOfDigits (digits a.unscaled.natAbs) < Decimal.mantissaLimit := by
  rw [natOfDigits_digits]
  exact h.unscaled_lt

theorem FitsDecimal.exists_read_small (h : a.FitsDecimal)
    (hsmall : 5 < a.scale - (digits a.unscaled.natAbs).length) :
    ∃ d, Decimal.ofScientific? (signedDigits a.unscaled
      (pointAfterFirst (digits a.unscaled.natAbs) ++
        'E' :: '-' :: digits (a.scale - (digits a.unscaled.natAbs).length + 1).natAbs)) =
      some d := by
  have hdig : ∀ c ∈ digits a.unscaled.natAbs, isDigit c = true := fun c => isDigit_of_mem_digits
  have hne := digits_ne_nil a.unscaled.natAbs
  have hlength := List.length_pos_iff.2 hne
  have hscale := h.scale_le
  have hsplit := splitExponent?_signedDigits (u := a.unscaled)
    (e := '-' :: digits (a.scale - (digits a.unscaled.natAbs).length + 1).natAbs) (.inr rfl)
    (mem_pointAfterFirst hdig)
  obtain ⟨b, hb, -, hplaces⟩ := Decimal.ofUnsigned?_of_lt (a.unscaled < 0) h.value_lt
    (show (digits a.unscaled.natAbs).length - 1 ≤ 28 by omega)
  have hread : Decimal.ofText?
      (signedDigits a.unscaled (pointAfterFirst (digits a.unscaled.natAbs))) = _ :=
    Decimal.read?_pointAfterFirst hne hdig h.value_lt (by omega)
  rw [Decimal.ofScientific?_minus hsplit (hread.trans hb)]
  exact Decimal.ofParts?_of_lt b.mantissa_lt (by omega)

theorem FitsDecimal.exists_read_large (h : a.FitsDecimal) (hlarge : a.scale ≤ 0) :
    ∃ d, Decimal.ofScientific? (signedDigits a.unscaled
      (digits a.unscaled.natAbs ++ 'e' :: '+' :: digits a.scale.natAbs)) = some d := by
  have hdig : ∀ c ∈ digits a.unscaled.natAbs, isDigit c = true := fun c => isDigit_of_mem_digits
  have hne := digits_ne_nil a.unscaled.natAbs
  have hscale := h.neg_scale_le
  have hsplit := splitExponent?_signedDigits (u := a.unscaled)
    (e := '+' :: digits a.scale.natAbs) (.inl rfl) fun c hc => .inl (hdig c hc)
  obtain ⟨b, hb, hmantissa, -⟩ := Decimal.ofUnsigned?_of_lt (a.unscaled < 0) h.value_lt
    (Nat.zero_le 28)
  have hread : Decimal.ofText? (signedDigits a.unscaled (digits a.unscaled.natAbs)) = _ :=
    Decimal.read?_digits hne hdig h.value_lt
  have hzeros : a.scale.natAbs = (-a.scale).toNat := by omega
  rw [natOfDigits_digits] at hmantissa
  rw [Decimal.ofScientific?_plus hsplit (hread.trans hb), hzeros]
  exact Decimal.exists_shiftUp? (by omega) (hmantissa ▸ h.lt)

theorem FitsDecimal.exists_read_zeros (h : a.FitsDecimal) (hneg : a.scale ≤ 0) :
    ∃ d, Decimal.ofTextExact? (signedDigits a.unscaled
      (digits a.unscaled.natAbs ++ List.replicate a.scale.natAbs '0')) = some d := by
  have hdig : ∀ c ∈ digits a.unscaled.natAbs ++ List.replicate a.scale.natAbs '0',
      isDigit c = true := fun c hc =>
    (List.mem_append.1 hc).elim isDigit_of_mem_digits (isDigit_of_mem_zeros c)
  have hne := List.append_ne_nil_of_left_ne_nil (digits_ne_nil a.unscaled.natAbs)
    (List.replicate a.scale.natAbs '0')
  have hzeros : a.scale.natAbs = (-a.scale).toNat := by omega
  have hvalue : natOfDigits (digits a.unscaled.natAbs ++ List.replicate a.scale.natAbs '0') <
      Decimal.mantissaLimit := by
    rw [natOfDigits_append, natOfDigits_replicate_zero, natOfDigits_digits, Nat.add_zero,
      List.length_replicate, hzeros]
    exact h.lt
  obtain ⟨d, hd, -⟩ := Decimal.ofUnsigned?_of_lt (a.unscaled < 0) hvalue (Nat.zero_le 28)
  exact ⟨d, (Decimal.read?_digits hne hdig hvalue).trans hd⟩

theorem FitsDecimal.exists_read_placed (h : a.FitsDecimal) {ds : List Char}
    (hds : ds = paddedDigits (a.scale.toNat + 1) a.unscaled.natAbs) :
    ∃ d, Decimal.ofTextExact? (signedDigits a.unscaled (ds.take (ds.length - a.scale.toNat) ++
      '.' :: ds.drop (ds.length - a.scale.toNat))) = some d := by
  have hscale := h.scale_le
  have hlength : a.scale.toNat < ds.length := by
    simp only [hds, paddedDigits, List.length_append, List.length_replicate]
    omega
  have hjoined : ds.take (ds.length - a.scale.toNat) ++ ds.drop (ds.length - a.scale.toNat) = ds :=
    List.take_append_drop _ _
  have hplaces : (ds.drop (ds.length - a.scale.toNat)).length ≤ 28 := by
    rw [List.length_drop]
    omega
  have hne : ds.take (ds.length - a.scale.toNat) ≠ [] := by
    rw [← List.length_pos_iff, List.length_take]
    omega
  have hdig : ∀ c ∈ ds.take (ds.length - a.scale.toNat) ++ ds.drop (ds.length - a.scale.toNat),
      isDigit c = true := by
    rw [hjoined, hds]
    exact fun c => isDigit_of_mem_paddedDigits
  have hvalue : natOfDigits (ds.take (ds.length - a.scale.toNat) ++
      ds.drop (ds.length - a.scale.toNat)) < Decimal.mantissaLimit := by
    rw [hjoined, hds, natOfDigits_paddedDigits]
    exact h.unscaled_lt
  obtain ⟨d, hd, -⟩ := Decimal.ofUnsigned?_of_lt (a.unscaled < 0) hvalue hplaces
  exact ⟨d, (Decimal.read?_placed hne hdig hvalue hplaces).trans hd⟩

/-- A number that fits a decimal is read from its text as one. -/
theorem FitsDecimal.exists_read (h : a.FitsDecimal) :
    ∃ d, (Decimal.ofTextExact? a.text).or (Decimal.ofScientific? a.text) = some d := by
  have hexact : ∀ {cs}, (∃ d, Decimal.ofTextExact? cs = some d) →
      ∃ d, (Decimal.ofTextExact? cs).or (Decimal.ofScientific? cs) = some d := by
    rintro cs ⟨d, hd⟩
    exact ⟨d, by rw [hd, Option.some_or]⟩
  have hscientific : ∀ {cs}, (∃ d, Decimal.ofScientific? cs = some d) →
      ∃ d, (Decimal.ofTextExact? cs).or (Decimal.ofScientific? cs) = some d := by
    rintro cs ⟨d, hd⟩
    cases hplain : Decimal.ofTextExact? cs with
    | none => exact ⟨d, by rw [hd, Option.none_or]⟩
    | some b => exact ⟨b, Option.some_or⟩
  rw [text_eq]
  split
  next hsmall => exact hscientific (h.exists_read_small hsmall)
  next =>
    split
    next hlarge => exact hscientific (h.exists_read_large (by omega))
    next =>
      split
      next hneg => exact hexact (h.exists_read_zeros hneg)
      next => exact hexact (h.exists_read_placed rfl)

end Numeric.ExactDecimal

/-! ## Readings of written values -/

namespace Value

variable {n : ExactDecimal}

/-- A decimal that is read from a written number has this number. -/
theorem toRat_of_toDecimal_written {d : Decimal} (h : (written n).toDecimal = .ok d) :
    d.toRat = n.toRat := by
  rcases ExactDecimal.readsAlike_text n.normalize with halike | ⟨hexact, hscientific⟩
  · rw [← trim_written n] at halike
    have hnumber : (written n).number? = some d.toRat := halike.number?_eq h
    rw [number?_written] at hnumber
    split at hnumber
    next => exact (Option.some.inj hnumber).symm
    next => cases hnumber
  · simp only [written, toDecimal, trim_written, hexact, hscientific] at h
    cases h

/-- A written number is read as a decimal where some decimal has the number. -/
theorem exists_toDecimal_written {d : Decimal} (h : d.toRat = n.toRat) :
    ∃ b, (written n).toDecimal = .ok b := by
  obtain ⟨b, hb⟩ := (ExactDecimal.fitsDecimal_normalize h).exists_read
  refine ⟨b, ?_⟩
  simp only [written, toDecimal, trim_written, hb]

end Value

end TableDiff
