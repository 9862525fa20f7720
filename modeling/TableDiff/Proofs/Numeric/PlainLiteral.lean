import TableDiff.Proofs.Numeric.LimitedReading
import TableDiff.Proofs.Numeric.Literal

/-!
# Plain literals and the limited reader

A decimal literal without an exponent and without underscores is read as a decimal of limited size
exactly if its digits fit one (`exists_ofTextExact?_iff`). Zeros at the end count like all digits.
-/

namespace TableDiff.Numeric

open TableDiff.Text

theorem WrittenSign.natAbs_apply (s : WrittenSign) (n : ℕ) : (s.apply n).natAbs = n := by
  cases s <;> simp [apply]

namespace Literal

variable {l : Literal}

/-- The literal has no exponent and no underscores. -/
structure IsPlain (l : Literal) : Prop where
  exponent_eq : l.exponent = none
  isDigit_of_mem : ∀ c ∈ l.whole ++ l.places.getD [], isDigit c = true

/-- The digits of the literal fit the size of a decimal. -/
structure DigitsFit (l : Literal) : Prop where
  mantissa_lt : natOfDigits (l.wholeDigits ++ l.placeDigits) < Decimal.mantissaLimit
  scale_le : l.placeDigits.length ≤ 28

/-- The text without its sign. -/
def body (l : Literal) : List Char :=
  match l.places with
  | none => l.whole
  | some places => l.whole ++ '.' :: places

theorem base_eq (l : Literal) : l.base = l.sign.chars ++ l.body := by
  unfold base body
  cases l.places with
  | none => rfl
  | some places => exact List.append_assoc _ _ _

theorem IsPlain.text_eq (h : l.IsPlain) : l.text = l.sign.chars ++ l.body := by
  rw [text, h.exponent_eq]
  exact l.base_eq

theorem IsPlain.wholeDigits_eq (h : l.IsPlain) : l.wholeDigits = l.whole :=
  List.filter_eq_self.2 fun c hc => h.isDigit_of_mem c (List.mem_append_left _ hc)

theorem IsPlain.placeDigits_eq (h : l.IsPlain) : l.placeDigits = l.places.getD [] :=
  List.filter_eq_self.2 fun c hc => h.isDigit_of_mem c (List.mem_append_right _ hc)

theorem digits_ne_nil (l : Literal) : l.whole ++ l.places.getD [] ≠ [] := by
  obtain ⟨c, rest, heq, -⟩ := l.startsWithDigit
  rw [heq]
  exact List.cons_ne_nil c rest

end Literal

namespace Decimal

variable {l : Literal} {surplus : Surplus}

theorem scan_literal (h : l.IsPlain) (hfit : l.DigitsFit) (negative : Bool) :
    scan surplus negative {} l.body =
      ofUnsigned? negative (natOfDigits (l.wholeDigits ++ l.placeDigits)) l.placeDigits.length := by
  have hne := l.digits_ne_nil
  have hd := h.isDigit_of_mem
  obtain ⟨hm, hs⟩ := hfit
  rw [h.wholeDigits_eq, h.placeDigits_eq] at hm ⊢
  rw [h.placeDigits_eq] at hs
  unfold Literal.body
  split
  next hnone =>
    rw [hnone, Option.getD_none, List.append_nil] at hne hd hm ⊢
    exact scan_whole hne hd hm
  next places hsome =>
    rw [hsome, Option.getD_some] at hne hd hm hs ⊢
    exact scan_placed hne hd hm hs

theorem read?_sign (s : WrittenSign) (h : l.IsPlain) :
    read? surplus (s.chars ++ l.body) = scan surplus (s = .minus) {} l.body := by
  cases s with
  | minus => rfl
  | plus => rfl
  | absent =>
    show read? surplus l.body = scan surplus false {} l.body
    have hne := l.digits_ne_nil
    unfold Literal.body
    cases hwhole : l.whole with
    | nil =>
      cases hplaces : l.places with
      | none =>
        rw [hwhole, hplaces] at hne
        exact absurd rfl hne
      | some places => rfl
    | cons c rest =>
      have hc : isDigit c = true := by
        apply h.isDigit_of_mem
        rw [hwhole]
        exact List.mem_cons_self
      cases l.places with
      | none => exact read?_of_startsWithDigit ⟨c, rest, rfl, hc⟩
      | some places => exact read?_of_startsWithDigit ⟨c, rest ++ '.' :: places, rfl, hc⟩

theorem splitExponent?_literal (h : l.IsPlain) : splitExponent? l.text = none := by
  apply splitExponent?_eq_none
  intro c hc
  rw [h.text_eq, ← l.base_eq] at hc
  exact ExactDecimal.ne_exponent_of_mem_base hc

/-- **A plain literal is read as a decimal exactly if its digits fit one.** -/
theorem exists_ofTextExact?_iff (h : l.IsPlain) :
    (∃ d, ofTextExact? l.text = some d) ↔ l.DigitsFit := by
  constructor
  · rintro ⟨d, hd⟩
    have hplain := (ExactDecimal.ofPlain?_of_ofTextExact? hd).2
    rw [h.text_eq, ← l.base_eq, ExactDecimal.ofPlain?_base, Option.some.injEq] at hplain
    have hmantissa : natOfDigits (l.wholeDigits ++ l.placeDigits) = d.mantissa := by
      have hunscaled : l.exact.unscaled = d.unscaled := congrArg ExactDecimal.unscaled hplain
      rw [← d.natAbs_unscaled, ← hunscaled, Literal.exact, WrittenSign.natAbs_apply]
    have hscale : (l.placeDigits.length : ℤ) = d.scale := congrArg ExactDecimal.scale hplain
    have hbound := d.scale_le
    exact ⟨hmantissa ▸ d.mantissa_lt, by omega⟩
  · intro hfit
    obtain ⟨d, hd, -⟩ := ofUnsigned?_of_lt (l.sign = .minus) hfit.mantissa_lt hfit.scale_le
    refine ⟨d, ?_⟩
    rw [ofTextExact?, h.text_eq, read?_sign l.sign h, scan_literal h hfit]
    exact hd

end Decimal

end TableDiff.Numeric
