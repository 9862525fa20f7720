import TableDiff.Numeric.Binary64.Shortest
import TableDiff.Proofs.Numeric.DecimalText
import TableDiff.Proofs.Text.Blank

/-!
# Written numbers are read back

The text of an exact decimal is read back as the same number (`ofText?_text`). The one exception is
a power of ten that does not fit the reader's word of 64 bits, which the writer writes out all the
same.
-/

namespace TableDiff.Numeric

open TableDiff.Text
open Binary64 (pointAfterFirst)

namespace ExactDecimal

/-! ## Signs -/

/-- Digits with the sign of an integer. -/
def signedDigits (u : ℤ) (cs : List Char) : List Char := if u < 0 then '-' :: cs else cs

/-- A natural number with the sign of an integer. -/
def signedNat (u : ℤ) (n : ℕ) : ℤ := if u < 0 then -(n : ℤ) else n

theorem signedNat_natAbs (u : ℤ) : signedNat u u.natAbs = u := by
  unfold signedNat
  split <;> omega

theorem signedNat_mul (u : ℤ) (n k : ℕ) : signedNat u (n * k) = signedNat u n * k := by
  unfold signedNat
  split <;> push_cast <;> ring

theorem mem_signedDigits {u : ℤ} {cs : List Char} {c : Char} (h : c ∈ signedDigits u cs) :
    c = '-' ∨ c ∈ cs := by
  unfold signedDigits at h
  split at h
  · exact List.mem_cons.1 h
  · exact .inr h

/-! ## Plain text -/

section Plain

variable {u : ℤ} {ds whole places : List Char}

theorem dropPoint_of_no_point {cs : List Char} (h : '.' ∉ cs) : dropPoint cs = (cs, 0) := by
  induction cs with
  | nil => rfl
  | cons c rest ih =>
    obtain ⟨hc, hrest⟩ := List.ne_and_not_mem_of_not_mem_cons h
    rw [dropPoint_cons hc.symm, ih hrest]

theorem dropPoint_append (h : '.' ∉ whole) :
    dropPoint (whole ++ '.' :: places) = (whole ++ places, (places.filter (· ≠ '_')).length) := by
  induction whole with
  | nil => exact dropPoint_point places
  | cons c rest ih =>
    obtain ⟨hc, hrest⟩ := List.ne_and_not_mem_of_not_mem_cons h
    rw [List.cons_append, dropPoint_cons hc.symm, ih hrest]
    rfl

theorem point_notMem (hd : ∀ c ∈ ds, isDigit c = true) : '.' ∉ signedDigits u ds := by
  intro h
  rcases mem_signedDigits h with h | h
  · exact absurd h (by decide)
  · exact absurd (hd _ h) (by decide)

theorem readSigned?_signedDigits (hne : ds ≠ []) (hd : ∀ c ∈ ds, isDigit c = true) :
    readSigned? (signedDigits u ds) = some (signedNat u (natOfDigits ds)) := by
  obtain ⟨c, rest, rfl⟩ := List.exists_cons_of_ne_nil hne
  have hs : StartsWithDigit (c :: rest) := ⟨c, rest, rfl, hd c List.mem_cons_self⟩
  have hg : readGrouped? (c :: rest) = some (natOfDigits (c :: rest)) := by
    rw [readGrouped?_of_startsWithDigit hs fun d hm => by simp [isGroupChar, hd d hm],
      List.filter_eq_self.2 hd]
  unfold signedDigits signedNat
  by_cases hu : u < 0
  · rw [if_pos hu, if_pos hu]
    simp [readSigned?, hg]
  · rw [if_neg hu, if_neg hu, readSigned?_of_startsWithDigit hs, hg]
    rfl

theorem ofPlain?_digits (hne : ds ≠ []) (hd : ∀ c ∈ ds, isDigit c = true) :
    ofPlain? (signedDigits u ds) = some ⟨signedNat u (natOfDigits ds), 0⟩ := by
  rw [ofPlain?, dropPoint_of_no_point (point_notMem hd), readSigned?_signedDigits hne hd]
  rfl

theorem ofPlain?_point (hne : whole ≠ []) (hw : ∀ c ∈ whole, isDigit c = true)
    (hp : ∀ c ∈ places, isDigit c = true) :
    ofPlain? (signedDigits u (whole ++ '.' :: places)) =
      some ⟨signedNat u (natOfDigits (whole ++ places)), places.length⟩ := by
  have hsigned :
      signedDigits u (whole ++ '.' :: places) = signedDigits u whole ++ '.' :: places := by
    unfold signedDigits
    split <;> rfl
  have hjoined : signedDigits u whole ++ places = signedDigits u (whole ++ places) := by
    unfold signedDigits
    split <;> rfl
  have hcount : places.filter (· ≠ '_') = places := by
    refine List.filter_eq_self.2 fun c hc => ?_
    simpa using ne_of_isDigit (hp c hc) (by decide)
  have hall : ∀ c ∈ whole ++ places, isDigit c = true := fun c hc =>
    (List.mem_append.1 hc).elim (hw c) (hp c)
  rw [hsigned, ofPlain?, dropPoint_append (point_notMem hw), hcount, hjoined,
    readSigned?_signedDigits (List.append_ne_nil_of_left_ne_nil hne _) hall]
  rfl

end Plain

/-! ## Text with an exponent -/

theorem splitExponent?_append {base e : List Char} {c : Char} (hc : c = 'e' ∨ c = 'E')
    (hb : ∀ d ∈ base, d ≠ 'e' ∧ d ≠ 'E') :
    Decimal.splitExponent? (base ++ c :: e) = some (base, e) := by
  have hbase : ∀ d ∈ base, (decide (d ≠ 'e') && decide (d ≠ 'E')) = true := by
    intro d hd
    simp [hb d hd]
  simp only [Decimal.splitExponent?, List.span_eq_takeWhile_dropWhile,
    List.takeWhile_append_of_pos hbase, List.dropWhile_append_of_pos hbase]
  rcases hc with rfl | rfl <;> simp

theorem ne_exponent_of_isDigit {c : Char} (h : isDigit c = true) : c ≠ 'e' ∧ c ≠ 'E' :=
  ⟨ne_of_isDigit h (by decide), ne_of_isDigit h (by decide)⟩

theorem readInt?_minus_digits (k : ℕ) : readInt? ('-' :: digits k) = some (-(k : ℤ)) := by
  have hall : (digits k).all isDigit = true :=
    List.all_eq_true.2 fun c hc => isDigit_of_mem_digits hc
  simp only [readInt?]
  rw [if_pos ⟨digits_ne_nil k, hall⟩, natOfDigits_digits]
  rfl

theorem readInt?_plus_digits (k : ℕ) : readInt? ('+' :: digits k) = some (k : ℤ) := by
  have hall : (digits k).all isDigit = true :=
    List.all_eq_true.2 fun c hc => isDigit_of_mem_digits hc
  simp only [readInt?]
  rw [if_pos ⟨digits_ne_nil k, hall⟩, natOfDigits_digits]
  rfl

theorem not_doubleSigned_digits (k : ℕ) : ¬ Decimal.DoubleSigned ('-' :: digits k) := by
  rintro ⟨ds, hds⟩
  have hplus : '+' ∈ digits k := by simp [(List.cons.inj hds).2]
  exact absurd (isDigit_of_mem_digits hplus) (by decide)

theorem ne_exponent_of_mem_signedDigits {u : ℤ} {cs : List Char}
    (hcs : ∀ d ∈ cs, isDigit d = true ∨ d = '.') :
    ∀ d ∈ signedDigits u cs, d ≠ 'e' ∧ d ≠ 'E' := by
  intro d hd
  rcases mem_signedDigits hd with rfl | hd
  · decide
  · rcases hcs d hd with hd | rfl
    · exact ne_exponent_of_isDigit hd
    · decide

theorem splitExponent?_signedDigits {u : ℤ} {base e : List Char} {c : Char}
    (hc : c = 'e' ∨ c = 'E') (hb : ∀ d ∈ base, isDigit d = true ∨ d = '.') :
    Decimal.splitExponent? (signedDigits u (base ++ c :: e)) = some (signedDigits u base, e) := by
  have hsigned : signedDigits u (base ++ c :: e) = signedDigits u base ++ c :: e := by
    unfold signedDigits
    split <;> rfl
  rw [hsigned, splitExponent?_append hc (ne_exponent_of_mem_signedDigits hb)]

theorem parts?_exponent {u : ℤ} {base e : List Char} {c : Char} {n : ExactDecimal} {k : ℤ}
    (hc : c = 'e' ∨ c = 'E') (hb : ∀ d ∈ base, isDigit d = true ∨ d = '.')
    (hn : ofPlain? (signedDigits u base) = some n) (hk : readInt? e = some k) :
    parts? (signedDigits u (base ++ c :: e)) = some (n, k) := by
  rw [parts?_of_exponent (splitExponent?_signedDigits hc hb), hk, hn]
  rfl

theorem parts?_plain {u : ℤ} {cs : List Char} {n : ExactDecimal}
    (hcs : ∀ d ∈ cs, isDigit d = true ∨ d = '.') (hn : ofPlain? (signedDigits u cs) = some n) :
    parts? (signedDigits u cs) = some (n, 0) := by
  have hsplit := Decimal.splitExponent?_eq_none (ne_exponent_of_mem_signedDigits (u := u) hcs)
  rw [parts?_of_plain hsplit, hn]
  rfl

/-! ## The four written forms -/

theorem ofPlain?_pointAfterFirst {u : ℤ} {ds : List Char} (hne : ds ≠ [])
    (hd : ∀ c ∈ ds, isDigit c = true) :
    ofPlain? (signedDigits u (pointAfterFirst ds)) =
      some ⟨signedNat u (natOfDigits ds), ds.length - 1⟩ := by
  match ds, hne with
  | [d], _ => exact ofPlain?_digits (List.cons_ne_nil d []) hd
  | d :: c :: more, _ =>
    obtain ⟨hfirst, hmore⟩ := List.forall_mem_cons.1 hd
    have h := ofPlain?_point (u := u) (List.cons_ne_nil d []) (by simpa using hfirst) hmore
    simpa [pointAfterFirst] using h

theorem mem_pointAfterFirst {ds : List Char} (hd : ∀ c ∈ ds, isDigit c = true) :
    ∀ c ∈ pointAfterFirst ds, isDigit c = true ∨ c = '.' := by
  match ds with
  | [] => simp [pointAfterFirst]
  | [d] => exact fun c hc => .inl (hd c hc)
  | d :: c :: more =>
    obtain ⟨hfirst, hmore⟩ := List.forall_mem_cons.1 hd
    exact List.forall_mem_cons.2 ⟨.inl hfirst,
      List.forall_mem_cons.2 ⟨.inr rfl, fun c hc => .inl (hmore c hc)⟩⟩

theorem isDigit_of_mem_zeros {k : ℕ} (c : Char) (hc : c ∈ List.replicate k '0') :
    isDigit c = true := by
  rw [List.eq_of_mem_replicate hc]
  decide

theorem signedNat_digits (a : ExactDecimal) :
    signedNat a.unscaled (natOfDigits (digits a.unscaled.natAbs)) = a.unscaled := by
  rw [natOfDigits_digits, signedNat_natAbs]

theorem ofPlain?_zerosAppended {a : ExactDecimal} {k : ℕ} :
    ofPlain? (signedDigits a.unscaled (digits a.unscaled.natAbs ++ List.replicate k '0')) =
      some ⟨a.unscaled * Nat.pow 10 k, 0⟩ := by
  have hall : ∀ c ∈ digits a.unscaled.natAbs ++ List.replicate k '0', isDigit c = true :=
    fun c hc => (List.mem_append.1 hc).elim isDigit_of_mem_digits (isDigit_of_mem_zeros c)
  rw [ofPlain?_digits (List.append_ne_nil_of_left_ne_nil (digits_ne_nil _) _) hall,
    natOfDigits_append, natOfDigits_replicate_zero, Nat.add_zero, signedNat_mul, signedNat_digits,
    List.length_replicate]
  rfl

theorem ofPlain?_pointInserted {u : ℤ} {ds : List Char} {k : ℕ} (hk : k < ds.length)
    (hd : ∀ c ∈ ds, isDigit c = true) :
    ofPlain? (signedDigits u (ds.take (ds.length - k) ++ '.' :: ds.drop (ds.length - k))) =
      some ⟨signedNat u (natOfDigits ds), k⟩ := by
  have hne : ds.take (ds.length - k) ≠ [] := by
    rw [ne_eq, ← List.length_eq_zero_iff, List.length_take]
    omega
  have hplaces : (ds.drop (ds.length - k)).length = k := by
    rw [List.length_drop]
    omega
  rw [ofPlain?_point hne (fun c hc => hd c (List.mem_of_mem_take hc))
    (fun c hc => hd c (List.mem_of_mem_drop hc)), List.take_append_drop, hplaces]

theorem mem_pointInserted {ds : List Char} {k : ℕ} (hd : ∀ c ∈ ds, isDigit c = true) :
    ∀ c ∈ ds.take k ++ '.' :: ds.drop k, isDigit c = true ∨ c = '.' := by
  intro c hc
  rcases List.mem_append.1 hc with hc | hc
  · exact .inl (hd c (List.mem_of_mem_take hc))
  · rcases List.mem_cons.1 hc with rfl | hc
    · exact .inr rfl
    · exact .inl (hd c (List.mem_of_mem_drop hc))

theorem text_eq (a : ExactDecimal) :
    a.text = signedDigits a.unscaled
      (if 5 < a.scale - (digits a.unscaled.natAbs).length then
        pointAfterFirst (digits a.unscaled.natAbs) ++
          'E' :: '-' :: digits (a.scale - (digits a.unscaled.natAbs).length + 1).natAbs
      else if 15 < -a.scale then digits a.unscaled.natAbs ++ 'e' :: '+' :: digits a.scale.natAbs
      else if a.scale ≤ 0 then
        digits a.unscaled.natAbs ++ List.replicate a.scale.natAbs '0'
      else
        let filled := List.replicate (a.scale.toNat + 1 - (digits a.unscaled.natAbs).length) '0' ++
          digits a.unscaled.natAbs
        filled.take (filled.length - a.scale.toNat) ++
          '.' :: filled.drop (filled.length - a.scale.toNat)) :=
  rfl

/-- The parts that are read from a written number denote the number, and their scale is that of the
number or one that fits as well as it. -/
theorem parts?_text (a : ExactDecimal) :
    ∃ n k, parts? a.text = some (n, k) ∧ toRat ⟨n.unscaled, n.scale - k⟩ = a.toRat ∧
      fitsInt64 (n.scale - k) = fitsInt64 a.scale := by
  have hdig : ∀ c ∈ digits a.unscaled.natAbs, isDigit c = true := fun c => isDigit_of_mem_digits
  have hne := digits_ne_nil a.unscaled.natAbs
  -- three of the four forms keep the integer and the scale
  have hkeep : ∀ {n : ExactDecimal} {k : ℤ}, n.unscaled = a.unscaled → n.scale - k = a.scale →
      toRat ⟨n.unscaled, n.scale - k⟩ = a.toRat ∧ fitsInt64 (n.scale - k) = fitsInt64 a.scale := by
    intro n k hu hs
    rw [hu, hs]
    exact ⟨rfl, rfl⟩
  rw [text_eq]
  split
  next hexp =>
    refine ⟨_, _, parts?_exponent (.inr rfl) (mem_pointAfterFirst hdig)
      (ofPlain?_pointAfterFirst hne hdig) (readInt?_minus_digits _), ?_⟩
    exact hkeep (signedNat_digits a) (by simp only; omega)
  next hexp =>
    split
    next hlarge =>
      refine ⟨_, _, parts?_exponent (.inl rfl) (fun c hc => .inl (hdig c hc))
        (ofPlain?_digits hne hdig) (readInt?_plus_digits _), ?_⟩
      exact hkeep (signedNat_digits a) (by simp only; omega)
    next hlarge =>
      split
      next hneg =>
        have hscale : (0 : ℤ) - a.scale.natAbs = a.scale := by omega
        have hchars : ∀ c ∈ digits a.unscaled.natAbs ++ List.replicate a.scale.natAbs '0',
            isDigit c = true ∨ c = '.' := fun c hc =>
          .inl ((List.mem_append.1 hc).elim (hdig c) (isDigit_of_mem_zeros c))
        refine ⟨_, _, parts?_plain hchars ofPlain?_zerosAppended, ?_, ?_⟩
        · rw [sub_zero, toRat_mk_natPow, hscale]
        · rw [sub_zero, fitsInt64_of_le (by simp), fitsInt64_of_le (by omega)]
      next hpos =>
        dsimp only
        generalize hfilled : List.replicate (a.scale.toNat + 1 - (digits a.unscaled.natAbs).length)
          '0' ++ digits a.unscaled.natAbs = filled
        have hlength : a.scale.toNat < filled.length := by
          rw [← hfilled, List.length_append, List.length_replicate]
          omega
        have hall : ∀ c ∈ filled, isDigit c = true := by
          rw [← hfilled]
          exact fun c hc => (List.mem_append.1 hc).elim (isDigit_of_mem_zeros c) (hdig c)
        have hvalue : natOfDigits filled = natOfDigits (digits a.unscaled.natAbs) := by
          rw [← hfilled, natOfDigits_append, natOfDigits_replicate_zero, Nat.zero_mul, Nat.zero_add]
        have hplain := ofPlain?_pointInserted (u := a.unscaled) hlength hall
        rw [hvalue, signedNat_digits] at hplain
        refine ⟨_, _, parts?_plain (mem_pointInserted hall) hplain, ?_⟩
        refine hkeep rfl ?_
        simp only
        omega

/-- **Written numbers are read back**, as far as the reader can hold their power of ten. -/
theorem ofText?_text (a : ExactDecimal) :
    (ofText? a.text).map toRat = if fitsInt64 a.scale then some a.toRat else none := by
  obtain ⟨n, k, hparts, hrat, hfits⟩ := parts?_text a
  rw [ofText?_eq_parts, hparts, Option.bind_some, shifted?, hfits, ← hrat]
  split <;> rfl

/-- Numbers that are written alike are equal, whatever their power of ten. -/
theorem toRat_eq_of_text_eq {a b : ExactDecimal} (h : a.text = b.text) : a.toRat = b.toRat := by
  obtain ⟨n, k, hn, hna, -⟩ := parts?_text a
  obtain ⟨m, l, hm, hmb, -⟩ := parts?_text b
  rw [h, hm] at hn
  cases hn
  rw [← hna, hmb]

/-! ## No blanks -/

theorem not_isBlank_of_isDigit_or_point {c : Char} (h : isDigit c = true ∨ c = '.') :
    isBlank c = false := by
  rcases h with h | rfl
  · exact not_isBlank_of_isDigit h
  · decide

theorem not_isBlank_of_mem_text {a : ExactDecimal} {c : Char} (h : c ∈ a.text) :
    isBlank c = false := by
  have hdigits : ∀ {n : ℕ}, c ∈ digits n → isBlank c = false := fun h =>
    not_isBlank_of_isDigit (isDigit_of_mem_digits h)
  have hzeros : ∀ {n : ℕ}, c ∈ List.replicate n '0' → isBlank c = false := fun h =>
    not_isBlank_of_isDigit (isDigit_of_mem_zeros c h)
  have hexponent : ∀ {e s : Char} {n : ℕ}, isBlank e = false → isBlank s = false →
      c ∈ e :: s :: digits n → isBlank c = false := by
    intro e s n he hs h
    rcases List.mem_cons.1 h with rfl | h
    · exact he
    · rcases List.mem_cons.1 h with rfl | h
      · exact hs
      · exact hdigits h
  rw [text_eq] at h
  rcases mem_signedDigits h with rfl | h
  · decide
  split at h
  next =>
    rcases List.mem_append.1 h with h | h
    · exact not_isBlank_of_isDigit_or_point
        (mem_pointAfterFirst (fun _ => isDigit_of_mem_digits) c h)
    · exact hexponent (by decide) (by decide) h
  next =>
    split at h
    next =>
      rcases List.mem_append.1 h with h | h
      · exact hdigits h
      · exact hexponent (by decide) (by decide) h
    next =>
      split at h
      next => exact (List.mem_append.1 h).elim hdigits hzeros
      next =>
        refine not_isBlank_of_isDigit_or_point (mem_pointInserted (fun d hd => ?_) c h)
        exact (List.mem_append.1 hd).elim (isDigit_of_mem_zeros d) isDigit_of_mem_digits

end ExactDecimal

end TableDiff.Numeric
