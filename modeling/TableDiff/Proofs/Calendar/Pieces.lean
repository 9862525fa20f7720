import TableDiff.Calendar.Reading
import TableDiff.Calendar.Writing
import TableDiff.Proofs.Text.Blank

/-!
# Pieces of dates and times are read as written

Each piece of a pattern, put in front of the written form of its part and any text that cannot go
on with that part, takes this form off and fills in the part. A number with its usual count of
digits is taken whatever follows it; a year and a fraction need a text that does not go on with a
digit (`NumberEnds`).
-/

namespace TableDiff.Calendar

open TableDiff.Text

variable {f : Fields} {cs ds rest : List Char} {c : Char} {n w : Nat}

/-! ## Runs of digits -/

/-- The text does not go on with a digit or a point. -/
def NumberEnds (rest : List Char) : Prop := Stops (fun c => isDigit c || c = '.') rest

theorem NumberEnds.digits (h : NumberEnds rest) : Stops isDigit rest :=
  h.mono fun c hc => by simp [hc]

theorem takeDigits_of_stops (h : Stops isDigit rest) (w : Nat) :
    takeDigits w rest = ([], rest) := by
  cases w with
  | zero => rfl
  | succ w =>
    cases rest with
    | nil => rfl
    | cons c rest => simp [takeDigits, h.head]

theorem takeDigits_append (hd : ∀ c ∈ ds, isDigit c = true) (hw : ds.length ≤ w)
    (h : ds.length = w ∨ NumberEnds rest) : takeDigits w (ds ++ rest) = (ds, rest) := by
  induction ds generalizing w with
  | nil =>
    rcases h with h | h
    · rw [← h]
      rfl
    · exact takeDigits_of_stops h.digits w
  | cons c ds ih =>
    obtain ⟨hc, hds⟩ := List.forall_mem_cons.1 hd
    cases w with
    | zero => cases hw
    | succ w =>
      have hlength : ds.length = w ∨ NumberEnds rest := h.imp_left Nat.succ.inj
      rw [List.cons_append, takeDigits, if_pos hc, ih hds (Nat.le_of_succ_le_succ hw) hlength]

theorem takeNumber?_append (hne : ds ≠ []) (hd : ∀ c ∈ ds, isDigit c = true) (hw : ds.length ≤ w)
    (h : ds.length = w ∨ NumberEnds rest) :
    takeNumber? w (ds ++ rest) = some (natOfDigits ds, rest) := by
  rw [takeNumber?, takeDigits_append hd hw h]
  cases ds with
  | nil => exact absurd rfl hne
  | cons c ds => rfl

theorem exists_cons_of_paddedDigits (w n : Nat) :
    ∃ c ds, paddedDigits w n = c :: ds ∧ isDigit c = true := by
  obtain ⟨c, ds, h⟩ := List.exists_cons_of_ne_nil (paddedDigits_ne_nil w n)
  refine ⟨c, ds, h, isDigit_of_mem_paddedDigits (w := w) (n := n) ?_⟩
  rw [h]
  exact List.mem_cons_self

theorem trimStart_paddedDigits (w n : Nat) (rest : List Char) :
    trimStart (paddedDigits w n ++ rest) = paddedDigits w n ++ rest := by
  obtain ⟨c, ds, h, hc⟩ := exists_cons_of_paddedDigits w n
  rw [h]
  exact trimStart_of_stops (stops_cons (not_isBlank_of_isDigit hc))

/-! ## Numbers -/

theorem Slot.width_pos (slot : Slot) : 0 < slot.width := by cases slot <;> decide

theorem takeNumber?_paddedDigits (hw : 0 < w) (h : n < 10 ^ w) (rest : List Char) :
    takeNumber? w (paddedDigits w n ++ rest) = some (n, rest) := by
  have hlength := length_paddedDigits hw h
  rw [takeNumber?_append (paddedDigits_ne_nil w n) (fun _ => isDigit_of_mem_paddedDigits)
    hlength.le (.inl hlength), natOfDigits_paddedDigits]

/-- A text that starts with a digit is read without a sign. -/
theorem takeLenient?_of_digit (slot : Slot) (hc : isDigit c = true) :
    slot.takeLenient? (c :: cs) =
      (takeNumber? slot.width (c :: cs)).map fun (n, rest) => ((n : Int), rest) := by
  have htrim : trimStart (c :: cs) = c :: cs :=
    trimStart_of_stops (stops_cons (not_isBlank_of_isDigit hc))
  have hminus : c ≠ '-' := ne_of_isDigit hc rfl
  have hplus : c ≠ '+' := ne_of_isDigit hc rfl
  cases slot <;> simp [Slot.takeLenient?, htrim, hminus, hplus]

theorem take?_lenient (slot : Slot) (hw : slot.width = w) (h : n < 10 ^ w) :
    Piece.take? f (paddedDigits w n ++ rest) (.lenient slot) = some (slot.put f n, rest) := by
  have hnumber := takeNumber?_paddedDigits (hw ▸ slot.width_pos) h rest
  obtain ⟨c, ds, hcons, hc⟩ := exists_cons_of_paddedDigits w n
  rw [hcons, List.cons_append] at hnumber ⊢
  rw [Piece.take?, takeLenient?_of_digit slot hc, hw, hnumber]
  rfl

theorem take?_strict (slot : Slot) (hw : slot.width = w) (h : n < 10 ^ w) :
    Piece.take? f (paddedDigits w n ++ rest) (.strict slot) = some (slot.put f n, rest) := by
  have hlength := length_paddedDigits (hw ▸ slot.width_pos) h
  have htake : takeDigits w (paddedDigits w n ++ rest) = (paddedDigits w n, rest) :=
    takeDigits_append (fun _ => isDigit_of_mem_paddedDigits) hlength.le (.inl hlength)
  rw [Piece.take?, Slot.takeStrict?, hw, htake]
  simp [hlength]

theorem takeNumber?_length (hends : NumberEnds rest) (w n : Nat) :
    takeNumber? (paddedDigits w n ++ rest).length (paddedDigits w n ++ rest) = some (n, rest) := by
  have hlength : (paddedDigits w n).length ≤ (paddedDigits w n ++ rest).length := by simp
  rw [takeNumber?_append (paddedDigits_ne_nil w n) (fun _ => isDigit_of_mem_paddedDigits) hlength
    (.inr hends), natOfDigits_paddedDigits]

theorem take?_year (year : Int) (hends : NumberEnds rest) :
    Piece.take? f (yearText year ++ rest) (.lenient .year) =
      some ({ f with year := some year }, rest) := by
  have hnumber := takeNumber?_length hends 4 year.natAbs
  unfold yearText
  by_cases hneg : year < 0
  · have htrim : ∀ cs, trimStart ('-' :: cs) = '-' :: cs := fun cs => rfl
    have hvalue : -(year.natAbs : Int) = year := by omega
    simp only [hneg, if_true, List.cons_append, Piece.take?, Slot.takeLenient?, htrim, hnumber,
      Option.map_some, hvalue, Slot.put]
  · have hvalue : (year.natAbs : Int) = year := by omega
    by_cases hlong : year ≤ 9999
    · have hdigits : year.natAbs < 10 ^ 4 := by omega
      simp only [hneg, hlong, if_true, if_false]
      rw [take?_lenient (w := 4) .year rfl hdigits, hvalue]
      rfl
    · have htrim : ∀ cs, trimStart ('+' :: cs) = '+' :: cs := fun cs => rfl
      simp only [hneg, hlong, if_false, List.cons_append, Piece.take?, Slot.takeLenient?, htrim,
        hnumber, Option.map_some, hvalue, Slot.put]

/-! ## Fractions -/

theorem takeFraction?_digits (hw : 0 < w) (hw9 : w ≤ 9) (h : n < 10 ^ w)
    (hends : NumberEnds rest) :
    takeFraction? ('.' :: paddedDigits w n ++ rest) = some (some (n * 10 ^ (9 - w)), rest) := by
  have hlength := length_paddedDigits hw h
  have htake : takeDigits 9 (paddedDigits w n ++ rest) = (paddedDigits w n, rest) :=
    takeDigits_append (fun _ => isDigit_of_mem_paddedDigits) (by omega) (.inr hends)
  have hdrop : rest.dropWhile isDigit = rest := hends.digits.dropWhile_eq
  obtain ⟨c, ds, hcons, -⟩ := exists_cons_of_paddedDigits w n
  have hvalue := natOfDigits_paddedDigits w n
  rw [hcons] at hlength htake hvalue ⊢
  rw [List.cons_append, takeFraction?, htake]
  simp only [hlength, hvalue, hdrop]
  rfl

theorem takeFraction?_fractionText (h : n < 1000000000) (hends : NumberEnds rest) :
    takeFraction? (fractionText n ++ rest) = some (if n = 0 then none else some n, rest) := by
  unfold fractionText
  by_cases hzero : n = 0
  · rw [if_pos hzero, if_pos hzero, List.nil_append]
    unfold takeFraction?
    split
    · exact absurd hends.head (by decide)
    · rfl
  rw [if_neg hzero, if_neg hzero]
  by_cases hmillis : n % 1000000 = 0
  · rw [if_pos hmillis, takeFraction?_digits (by decide) (by decide) (by omega) hends]
    have hvalue : n / 1000000 * 10 ^ (9 - 3) = n := by omega
    rw [hvalue]
  rw [if_neg hmillis]
  by_cases hmicros : n % 1000 = 0
  · rw [if_pos hmicros, takeFraction?_digits (by decide) (by decide) (by omega) hends]
    have hvalue : n / 1000 * 10 ^ (9 - 6) = n := by omega
    rw [hvalue]
  · rw [if_neg hmicros, takeFraction?_digits (by decide) (by decide) (by omega) hends]
    have hvalue : n * 10 ^ (9 - 9) = n := by omega
    rw [hvalue]

theorem take?_fraction (h : n < 1000000000) (hends : NumberEnds rest) :
    Piece.take? f (fractionText n ++ rest) .fraction =
      some ({ f with fraction := if n = 0 then none else some n }, rest) := by
  rw [Piece.take?, takeFraction?_fractionText h hends]
  rfl

/-! ## Marks and blanks -/

theorem take?_mark {choices : List Char} (h : c ∈ choices) :
    Piece.take? f (c :: rest) (.mark choices) = some (f, rest) := by
  simp [Piece.take?, h]

theorem take?_only (c : Char) : Piece.take? f (c :: rest) (.only c) = some (f, rest) :=
  take?_mark (List.mem_singleton_self c)

theorem take?_blanks (h : Stops isBlank cs) : Piece.take? f cs .blanks = some (f, cs) := by
  rw [Piece.take?, trimStart_of_stops h]

theorem take?_blanks_cons (hc : isBlank c = true) :
    Piece.take? f (c :: cs) .blanks = Piece.take? f cs .blanks := by
  simp [Piece.take?, trimStart, hc]

/-! ## Offsets -/

/-- An offset of whole minutes is written with them. -/
theorem offsetText_eq {o : Int} (ho : o.natAbs < 1440) : offsetText (60 * o) =
    [if o < 0 then '-' else '+', digitChar (o.natAbs / 60 / 10), digitChar (o.natAbs / 60 % 10),
      ':', digitChar (o.natAbs % 60 / 10), digitChar (o.natAbs % 60 % 10)] := by
  have hminutes : ((60 * o).natAbs + 30) / 60 = o.natAbs := by omega
  have hsign : 60 * o < 0 ↔ o < 0 := by omega
  simp only [offsetText, hminutes, hsign]
  rw [paddedDigits_two (by omega), paddedDigits_two (by omega)]
  rfl

theorem natOfDigits_two {a b : Nat} (ha : a < 10) (hb : b < 10) :
    natOfDigits [digitChar a, digitChar b] = 10 * a + b := by
  simp [natOfDigits, natOfDigitsFrom, digitValue_digitChar ha, digitValue_digitChar hb]

theorem takeSigned?_digits (form : OffsetForm) {s : Char} {sign : Int} {a b c d : Nat}
    (hs : offsetSign? s = some sign) (ha : a < 10) (hb : b < 10) (hc : c < 6) (hd : d < 10) :
    form.takeSigned?
        (s :: digitChar a :: digitChar b :: ':' :: digitChar c :: digitChar d :: rest) =
      some (sign * ((10 * a + b : Nat) * 60 + (10 * c + d : Nat)), rest) := by
  have hc10 : c < 10 := by omega
  have hcolon : form.dropColon? (':' :: digitChar c :: digitChar d :: rest) =
      some (digitChar c :: digitChar d :: rest) := by
    have hdigit := isDigit_digitChar hc10
    have hstop : digitChar c ≠ ':' := ne_of_isDigit hdigit rfl
    cases hform : form.looseColon with
    | true => simp [OffsetForm.dropColon?, hform, hstop, not_isBlank_of_isDigit hdigit]
    | false => simp [OffsetForm.dropColon?, hform]
  simp [OffsetForm.takeSigned?, hs, hcolon, isDigit_digitChar, digitValue_digitChar,
    natOfDigits_two, ha, hb, hc, hd, hc10]

theorem take?_of_sign (form : OffsetForm) {s : Char} (hs : s = '+' ∨ s = '-') (cs : List Char) :
    form.take? (s :: cs) = form.takeSigned? (s :: cs) := by
  unfold OffsetForm.take?
  rcases hs with rfl | rfl
  · simp
  · simp

theorem take?_offset (form : OffsetForm) {o : Int} (ho : o.natAbs < 1440) (rest : List Char) :
    Piece.take? f (offsetText (60 * o) ++ rest) (.offset form) =
      some ({ f with offset := some o }, rest) := by
  have hmark : (if o < 0 then '-' else '+') = '+' ∨ (if o < 0 then '-' else '+') = '-' := by
    split
    · exact .inr rfl
    · exact .inl rfl
  have hsign : offsetSign? (if o < 0 then '-' else '+') = some (if o < 0 then -1 else 1) := by
    split <;> rfl
  have h1 : o.natAbs / 60 / 10 < 10 := by omega
  have h2 : o.natAbs / 60 % 10 < 10 := by omega
  have h3 : o.natAbs % 60 / 10 < 6 := by omega
  have h4 : o.natAbs % 60 % 10 < 10 := by omega
  have hvalue : (if o < 0 then -1 else 1) *
      ((10 * (o.natAbs / 60 / 10) + o.natAbs / 60 % 10 : Nat) * 60 +
        (10 * (o.natAbs % 60 / 10) + o.natAbs % 60 % 10 : Nat)) = o := by
    split <;> omega
  rw [Piece.take?, offsetText_eq ho, List.cons_append, take?_of_sign form hmark]
  simp only [List.cons_append, List.nil_append, takeSigned?_digits form hsign h1 h2 h3 h4, hvalue,
    Option.map_some]

/-! ## Patterns -/

theorem take?_append (p q : Pattern) : Pattern.take? f cs (p ++ q) =
    (Pattern.take? f cs p).bind fun r => Pattern.take? r.1 r.2 q := by
  induction p generalizing f cs with
  | nil => rfl
  | cons piece p ih =>
    rw [List.cons_append, Pattern.take?, Pattern.take?]
    cases piece.take? f cs with
    | none => rfl
    | some r => exact ih

theorem take?_cons {piece : Piece} {p : Pattern} {g : Fields}
    (h : piece.take? f cs = some (g, rest)) :
    Pattern.take? f cs (piece :: p) = Pattern.take? g rest p := by
  rw [Pattern.take?, h]

theorem read?_eq_some {p : Pattern} {g : Fields} :
    p.read? cs = some g ↔ Pattern.take? {} cs p = some (g, []) := by
  unfold Pattern.read?
  constructor
  · intro h
    split at h
    next f hf =>
      cases h
      exact hf
    next => cases h
  · intro h
    rw [h]

end TableDiff.Calendar
