import TableDiff.Proofs.Numeric.ExactText

/-!
# Decimal literals

A decimal literal has a sign, digits with a point and underscores among them, and an exponent of
ten; the sign, the point and the exponent may be missing, and the point may come first or last. It
denotes the number that its digits stand for by their places (`Literal.value`). The exact reader
finds this number in every literal whose power of ten fits its word (`ofText?_literal`), and what it
reads is a literal unless a sign stands behind a leading point (`exists_literal`).
-/

namespace TableDiff.Numeric

open TableDiff.Text

/-- The sign of a written number. -/
inductive WrittenSign where
  | absent
  | plus
  | minus
  deriving DecidableEq, Repr

namespace WrittenSign

def chars : WrittenSign → List Char
  | absent => []
  | plus => ['+']
  | minus => ['-']

def apply : WrittenSign → ℕ → ℤ
  | minus, n => -n
  | _, n => n

theorem mem_chars {s : WrittenSign} {c : Char} (h : c ∈ s.chars) : c = '+' ∨ c = '-' := by
  cases s <;> simp_all [chars]

theorem apply_eq_mul (s : WrittenSign) (n : ℕ) : s.apply n = s.apply 1 * n := by
  cases s <;> simp [apply]

end WrittenSign

/-- An exponent of ten. -/
structure WrittenExponent where
  letter : Char
  sign : WrittenSign
  digits : List Char
  letter_eq : letter = 'e' ∨ letter = 'E'
  digits_ne_nil : digits ≠ []
  isDigit_of_mem : ∀ c ∈ digits, isDigit c = true

namespace WrittenExponent

/-- The text behind the letter. -/
def power (e : WrittenExponent) : List Char := e.sign.chars ++ e.digits

def value (e : WrittenExponent) : ℤ := e.sign.apply (natOfDigits e.digits)

end WrittenExponent

/-- A decimal literal; its first character after sign and point is a digit. -/
structure Literal where
  sign : WrittenSign
  whole : List Char
  places : Option (List Char)
  exponent : Option WrittenExponent
  startsWithDigit : StartsWithDigit (whole ++ places.getD [])
  isGroupChar_of_mem : ∀ c ∈ whole ++ places.getD [], isGroupChar c = true

namespace Literal

/-- The text before the exponent. -/
def base (l : Literal) : List Char :=
  match l.places with
  | none => l.sign.chars ++ l.whole
  | some places => l.sign.chars ++ l.whole ++ '.' :: places

def text (l : Literal) : List Char :=
  match l.exponent with
  | none => l.base
  | some e => l.base ++ e.letter :: e.power

/-- The power of ten by which the exponent multiplies. -/
def shift (l : Literal) : ℤ := (l.exponent.map WrittenExponent.value).getD 0

def wholeDigits (l : Literal) : List Char := l.whole.filter isDigit

def placeDigits (l : Literal) : List Char := (l.places.getD []).filter isDigit

/-- The number that the literal stands for. -/
def value (l : Literal) : ℚ :=
  l.sign.apply 1 *
    (natOfDigits l.wholeDigits + natOfDigits l.placeDigits / 10 ^ l.placeDigits.length) *
    10 ^ l.shift

/-- The integer and the scale of the literal. -/
def exact (l : Literal) : ExactDecimal where
  unscaled := l.sign.apply (natOfDigits (l.wholeDigits ++ l.placeDigits))
  scale := l.placeDigits.length - l.shift

theorem toRat_exact (l : Literal) : l.exact.toRat = l.value := by
  have hpow : (10 : ℚ) ^ l.placeDigits.length ≠ 0 := by positivity
  have hscale : -((l.placeDigits.length : ℤ) - l.shift) = l.shift - l.placeDigits.length := by ring
  rw [ExactDecimal.toRat, value, exact, WrittenSign.apply_eq_mul, natOfDigits_append, hscale,
    zpow_sub₀ (by norm_num), zpow_natCast]
  push_cast
  field_simp

end Literal

namespace ExactDecimal

/-! ## Signs -/

theorem readSigned?_sign (s : WrittenSign) {ds : List Char} (h : StartsWithDigit ds) :
    readSigned? (s.chars ++ ds) = (readGrouped? ds).map s.apply := by
  cases s with
  | absent =>
    rw [WrittenSign.chars, List.nil_append, readSigned?_of_startsWithDigit h]
    cases readGrouped? ds <;> rfl
  | plus =>
    rw [WrittenSign.chars, List.singleton_append, readSigned?]
    cases readGrouped? ds <;> rfl
  | minus =>
    rw [WrittenSign.chars, List.singleton_append, readSigned?]
    cases readGrouped? ds <;> rfl

theorem readInt?_sign (s : WrittenSign) {ds : List Char} (hne : ds ≠ [])
    (hd : ∀ c ∈ ds, isDigit c = true) :
    readInt? (s.chars ++ ds) = some (s.apply (natOfDigits ds)) := by
  have hall : ds ≠ [] ∧ ds.all isDigit = true := ⟨hne, List.all_eq_true.2 hd⟩
  cases s with
  | plus =>
    simp only [WrittenSign.chars, List.singleton_append, readInt?, if_pos hall]
    rfl
  | minus =>
    simp only [WrittenSign.chars, List.singleton_append, readInt?, if_pos hall]
    rfl
  | absent =>
    obtain ⟨c, rest, rfl⟩ := List.exists_cons_of_ne_nil hne
    have hc : isDigit c = true := hd c List.mem_cons_self
    have hminus : c ≠ '-' := ne_of_isDigit hc (by decide)
    have hplus : c ≠ '+' := ne_of_isDigit hc (by decide)
    rw [WrittenSign.chars, List.nil_append]
    unfold readInt?
    split
    rename_i hsign
    split at hsign
    next h => exact absurd (List.cons.inj h).1 hminus
    next h => exact absurd (List.cons.inj h).1 hplus
    next =>
      cases hsign
      rw [if_pos hall]
      rfl

theorem exists_of_readGrouped? {cs : List Char} (h : readGrouped? cs ≠ none) :
    StartsWithDigit cs ∧ ∀ c ∈ cs, isGroupChar c = true := by
  cases cs with
  | nil => exact absurd rfl h
  | cons c rest =>
    simp only [readGrouped?] at h
    split at h
    next hc => exact ⟨⟨c, rest, rfl, hc.1⟩, List.all_eq_true.1 hc.2⟩
    next => exact absurd rfl h

/-- What is read as signed digits is a sign and digits. -/
theorem exists_of_readSigned? {cs : List Char} (h : readSigned? cs ≠ none) :
    ∃ (s : WrittenSign) (ds : List Char), cs = s.chars ++ ds ∧ StartsWithDigit ds ∧
      ∀ c ∈ ds, isGroupChar c = true := by
  unfold readSigned? at h
  split at h
  next ds => exact ⟨.minus, ds, rfl, exists_of_readGrouped? fun hn => h (by rw [hn]; rfl)⟩
  next ds => exact ⟨.plus, ds, rfl, exists_of_readGrouped? fun hn => h (by rw [hn]; rfl)⟩
  next => exact ⟨.absent, cs, rfl, exists_of_readGrouped? fun hn => h (by rw [hn]; rfl)⟩

/-- What is read as an integer is a sign and digits. -/
theorem exists_of_readInt? {cs : List Char} (h : readInt? cs ≠ none) :
    ∃ (s : WrittenSign) (ds : List Char), cs = s.chars ++ ds ∧ ds ≠ [] ∧
      ∀ c ∈ ds, isDigit c = true := by
  unfold readInt? at h
  split at h
  rename_i hsign
  split at h
  next hall =>
    have hd := List.all_eq_true.1 hall.2
    split at hsign
    next =>
      cases hsign
      exact ⟨.minus, _, rfl, hall.1, hd⟩
    next =>
      cases hsign
      exact ⟨.plus, _, rfl, hall.1, hd⟩
    next =>
      cases hsign
      exact ⟨.absent, _, rfl, hall.1, hd⟩
  next => exact absurd rfl h

/-! ## Literals are read -/

theorem point_notMem_whole (l : Literal) : '.' ∉ l.sign.chars ++ l.whole := by
  intro h
  rcases List.mem_append.1 h with h | h
  · rcases WrittenSign.mem_chars h with h | h <;> exact absurd h (by decide)
  · exact absurd (l.isGroupChar_of_mem _ (List.mem_append_left _ h)) (by decide)

theorem dropPoint_base (l : Literal) :
    dropPoint l.base = (l.sign.chars ++ (l.whole ++ l.places.getD []), l.placeDigits.length) := by
  have hpoint := point_notMem_whole l
  have hcount : (l.places.getD []).filter (· ≠ '_') = l.placeDigits := by
    refine List.filter_congr fun c hc => ?_
    have hgroup := l.isGroupChar_of_mem c (List.mem_append_right _ hc)
    rw [isGroupChar] at hgroup
    cases hd : isDigit c with
    | true => simpa using ne_of_isDigit hd (by decide)
    | false => simpa [hd] using hgroup
  unfold Literal.base
  split
  next hnone =>
    rw [dropPoint_of_no_point hpoint]
    simp [Literal.placeDigits, hnone]
  next places hsome =>
    rw [hsome, Option.getD_some] at hcount
    rw [dropPoint_append hpoint, hcount, hsome, Option.getD_some, List.append_assoc]

theorem ofPlain?_base (l : Literal) :
    ofPlain? l.base = some ⟨l.exact.unscaled, l.placeDigits.length⟩ := by
  rw [ofPlain?, dropPoint_base, readSigned?_sign l.sign l.startsWithDigit,
    readGrouped?_of_startsWithDigit l.startsWithDigit l.isGroupChar_of_mem, List.filter_append]
  rfl

theorem ne_exponent_of_mem_base {l : Literal} {c : Char} (h : c ∈ l.base) : c ≠ 'e' ∧ c ≠ 'E' := by
  have hgroup : c ∈ l.whole ++ l.places.getD [] → c ≠ 'e' ∧ c ≠ 'E' := by
    intro hc
    have hg := l.isGroupChar_of_mem c hc
    constructor <;> rintro rfl <;> exact absurd hg (by decide)
  have hsigned : c ∈ l.sign.chars ++ l.whole → c ≠ 'e' ∧ c ≠ 'E' := by
    intro hc
    rcases List.mem_append.1 hc with hc | hc
    · rcases WrittenSign.mem_chars hc with rfl | rfl <;> decide
    · exact hgroup (List.mem_append_left _ hc)
  unfold Literal.base at h
  split at h
  next => exact hsigned h
  next places hsome =>
    rcases List.mem_append.1 h with h | h
    · exact hsigned h
    · rcases List.mem_cons.1 h with rfl | h
      · decide
      · exact hgroup (List.mem_append_right _ (by rwa [hsome]))

/-- A literal is read as its number if its power of ten fits. -/
theorem ofText?_literal (l : Literal) :
    ofText? l.text = if fitsInt64 l.exact.scale then some l.exact else none := by
  have hparts : parts? l.text = some (⟨l.exact.unscaled, l.placeDigits.length⟩, l.shift) := by
    unfold Literal.text Literal.shift
    split
    next hnone =>
      rw [parts?_of_plain (Decimal.splitExponent?_eq_none fun c => ne_exponent_of_mem_base),
        ofPlain?_base, hnone]
      rfl
    next e hsome =>
      rw [parts?_of_exponent (splitExponent?_append e.letter_eq fun c => ne_exponent_of_mem_base),
        WrittenExponent.power, readInt?_sign e.sign e.digits_ne_nil e.isDigit_of_mem,
        ofPlain?_base, hsome]
      rfl
  rw [ofText?_eq_parts, hparts]
  rfl

/-! ## What is read is a literal -/

/-- A sign stands behind the point that starts a text. -/
def SignAfterPoint (cs : List Char) : Prop :=
  ∃ c rest, cs = '.' :: c :: rest ∧ (c = '+' ∨ c = '-')

theorem exists_base {cs : List Char} (h : ofPlain? cs ≠ none) (hsign : ¬ SignAfterPoint cs) :
    ∃ l : Literal, l.exponent = none ∧ l.base = cs := by
  have hread : readSigned? (dropPoint cs).1 ≠ none := fun hn => h (by rw [ofPlain?, hn]; rfl)
  obtain ⟨s, ds, hds, hstart, hgroup⟩ := exists_of_readSigned? hread
  by_cases hpoint : '.' ∈ cs
  · obtain ⟨lead, places, rfl, hlead⟩ := List.eq_append_cons_of_mem hpoint
    rw [dropPoint_append hlead] at hds
    -- the sign, if there is one, stands before the point
    obtain ⟨whole, rfl, rfl⟩ : ∃ whole, lead = s.chars ++ whole ∧ ds = whole ++ places := by
      rcases List.append_eq_append_iff.1 hds with ⟨rest, hchars, hplaces⟩ | hwhole
      · cases rest with
        | nil => exact ⟨[], by simpa using hchars.symm, by simpa using hplaces.symm⟩
        | cons c rest =>
          have hc : c ∈ s.chars := by simp [hchars]
          have hlength : s.chars.length ≤ 1 := by cases s <;> decide
          have hnil : lead = [] := by
            rw [hchars, List.length_append, List.length_cons] at hlength
            exact List.length_eq_zero_iff.1 (by omega)
          refine absurd ⟨c, rest ++ ds, ?_, WrittenSign.mem_chars hc⟩ hsign
          rw [hnil, hplaces]
          rfl
      · exact hwhole
    exact ⟨⟨s, whole, some places, none, hstart, hgroup⟩, rfl, rfl⟩
  · rw [dropPoint_of_no_point hpoint] at hds
    have hds : cs = s.chars ++ ds := hds
    refine ⟨⟨s, ds, none, none, ?_, ?_⟩, rfl, hds.symm⟩
    · rwa [Option.getD_none, List.append_nil]
    · rwa [Option.getD_none, List.append_nil]

theorem exists_of_splitExponent? {cs base e : List Char}
    (h : Decimal.splitExponent? cs = some (base, e)) :
    ∃ c, (c = 'e' ∨ c = 'E') ∧ cs = base ++ c :: e := by
  rw [Decimal.splitExponent?, List.span_eq_takeWhile_dropWhile] at h
  split at h
  next => cases h
  next c rest hspan =>
    cases h
    obtain ⟨htake, hdrop⟩ := Prod.mk.inj hspan
    refine ⟨c, ?_, ?_⟩
    · have hc := List.head?_dropWhile_not (fun c => c ≠ 'e' && c ≠ 'E') cs
      rw [hdrop, List.head?_cons] at hc
      simpa [imp_iff_not_or, or_comm] using hc
    · rw [← htake, ← hdrop, List.takeWhile_append_dropWhile]

/-- What is read is a literal, unless a sign stands behind a leading point. -/
theorem exists_literal {cs : List Char} {n : ExactDecimal} (h : ofText? cs = some n)
    (hsign : ¬ SignAfterPoint cs) :
    ∃ l : Literal, l.text = cs ∧ fitsInt64 l.exact.scale = true ∧ l.exact = n := by
  have hl : ∃ l : Literal, l.text = cs := by
    rw [ofText?_eq_parts] at h
    obtain ⟨⟨m, k⟩, hparts, -⟩ := Option.bind_eq_some_iff.1 h
    unfold parts? at hparts
    split at hparts
    next =>
      obtain ⟨p, hplain, -⟩ := Option.map_eq_some_iff.1 hparts
      obtain ⟨l, hexponent, hbase⟩ :=
        exists_base (by rw [hplain]; exact Option.some_ne_none p) hsign
      exact ⟨l, by rw [Literal.text, hexponent, hbase]⟩
    next base e hsplit =>
      obtain ⟨k', hk, hrest⟩ := Option.bind_eq_some_iff.1 hparts
      obtain ⟨p, hplain, -⟩ := Option.map_eq_some_iff.1 hrest
      obtain ⟨c, hc, rfl⟩ := exists_of_splitExponent? hsplit
      have hbasesign : ¬ SignAfterPoint base := by
        rintro ⟨d, rest, rfl, hd⟩
        exact hsign ⟨d, rest ++ c :: e, rfl, hd⟩
      obtain ⟨l, -, hbase⟩ :=
        exists_base (by rw [hplain]; exact Option.some_ne_none p) hbasesign
      obtain ⟨s, ds, rfl, hne, hd⟩ :=
        exists_of_readInt? (by rw [hk]; exact Option.some_ne_none k')
      exact ⟨{ l with exponent := some ⟨c, s, ds, hc, hne, hd⟩ }, by rw [← hbase]; rfl⟩
  obtain ⟨l, rfl⟩ := hl
  rw [ofText?_literal] at h
  split at h
  next hfits => exact ⟨l, rfl, hfits, Option.some.inj h⟩
  next => cases h

end ExactDecimal

end TableDiff.Numeric
