import TableDiff.Proofs.Numeric.DecimalText
import TableDiff.Proofs.Text.Blank

/-!
# Written decimals are read back

All digits of a decimal fit when its text is read, so that no reader has to round or to refuse. The
decimal comes back with its scale; only a zero with a sign comes back without it
(`ofTextExact?_text`), which is the same number (`same_plainZero`). The digits of a machine integer
are the text of its decimal (`text_ofInt64`).
-/

namespace TableDiff.Numeric.Decimal

open TableDiff.Text

variable {surplus : Surplus} {negative : Bool} {p : Progress} {cs ds rest : List Char}

/-! ## Reading digits that fit -/

theorem le_natOfDigitsFrom (n : ℕ) (cs : List Char) : n ≤ natOfDigitsFrom n cs := by
  have hpow : 0 < 10 ^ cs.length := by positivity
  have hle := Nat.le_mul_of_pos_right n hpow
  rw [natOfDigitsFrom_eq]
  omega

/-- What has been read after some more digits. -/
def Progress.pushAll (p : Progress) (ds : List Char) : Progress := ds.foldl Progress.push p

@[simp] theorem Progress.mantissa_pushAll (p : Progress) (ds : List Char) :
    (p.pushAll ds).mantissa = natOfDigitsFrom p.mantissa ds := by
  unfold pushAll
  induction ds generalizing p with
  | nil => rfl
  | cons c ds ih => exact ih (p.push c)

@[simp] theorem Progress.point_pushAll (p : Progress) (ds : List Char) :
    (p.pushAll ds).point = p.point := by
  unfold pushAll
  induction ds generalizing p with
  | nil => rfl
  | cons c ds ih => exact ih (p.push c)

theorem Progress.started_pushAll_of_started (hp : p.started = true) (ds : List Char) :
    (p.pushAll ds).started = true := by
  unfold pushAll
  induction ds generalizing p with
  | nil => exact hp
  | cons c ds ih => exact ih (p := p.push c) rfl

theorem Progress.started_pushAll (p : Progress) (hne : ds ≠ []) :
    (p.pushAll ds).started = true := by
  cases ds with
  | nil => exact absurd rfl hne
  | cons c ds => exact started_pushAll_of_started (p := p.push c) rfl ds

theorem Progress.scale_pushAll_of_point (hp : p.point = true) (ds : List Char) :
    (p.pushAll ds).scale = p.scale + ds.length := by
  unfold pushAll
  induction ds generalizing p with
  | nil => rfl
  | cons c ds ih =>
    have hpush : (p.push c).scale = p.scale + 1 := by simp [push, hp]
    rw [List.foldl_cons, ih (p := p.push c) hp, hpush, List.length_cons]
    omega

theorem Progress.scale_pushAll_of_whole (hp : p.point = false) (hs : p.scale = 0)
    (ds : List Char) : (p.pushAll ds).scale = 0 := by
  unfold pushAll
  induction ds generalizing p with
  | nil => exact hs
  | cons c ds ih =>
    have hpush : (p.push c).scale = 0 := by simp [push, hp]
    exact ih (p := p.push c) hp hpush

/-- There is room for the given number of digits: after the point none surpasses the scale. -/
def Progress.HasRoom (p : Progress) (n : ℕ) : Prop :=
  p.point = true ∧ p.scale + n ≤ 28 ∨ p.point = false ∧ p.scale = 0

theorem Progress.HasRoom.push {n : ℕ} (h : p.HasRoom (n + 1)) (c : Char) :
    (p.push c).HasRoom n := by
  rcases h with ⟨hp, hs⟩ | ⟨hp, hs⟩
  · exact .inl ⟨hp, by simp only [Progress.push, hp, if_true]; omega⟩
  · exact .inr ⟨hp, by simp [Progress.push, hp]⟩

theorem scan_digits (hd : ∀ c ∈ ds, isDigit c = true) (hroom : p.HasRoom ds.length)
    (hm : natOfDigitsFrom p.mantissa ds < mantissaLimit) :
    scan surplus negative p (ds ++ rest) = scan surplus negative (p.pushAll ds) rest := by
  induction ds generalizing p with
  | nil => rfl
  | cons c ds ih =>
    obtain ⟨hc, hds⟩ := List.forall_mem_cons.1 hd
    have hscale : ¬ p.scale = 28 := by
      rcases hroom with ⟨-, hs⟩ | ⟨-, hs⟩
      · rw [List.length_cons] at hs
        omega
      · omega
    have hpush : (p.push c).mantissa < mantissaLimit :=
      Nat.lt_of_le_of_lt (le_natOfDigitsFrom _ ds) hm
    rw [List.cons_append, scan, if_neg hscale, if_pos hc, if_pos hpush,
      ih (p := p.push c) hds (hroom.push c) hm]
    rfl

theorem scan_whole (hne : ds ≠ []) (hd : ∀ c ∈ ds, isDigit c = true)
    (hm : natOfDigits ds < mantissaLimit) :
    scan surplus negative {} ds = ofUnsigned? negative (natOfDigits ds) 0 := by
  have hread : scan surplus negative {} (ds ++ []) =
      scan surplus negative (Progress.pushAll {} ds) [] :=
    scan_digits hd (.inr ⟨rfl, rfl⟩) hm
  rw [List.append_nil] at hread
  rw [hread, scan, if_pos (Progress.started_pushAll {} hne), Progress.mantissa_pushAll,
    Progress.scale_pushAll_of_whole rfl rfl]
  rfl

theorem scan_placed {whole places : List Char} (hne : whole ++ places ≠ [])
    (hd : ∀ c ∈ whole ++ places, isDigit c = true)
    (hm : natOfDigits (whole ++ places) < mantissaLimit) (hlength : places.length ≤ 28) :
    scan surplus negative {} (whole ++ '.' :: places) =
      ofUnsigned? negative (natOfDigits (whole ++ places)) places.length := by
  obtain ⟨hwhole, hplaces⟩ := List.forall_mem_append.1 hd
  let p : Progress := { Progress.pushAll {} whole with point := true }
  have hscale : p.scale = 0 := Progress.scale_pushAll_of_whole rfl rfl whole
  have hvalue : natOfDigitsFrom p.mantissa places = natOfDigits (whole ++ places) := by
    rw [natOfDigits, natOfDigitsFrom, natOfDigitsFrom, List.foldl_append]
    exact congrArg (natOfDigitsFrom · places) (Progress.mantissa_pushAll {} whole)
  have hfirst : natOfDigitsFrom 0 whole < mantissaLimit := by
    refine Nat.lt_of_le_of_lt ?_ (hvalue ▸ hm)
    rw [← Progress.mantissa_pushAll {} whole]
    exact le_natOfDigitsFrom _ places
  have hpoint : scan surplus negative (Progress.pushAll {} whole) ('.' :: places) =
      scan surplus negative p (places ++ []) := by
    have hroom : ¬ (Progress.pushAll {} whole).scale = 28 := by
      rw [Progress.scale_pushAll_of_whole rfl rfl]
      decide
    rw [scan, if_neg hroom, if_neg (by decide), if_pos ⟨rfl, by simp⟩, List.append_nil]
  have hstarted : (p.pushAll places).started = true := by
    cases places with
    | nil =>
      rw [List.append_nil] at hne
      exact Progress.started_pushAll {} hne
    | cons c places => exact Progress.started_pushAll p (List.cons_ne_nil c places)
  rw [scan_digits hwhole (.inr ⟨rfl, rfl⟩) hfirst, hpoint,
    scan_digits hplaces (.inl ⟨rfl, by omega⟩) (hvalue ▸ hm), scan, if_pos hstarted,
    Progress.mantissa_pushAll, hvalue, Progress.scale_pushAll_of_point rfl, hscale, Nat.zero_add]

/-- Text that starts with a digit has no sign. -/
theorem read?_of_startsWithDigit (h : StartsWithDigit cs) :
    read? surplus cs = scan surplus false {} cs := by
  obtain ⟨c, rest, rfl, hc⟩ := h
  unfold read?
  split
  next h => exact absurd (List.cons.inj h).1 (ne_of_isDigit hc rfl)
  next h => exact absurd (List.cons.inj h).1 (ne_of_isDigit hc rfl)
  next => rfl

/-! ## The text of a decimal -/

/-- The text of a decimal without its sign. -/
def body (d : Decimal) : List Char :=
  let ds := paddedDigits (d.scale + 1) d.mantissa
  let whole := ds.length - d.scale
  if d.scale = 0 then ds else ds.take whole ++ '.' :: ds.drop whole

theorem text_eq (d : Decimal) : d.text = if d.negative then '-' :: d.body else d.body := rfl

theorem scale_lt_length (d : Decimal) :
    d.scale < (paddedDigits (d.scale + 1) d.mantissa).length := by
  simp only [paddedDigits, List.length_append, List.length_replicate]
  omega

/-- The digits before the point and those after it. -/
theorem exists_body (d : Decimal) : ∃ whole places, whole ≠ [] ∧
    (∀ c ∈ whole ++ places, isDigit c = true) ∧ natOfDigits (whole ++ places) = d.mantissa ∧
    places.length = d.scale ∧ d.body = whole ++ if d.scale = 0 then [] else '.' :: places := by
  let ds := paddedDigits (d.scale + 1) d.mantissa
  have hlength : d.scale < ds.length := d.scale_lt_length
  refine ⟨ds.take (ds.length - d.scale), ds.drop (ds.length - d.scale), ?_, ?_, ?_, ?_, ?_⟩
  · rw [← List.length_pos_iff, List.length_take]
    omega
  · rw [List.take_append_drop]
    exact fun c => isDigit_of_mem_paddedDigits
  · rw [List.take_append_drop]
    exact natOfDigits_paddedDigits _ _
  · rw [List.length_drop]
    omega
  · by_cases hscale : d.scale = 0
    · simp [body, ds, hscale]
    · simp [body, ds, hscale]

theorem scan_body (d : Decimal) :
    scan surplus negative {} d.body = ofUnsigned? negative d.mantissa d.scale := by
  obtain ⟨whole, places, hne, hd, hvalue, hlength, hbody⟩ := d.exists_body
  rw [hbody, ← hvalue, ← hlength]
  have hfits : natOfDigits (whole ++ places) < mantissaLimit := hvalue ▸ d.mantissa_lt
  cases places with
  | nil =>
    rw [List.append_nil] at hd hfits
    rw [List.length_nil, if_pos rfl, List.append_nil]
    exact scan_whole hne hd hfits
  | cons c places =>
    rw [if_neg (List.length_pos_iff.2 (List.cons_ne_nil c places)).ne']
    exact scan_placed (List.append_ne_nil_of_left_ne_nil hne _) hd hfits (hlength ▸ d.scale_le)

/-- The decimal, a zero without its sign. -/
def plainZero (d : Decimal) : Decimal := { d with negative := d.negative && d.mantissa != 0 }

theorem ofUnsigned?_self (d : Decimal) :
    ofUnsigned? d.negative d.mantissa d.scale = some d.plainZero := by
  rw [ofUnsigned?, ofParts?, dif_pos ⟨d.mantissa_lt, d.scale_le⟩]
  rfl

theorem same_plainZero (d : Decimal) : d.plainZero.same d = true := by
  have hunscaled : d.plainZero.unscaled = d.unscaled := by
    by_cases hzero : d.mantissa = 0
    · simp [plainZero, unscaled, hzero]
    · simp [plainZero, unscaled, hzero]
  rw [same, compare, hunscaled]
  simp [plainZero]

theorem startsWithDigit_body (d : Decimal) : StartsWithDigit d.body := by
  obtain ⟨whole, places, hne, hd, -, -, hbody⟩ := d.exists_body
  obtain ⟨c, more, rfl⟩ := List.exists_cons_of_ne_nil hne
  exact ⟨c, _, hbody, hd c (by simp)⟩

theorem read?_text (d : Decimal) : read? surplus d.text = some d.plainZero := by
  have hsign : read? surplus d.text = scan surplus d.negative {} d.body := by
    rw [text_eq]
    cases d.negative with
    | true => rfl
    | false => exact read?_of_startsWithDigit d.startsWithDigit_body
  rw [hsign, scan_body, ofUnsigned?_self]

/-- **A decimal is read back from its text**, where no digits may be surplus and where they may. -/
theorem ofTextExact?_text (d : Decimal) : ofTextExact? d.text = some d.plainZero := read?_text d

theorem ofText?_text (d : Decimal) : ofText? d.text = some d.plainZero := read?_text d

theorem not_isBlank_of_mem_text {d : Decimal} {c : Char} (h : c ∈ d.text) : isBlank c = false := by
  obtain ⟨whole, places, -, hd, -, -, hbody⟩ := d.exists_body
  have hbodychar : c ∈ d.body → isBlank c = false := by
    intro hc
    rw [hbody, List.mem_append] at hc
    rcases hc with hc | hc
    · exact not_isBlank_of_isDigit (hd c (List.mem_append_left _ hc))
    · split at hc
      · cases hc
      · rcases List.mem_cons.1 hc with rfl | hc
        · rfl
        · exact not_isBlank_of_isDigit (hd c (List.mem_append_right _ hc))
  rw [text_eq] at h
  split at h
  · rcases List.mem_cons.1 h with rfl | h
    · rfl
    · exact hbodychar h
  · exact hbodychar h

/-! ## Machine integers -/

theorem text_ofInt64 (i : Int64) : (ofInt64 i).text = intDigits i.toInt := by
  have hpadded : paddedDigits 1 i.toInt.natAbs = digits i.toInt.natAbs := by
    have hpos := List.length_pos_iff.2 (digits_ne_nil i.toInt.natAbs)
    have hnone : 1 - (digits i.toInt.natAbs).length = 0 := by omega
    rw [paddedDigits, hnone]
    rfl
  have hbody : (ofInt64 i).body = digits i.toInt.natAbs := hpadded
  have hnegative : (ofInt64 i).negative = decide (i.toInt < 0) := rfl
  rw [text_eq, hbody, hnegative, intDigits]
  by_cases hneg : i.toInt < 0
  · simp [hneg]
  · simp [hneg]

theorem plainZero_ofInt64 (i : Int64) : (ofInt64 i).plainZero = ofInt64 i := by
  have hnegative : (decide (i.toInt < 0) && i.toInt.natAbs != 0) = decide (i.toInt < 0) := by
    by_cases hneg : i.toInt < 0
    · have hne : i.toInt.natAbs ≠ 0 := by omega
      simp [hne]
    · simp [hneg]
  simp only [plainZero, ofInt64, hnegative]

theorem truncate_ofInt64 (i : Int64) : (ofInt64 i).truncate = i.toInt := by
  have hdiv : i.toInt.natAbs / Nat.pow 10 0 = i.toInt.natAbs := Nat.div_one _
  simp only [truncate, ofInt64, hdiv, decide_eq_true_eq]
  split <;> omega

end TableDiff.Numeric.Decimal
