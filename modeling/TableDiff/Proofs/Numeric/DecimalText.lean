import Mathlib.Data.List.TakeWhile
import TableDiff.Proofs.Numeric.ExactValue

/-!
# The readers of decimal text agree

Decimal text is read in two ways: into decimals of limited size, character by character, and into
exact decimals, by taking the point and the exponent out of the text. Without an exponent the two
find the same number wherever the limited reader refuses surplus digits
(`ofText?_of_ofTextExact?`). With an exponent they do so if the digits before it fit
(`ofText?_of_ofScientific?`); digits without a point always do or are not read at all
(`ofText?_eq_ofTextExact?`).
-/

namespace TableDiff.Numeric

open TableDiff.Text

/-- Whether a character may stand among the digits of a number. -/
def isGroupChar (c : Char) : Bool := isDigit c || c = '_'

/-- Whether a text has a digit at its start. -/
def StartsWithDigit (cs : List Char) : Prop := ∃ c rest, cs = c :: rest ∧ isDigit c = true

namespace ExactDecimal

/-! ## The exact reader without an exponent -/

/-- The number that a text without an exponent denotes. -/
def ofPlain? (cs : List Char) : Option ExactDecimal :=
  (readSigned? (dropPoint cs).1).map fun u => ⟨u, (dropPoint cs).2⟩

/-- The number that is left when a plain number is multiplied by a power of ten. -/
def shifted? (n : ExactDecimal) (k : ℤ) : Option ExactDecimal :=
  if fitsInt64 (n.scale - k) then some ⟨n.unscaled, n.scale - k⟩ else none

theorem shifted?_zero (n : ExactDecimal) :
    n.shifted? 0 = if fitsInt64 n.scale then some n else none := by
  rw [shifted?, sub_zero]

theorem bind_shifted? (base : List Char) (k : ℤ) :
    (readSigned? (dropPoint base).1).bind (fun u =>
        if fitsInt64 ((dropPoint base).2 - k) then
          some (⟨u, (dropPoint base).2 - k⟩ : ExactDecimal) else none) =
      (ofPlain? base).bind (·.shifted? k) := by
  unfold ofPlain?
  cases readSigned? (dropPoint base).1 <;> rfl

/-- The number that a text denotes without its exponent, and the exponent. -/
def parts? (cs : List Char) : Option (ExactDecimal × ℤ) :=
  match Decimal.splitExponent? cs with
  | none => (ofPlain? cs).map fun n => (n, 0)
  | some (base, e) => (readInt? e).bind fun k => (ofPlain? base).map fun n => (n, k)

theorem ofText?_eq_parts (cs : List Char) :
    ofText? cs = (parts? cs).bind fun p => p.1.shifted? p.2 := by
  unfold ofText? parts?
  cases Decimal.splitExponent? cs with
  | none =>
    rw [Option.bind_map]
    exact bind_shifted? cs 0
  | some p =>
    obtain ⟨base, e⟩ := p
    dsimp only
    cases readInt? e with
    | none => rfl
    | some k =>
      rw [Option.bind_some, Option.bind_map]
      exact bind_shifted? base k

theorem parts?_of_plain {cs : List Char} (h : Decimal.splitExponent? cs = none) :
    parts? cs = (ofPlain? cs).map fun n => (n, 0) := by
  rw [parts?, h]

theorem parts?_of_exponent {cs base e : List Char}
    (h : Decimal.splitExponent? cs = some (base, e)) :
    parts? cs = (readInt? e).bind fun k => (ofPlain? base).map fun n => (n, k) := by
  rw [parts?, h]

theorem dropPoint_point (cs : List Char) :
    dropPoint ('.' :: cs) = (cs, (cs.filter (· ≠ '_')).length) := by
  simp [dropPoint, List.span_eq_takeWhile_dropWhile]

theorem dropPoint_cons {c : Char} (hc : c ≠ '.') (cs : List Char) :
    dropPoint (c :: cs) = (c :: (dropPoint cs).1, (dropPoint cs).2) := by
  simp only [dropPoint, List.span_eq_takeWhile_dropWhile, List.takeWhile_cons, List.dropWhile_cons]
  simp only [ne_eq, hc, not_false_eq_true, decide_true, if_true]
  cases List.dropWhile (fun c => decide (c ≠ '.')) cs <;> simp

theorem readGrouped?_of_startsWithDigit {cs : List Char} (hs : StartsWithDigit cs)
    (hg : ∀ c ∈ cs, isGroupChar c = true) :
    readGrouped? cs = some (natOfDigits (cs.filter isDigit)) := by
  obtain ⟨c, rest, rfl, hc⟩ := hs
  have hall : (c :: rest).all (fun c => isDigit c || c = '_') = true := List.all_eq_true.2 hg
  simp only [readGrouped?]
  rw [if_pos ⟨hc, hall⟩]

end ExactDecimal

/-! ## The limited reader -/

namespace Decimal

theorem ofDecimal_of_ofUnsigned? {negative : Bool} {m s : ℕ} {d : Decimal}
    (h : ofUnsigned? negative m s = some d) :
    ExactDecimal.ofDecimal d = ⟨if negative then -(m : ℤ) else m, s⟩ ∧ s ≤ 28 := by
  unfold ofUnsigned? ofParts? at h
  split at h
  next hl =>
    cases h
    refine ⟨?_, hl.2⟩
    by_cases hm : m = 0 <;> cases negative <;> simp [ExactDecimal.ofDecimal, unscaled, hm]
  next => cases h

theorem scan_refuse_of_point {negative : Bool} {p : Progress} {cs : List Char} {d : Decimal}
    (hp : p.point = true) (h : scan .refuse negative p cs = some d) :
    (∀ c ∈ cs, isGroupChar c = true) ∧ (p.started = true ∨ StartsWithDigit cs) ∧
      ofUnsigned? negative (natOfDigitsFrom p.mantissa (cs.filter isDigit))
        (p.scale + (cs.filter isDigit).length) = some d := by
  induction cs generalizing p with
  | nil =>
    rw [scan] at h
    split at h
    next hs => exact ⟨by simp, .inl hs, h⟩
    next => cases h
  | cons c rest ih =>
    rw [scan] at h
    split at h
    next => cases h
    next =>
      by_cases hc : isDigit c = true
      · rw [if_pos hc] at h
        split at h
        next =>
          obtain ⟨hg, -, hd⟩ := ih (p := p.push c) hp h
          refine ⟨List.forall_mem_cons.2 ⟨by simp [isGroupChar, hc], hg⟩,
            .inr ⟨c, rest, rfl, hc⟩, ?_⟩
          rw [List.filter_cons_of_pos hc, List.length_cons]
          simp only [Progress.push, hp, if_true] at hd
          rw [Nat.add_assoc, Nat.add_comm 1] at hd
          exact hd
        next => cases h
      · rw [if_neg hc, if_neg (by simp [hp])] at h
        split at h
        next hu =>
          obtain ⟨hg, -, hd⟩ := ih hp h
          refine ⟨List.forall_mem_cons.2 ⟨by simp [isGroupChar, hu.1], hg⟩, .inl hu.2, ?_⟩
          rw [List.filter_cons_of_neg hc]
          exact hd
        next => cases h

theorem filter_ne_underscore {cs : List Char} (h : ∀ c ∈ cs, isGroupChar c = true) :
    cs.filter (· ≠ '_') = cs.filter isDigit := by
  refine List.filter_congr fun c hc => ?_
  have hcg := h c hc
  by_cases hu : c = '_'
  · simp [hu, isDigit]
  · simpa [isGroupChar, hu] using hcg.symm

/-- Where the strict reader succeeds before the point, it has read the digits that the exact reader
finds after it has taken the point out. -/
theorem scan_refuse_of_whole {negative : Bool} {p : Progress} {cs : List Char} {d : Decimal}
    (hp : p.point = false) (hs : p.scale = 0) (h : scan .refuse negative p cs = some d) :
    (∀ c ∈ (ExactDecimal.dropPoint cs).1, isGroupChar c = true) ∧
      (p.started = true ∨ StartsWithDigit (ExactDecimal.dropPoint cs).1) ∧
      (∀ c ∈ cs, isGroupChar c = true ∨ c = '.') ∧
      ofUnsigned? negative
        (natOfDigitsFrom p.mantissa ((ExactDecimal.dropPoint cs).1.filter isDigit))
        (ExactDecimal.dropPoint cs).2 = some d := by
  induction cs generalizing p with
  | nil =>
    rw [scan] at h
    split at h
    next hst =>
      rw [hs] at h
      exact ⟨by simp [ExactDecimal.dropPoint], .inl hst, by simp, h⟩
    next => cases h
  | cons c rest ih =>
    rw [scan, if_neg (by omega)] at h
    by_cases hc : isDigit c = true
    · rw [if_pos hc] at h
      split at h
      next =>
        have hpush : (p.push c).scale = 0 := by simp [Progress.push, hp]
        obtain ⟨hg, -, ha, hd⟩ := ih (p := p.push c) hp hpush h
        rw [ExactDecimal.dropPoint_cons (ne_of_isDigit hc (by decide))]
        have hgc : isGroupChar c = true := by simp [isGroupChar, hc]
        refine ⟨List.forall_mem_cons.2 ⟨hgc, hg⟩, .inr ⟨c, _, rfl, hc⟩,
          List.forall_mem_cons.2 ⟨.inl hgc, ha⟩, ?_⟩
        rw [List.filter_cons_of_pos hc]
        exact hd
      next =>
        rw [hp] at h
        cases h
    · rw [if_neg hc] at h
      split at h
      next hpt =>
        obtain ⟨rfl, -⟩ := hpt
        obtain ⟨hg, hst, hd⟩ := scan_refuse_of_point (p := { p with point := true }) rfl h
        rw [ExactDecimal.dropPoint_point, filter_ne_underscore hg]
        refine ⟨hg, hst, List.forall_mem_cons.2 ⟨.inr rfl, fun c hc => .inl (hg c hc)⟩, ?_⟩
        simp only [hs, Nat.zero_add] at hd
        exact hd
      next =>
        split at h
        next hu =>
          obtain ⟨hg, -, ha, hd⟩ := ih hp hs h
          obtain ⟨rfl, hst⟩ := hu
          rw [ExactDecimal.dropPoint_cons (by decide)]
          refine ⟨List.forall_mem_cons.2 ⟨rfl, hg⟩, .inl hst,
            List.forall_mem_cons.2 ⟨.inl rfl, ha⟩, ?_⟩
          rw [List.filter_cons_of_neg (by decide)]
          exact hd
        next => cases h

theorem splitExponent?_eq_none {cs : List Char} (h : ∀ c ∈ cs, c ≠ 'e' ∧ c ≠ 'E') :
    splitExponent? cs = none := by
  have hdrop : cs.dropWhile (fun c => decide (c ≠ 'e') && decide (c ≠ 'E')) = [] := by
    rw [List.dropWhile_eq_nil_iff]
    intro c hc
    simp [h c hc]
  simp only [splitExponent?, List.span_eq_takeWhile_dropWhile, hdrop]

theorem ne_exponent_of_isGroupChar {c : Char} (h : isGroupChar c = true ∨ c = '.') :
    c ≠ 'e' ∧ c ≠ 'E' := by
  constructor <;> rintro rfl <;> rcases h with h | h <;> revert h <;> decide

end Decimal

namespace ExactDecimal

theorem readSigned?_of_startsWithDigit {cs : List Char} (h : StartsWithDigit cs) :
    readSigned? cs = (readGrouped? cs).map fun n => (n : ℤ) := by
  obtain ⟨c, rest, rfl, hc⟩ := h
  have hminus : c ≠ '-' := ne_of_isDigit hc (by decide)
  have hplus : c ≠ '+' := ne_of_isDigit hc (by decide)
  unfold readSigned?
  split
  next h => exact absurd (List.cons.inj h).1 hminus
  next h => exact absurd (List.cons.inj h).1 hplus
  next => rfl

/-- What the strict reader accepts has no exponent, and the exact reader finds the same parts. -/
theorem ofPlain?_of_ofTextExact? {cs : List Char} {d : Decimal}
    (h : Decimal.ofTextExact? cs = some d) :
    Decimal.splitExponent? cs = none ∧ ofPlain? cs = some (ofDecimal d) := by
  -- the digits that follow an optional sign
  have hdigits : ∀ {negative : Bool} {ds : List Char},
      Decimal.scan .refuse negative {} ds = some d →
      (∀ c ∈ ds, c ≠ 'e' ∧ c ≠ 'E') ∧ StartsWithDigit (dropPoint ds).1 ∧
        ∃ n, readGrouped? (dropPoint ds).1 = some n ∧
          ofDecimal d = ⟨if negative then -(n : ℤ) else n, (dropPoint ds).2⟩ := by
    intro negative ds hscan
    obtain ⟨hg, hst, ha, hd⟩ := Decimal.scan_refuse_of_whole rfl rfl hscan
    have hst := hst.resolve_left (by simp)
    exact ⟨fun c hc => Decimal.ne_exponent_of_isGroupChar (ha c hc), hst, _,
      readGrouped?_of_startsWithDigit hst hg, (Decimal.ofDecimal_of_ofUnsigned? hd).1⟩
  unfold Decimal.ofTextExact? Decimal.read? at h
  unfold ofPlain?
  split at h
  next rest =>
    obtain ⟨he, -, n, hn, hd⟩ := hdigits h
    refine ⟨Decimal.splitExponent?_eq_none (List.forall_mem_cons.2 ⟨by decide, he⟩), ?_⟩
    rw [dropPoint_cons (by decide), hd]
    simp [readSigned?, hn]
  next rest =>
    obtain ⟨he, -, n, hn, hd⟩ := hdigits h
    refine ⟨Decimal.splitExponent?_eq_none (List.forall_mem_cons.2 ⟨by decide, he⟩), ?_⟩
    rw [dropPoint_cons (by decide), hd]
    simp [readSigned?, hn]
  next =>
    obtain ⟨he, hst, n, hn, hd⟩ := hdigits h
    refine ⟨Decimal.splitExponent?_eq_none he, ?_⟩
    rw [readSigned?_of_startsWithDigit hst, hn, hd]
    simp

theorem fitsInt64_of_le {k : ℤ} (h : -28 ≤ k ∧ k ≤ 28) : fitsInt64 k = true := by
  simp only [fitsInt64, Bool.and_eq_true, decide_eq_true_eq]
  omega

/-- **Without an exponent both readers find the same number.** -/
theorem ofText?_of_ofTextExact? {cs : List Char} {d : Decimal}
    (h : Decimal.ofTextExact? cs = some d) : ofText? cs = some (ofDecimal d) := by
  obtain ⟨hsplit, hplain⟩ := ofPlain?_of_ofTextExact? h
  have hscale := d.scale_le
  rw [ofText?_eq_parts, parts?_of_plain hsplit, hplain, Option.map_some, Option.bind_some,
    shifted?_zero, if_pos (fitsInt64_of_le (by simp only [ofDecimal]; omega))]

end ExactDecimal

/-! ## Text with an exponent -/

namespace Decimal

/-- Where no digits are surplus, nothing is rounded. -/
theorem scan_round_of_refuse {negative : Bool} {p : Progress} {cs : List Char} {d : Decimal}
    (h : scan .refuse negative p cs = some d) : scan .round negative p cs = some d := by
  induction cs generalizing p with
  | nil => exact h
  | cons c rest ih =>
    rw [scan] at h ⊢
    by_cases hs : p.scale = 28
    · rw [if_pos hs] at h
      cases h
    · rw [if_neg hs] at h ⊢
      split at h
      next hc =>
        rw [if_pos hc]
        split at h
        next hm => rw [if_pos hm]; exact ih h
        next => split at h <;> cases h
      next hc =>
        rw [if_neg hc]
        split at h
        next hp => rw [if_pos hp]; exact ih h
        next hp =>
          rw [if_neg hp]
          split at h
          next hu => rw [if_pos hu]; exact ih h
          next => cases h

theorem ofText?_of_ofTextExact? {cs : List Char} {d : Decimal} (h : ofTextExact? cs = some d) :
    ofText? cs = some d := by
  unfold ofTextExact? read? at h
  unfold ofText? read?
  split at h <;> exact scan_round_of_refuse h

/-- Text without a point is read alike, whatever happens to surplus digits. -/
theorem scan_round_of_no_point {negative : Bool} {p : Progress} {cs : List Char}
    (hp : p.point = false) (hs : p.scale = 0) (hcs : '.' ∉ cs) :
    scan .round negative p cs = scan .refuse negative p cs := by
  induction cs generalizing p with
  | nil => rfl
  | cons c rest ih =>
    obtain ⟨hc, hrest⟩ := List.ne_and_not_mem_of_not_mem_cons hcs
    have hpush : (p.push c).scale = 0 := by simp [Progress.push, hp]
    have h28 : ¬ p.scale = 28 := by omega
    have hpoint : ¬ p.point = true := by simp [hp]
    have hfirst : ¬ (c = '.' ∧ (!p.point) = true) := fun h => hc h.1.symm
    rw [scan, scan, if_neg h28, if_neg h28, if_neg hfirst, if_neg hfirst, if_neg hpoint,
      if_neg hpoint, ih (p := p.push c) hp hpush hrest, ih hp hs hrest]

theorem ofText?_eq_ofTextExact? {cs : List Char} (hcs : '.' ∉ cs) :
    ofText? cs = ofTextExact? cs := by
  unfold ofText? ofTextExact? read?
  split
  next => exact scan_round_of_no_point rfl rfl (List.not_mem_of_not_mem_cons hcs)
  next => exact scan_round_of_no_point rfl rfl (List.not_mem_of_not_mem_cons hcs)
  next => exact scan_round_of_no_point rfl rfl hcs

/-! ### Exponents -/

theorem readUnsigned?_of_ne_plus {cs : List Char} (h : ∀ rest, cs ≠ '+' :: rest) :
    readUnsigned? cs = if cs ≠ [] ∧ cs.all isDigit then some (natOfDigits cs) else none := by
  cases cs with
  | nil => rfl
  | cons c rest =>
    simp [readUnsigned?]

theorem readInt?_of_ne_minus {e : List Char} (he : ∀ ds, e ≠ '-' :: ds) :
    ExactDecimal.readInt? e = (readUnsigned? e).map fun n : ℕ => (n : ℤ) := by
  by_cases hplus : ∃ ds, e = '+' :: ds
  · obtain ⟨ds, rfl⟩ := hplus
    simp only [ExactDecimal.readInt?, readUnsigned?]
    split <;> simp
  · rw [readUnsigned?_of_ne_plus fun ds hds => hplus ⟨ds, hds⟩]
    unfold ExactDecimal.readInt?
    split
    rename_i hsigns
    split at hsigns
    next ds => exact absurd rfl (he ds)
    next ds => exact absurd ⟨ds, rfl⟩ hplus
    next =>
      cases hsigns
      split <;> simp

theorem readInt?_minus {ds : List Char} (hds : ∀ rest, ds ≠ '+' :: rest) :
    ExactDecimal.readInt? ('-' :: ds) = (readUnsigned? ds).map fun n : ℕ => -(n : ℤ) := by
  rw [readUnsigned?_of_ne_plus hds]
  simp only [ExactDecimal.readInt?]
  split <;> simp

theorem ofDecimal_of_ofParts? {negative : Bool} {m s : ℕ} {d : Decimal}
    (h : ofParts? negative m s = some d) :
    ExactDecimal.ofDecimal d = ⟨if negative then -(m : ℤ) else m, s⟩ := by
  unfold ofParts? at h
  split at h
  next => cases h; rfl
  next => cases h

theorem unscaled_eq (d : Decimal) :
    d.unscaled = if d.negative then -(d.mantissa : ℤ) else d.mantissa :=
  rfl

theorem ofDecimal_of_shiftDown? {b d : Decimal} {k : ℕ} (h : b.shiftDown? k = some d) :
    ExactDecimal.ofDecimal d = ⟨b.unscaled, b.scale + k⟩ := by
  rw [ofDecimal_of_ofParts? h, unscaled_eq]
  push_cast
  rfl

theorem toRat_of_shiftUp? {b d : Decimal} {k : ℕ} (h : b.shiftUp? k = some d) :
    d.toRat = ExactDecimal.toRat ⟨b.unscaled, b.scale - k⟩ ∧ k ≤ 28 := by
  have hscale := b.scale_le
  unfold shiftUp? at h
  split at h
  next hk =>
    refine ⟨?_, by omega⟩
    rw [toRat, ofDecimal_of_ofParts? h, unscaled_eq, Nat.cast_sub hk]
  next hk =>
    split at h
    next => cases h
    next h28 =>
      refine ⟨?_, by omega⟩
      have hshift : (b.scale : ℤ) - k = (0 : ℕ) - (k - b.scale : ℕ) := by omega
      rw [toRat, ofDecimal_of_ofParts? h, hshift, ← ExactDecimal.toRat_mk_natPow, unscaled_eq]
      congr 2
      split <;> push_cast <;> ring

/-- A sign after the minus sign of an exponent, which only the limited reader lets pass. -/
def DoubleSigned (e : List Char) : Prop := ∃ ds, e = '-' :: '+' :: ds

/-- **With an exponent both readers find the same number if the digits before it fit.** -/
theorem ofText?_of_ofScientific? {cs base e : List Char} {b d : Decimal}
    (hsplit : splitExponent? cs = some (base, e)) (hb : ofTextExact? base = some b)
    (he : ¬ DoubleSigned e) (h : ofScientific? cs = some d) :
    ∃ n, ExactDecimal.ofText? cs = some n ∧ n.toRat = d.toRat := by
  have hscale := b.scale_le
  have hplain := (ExactDecimal.ofPlain?_of_ofTextExact? hb).2
  rw [ExactDecimal.ofText?_eq_parts, ExactDecimal.parts?_of_exponent hsplit, hplain]
  simp only [ofScientific?, hsplit, ofText?_of_ofTextExact? hb, Option.bind_eq_bind,
    Option.bind_some] at h
  split at h
  next ds =>
    obtain ⟨k, hk, h⟩ := Option.bind_eq_some_iff.1 h
    have hds : ∀ rest, ds ≠ '+' :: rest := fun rest hr => he ⟨rest, by rw [hr]⟩
    have hd := ofDecimal_of_shiftDown? h
    have hfits : fitsInt64 ((ExactDecimal.ofDecimal b).scale - -(k : ℤ)) = true := by
      have h28 := d.scale_le
      have hs : ((d.scale : ℕ) : ℤ) = b.scale + k := congrArg ExactDecimal.scale hd
      exact ExactDecimal.fitsInt64_of_le (by simp only [ExactDecimal.ofDecimal]; omega)
    refine ⟨ExactDecimal.ofDecimal d, ?_, rfl⟩
    rw [readInt?_minus hds, hk, Option.map_some, Option.bind_some, Option.map_some,
      Option.bind_some, ExactDecimal.shifted?, if_pos hfits, hd, sub_neg_eq_add]
    rfl
  next hminus =>
    obtain ⟨k, hk, h⟩ := Option.bind_eq_some_iff.1 h
    obtain ⟨hd, h28⟩ := toRat_of_shiftUp? h
    have hfits : fitsInt64 ((ExactDecimal.ofDecimal b).scale - k) = true :=
      ExactDecimal.fitsInt64_of_le (by simp only [ExactDecimal.ofDecimal]; omega)
    refine ⟨⟨b.unscaled, b.scale - k⟩, ?_, hd.symm⟩
    rw [readInt?_of_ne_minus fun ds hds => hminus ds hds, hk, Option.map_some, Option.bind_some,
      Option.map_some, Option.bind_some, ExactDecimal.shifted?, if_pos hfits]
    rfl

end Decimal

end TableDiff.Numeric
