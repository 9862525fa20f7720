import TableDiff.Proofs.Text.Case

/-!
# The lower-case form of a text is in lower case

Mapping a text to lower case twice gives what mapping it once gives (`toLower_toLower`). Every
character of a lower-case form is one that no entry of the tables moves (`IsSmall`): two runs are
compared by their ends and their spacing (`CaseRun.misses`), not character by character.

No star is lost or gained (`star_mem_toLower`), and only a capital sigma is mapped by what stands
around it (`toLower_eq_flatMap`).
-/

namespace TableDiff.Text

/-! ## Runs -/

namespace CaseRun

variable {r s : CaseRun} {n m : Nat}

/-- The images of the first run are outside of the second one, or fall between its members. -/
def misses (r s : CaseRun) : Bool :=
  let low := (r.first + r.shift).toNat
  let high := (r.last + r.shift).toNat
  -- `blt` and `beq` are computed at once, which matters for all pairs of runs
  high.blt s.first || s.last.blt low ||
    (s.step.beq 2 && (r.step.beq 2 || low.beq high) && ((low + s.first) % 2).beq 1)

theorem image?_eq_some : r.image? n = some m ↔
    (r.first ≤ n ∧ n ≤ r.last ∧ (n - r.first) % r.step = 0) ∧ m = (n + r.shift).toNat := by
  simp only [image?, Option.ite_none_right_eq_some, Bool.and_eq_true, decide_eq_true_eq, beq_iff_eq,
    and_assoc, Option.some.injEq, eq_comm (a := m)]

theorem image?_eq_none_of_misses (h : r.misses s = true) (hr : 0 ≤ r.first + r.shift)
    (hm : r.image? n = some m) : s.image? m = none := by
  obtain ⟨⟨hfirst, hlast, hstep⟩, rfl⟩ := image?_eq_some.1 hm
  refine Option.eq_none_iff_forall_ne_some.2 fun k hk => ?_
  obtain ⟨⟨hlow, hhigh, hmember⟩, -⟩ := image?_eq_some.1 hk
  simp only [misses, Bool.or_eq_true, Bool.and_eq_true, Nat.blt_eq, Nat.beq_eq] at h
  rcases h with (hbelow | habove) | ⟨⟨hs, hspacing⟩, hodd⟩
  · omega
  · omega
  · rw [hs] at hmember
    rcases hspacing with hr | hr
    · rw [hr] at hstep
      omega
    · omega

end CaseRun

/-! ## Characters -/

/-- The runs that map to lower case, and each character that becomes several ones as a run of its
own. -/
def loweredRuns : List CaseRun := lowerExpansions.map (fun p => ⟨p.1, p.1, 1, 0⟩) ++ lowerRuns

/-- No entry of the tables moves the character to lower case. -/
def IsSmall (c : Char) : Prop := ∀ r ∈ loweredRuns, r.image? c.toNat = none

instance (c : Char) : Decidable (IsSmall c) :=
  inferInstanceAs (Decidable (∀ r ∈ loweredRuns, r.image? c.toNat = none))

theorem lookup_lowerExpansions_eq_none {n : Nat} : lowerExpansions.lookup n = none ↔
    ∀ r ∈ lowerExpansions.map fun p => (⟨p.1, p.1, 1, 0⟩ : CaseRun), r.image? n = none := by
  simp only [List.lookup_eq_none_iff, List.forall_mem_map]
  refine forall₂_congr fun p _ => ?_
  simp only [CaseRun.image?, bne_iff_ne, ite_eq_right_iff, reduceCtorEq, imp_false,
    Bool.and_eq_true, decide_eq_true_eq, beq_iff_eq]
  omega

theorem isSmall_image {r : CaseRun} {n m : Nat} (hr : r ∈ lowerRuns) (h : r.image? n = some m) :
    ∀ s ∈ loweredRuns, s.image? m = none := by
  have hpos : lowerRuns.all fun r => 0 ≤ r.first + r.shift := by decide +kernel
  have hmisses : lowerRuns.all fun r => loweredRuns.all r.misses := by decide +kernel
  exact fun s hs => CaseRun.image?_eq_none_of_misses
    (List.all_eq_true.1 (List.all_eq_true.1 hmisses r hr) s hs)
    (of_decide_eq_true (List.all_eq_true.1 hpos r hr)) h

theorem isSmall_ofNat {n : Nat} (h : ∀ r ∈ loweredRuns, r.image? n = none) :
    IsSmall (Char.ofNat n) := by
  by_cases hn : n.isValidChar
  · have hcode : (Char.ofNat n).toNat = n := by
      rw [Char.ofNat, dif_pos hn]
      rfl
    rwa [IsSmall, hcode]
  · have hzero : Char.ofNat n = Char.ofNat 0 := by
      rw [Char.ofNat, dif_neg hn]
      rfl
    rw [hzero]
    decide +kernel

/-- Among the runs only the one of the capital letters meets ASCII characters. -/
theorem isSmall_toLower {c : Char} (h : isAscii c = true) : IsSmall c.toLower := by
  have hruns : ∀ r ∈ loweredRuns, 128 ≤ r.first ∨
      ∀ n < 128, r.image? (Char.ofNat n).toLower.toNat = none := by decide +kernel
  intro r hr
  rcases hruns r hr with hfirst | hascii
  · have hlt : c.toLower.toNat < r.first :=
      Nat.lt_of_lt_of_le (of_decide_eq_true ((isAscii_toLower c).trans h)) hfirst
    exact if_neg (by simp [Nat.not_le.2 hlt])
  · exact forall_ascii (p := fun c => r.image? c.toLower.toNat = none) hascii h

theorem toLower_of_isSmall {c : Char} (h : IsSmall c) (hc : isAscii c = true) : c.toLower = c := by
  have hcapital : (⟨0x41, 0x5a, 1, 32⟩ : CaseRun).image? c.toNat = none :=
    h _ (List.mem_append_right _ List.mem_cons_self)
  exact forall_ascii (p := fun c => (⟨0x41, 0x5a, 1, 32⟩ : CaseRun).image? c.toNat = none →
    c.toLower = c) (by decide +kernel) hc hcapital

/-- Where a character of a lower-case form comes from: the small ASCII letters, the table of
expansions, a run, or the character itself where neither table has it. -/
theorem mem_lowerOf_cases {c d : Char} (h : d ∈ lowerOf c) :
    (isAscii c = true ∧ d = c.toLower) ∨
      (∃ p ∈ lowerExpansions, ∃ n ∈ p.2, d = Char.ofNat n) ∨
      (isAscii c = false ∧ ∃ r ∈ lowerRuns, ∃ n, r.image? c.toNat = some n ∧ d = Char.ofNat n) ∨
      (IsSmall c ∧ d = c) := by
  unfold lowerOf at h
  split at h
  next hascii => exact .inl ⟨by simpa [isAscii] using hascii, List.mem_singleton.1 h⟩
  next hascii =>
    unfold mapCase at h
    split at h
    next ns hexpanded =>
      obtain ⟨before, after, hmem, -⟩ := List.lookup_eq_some_iff.1 hexpanded
      obtain ⟨n, hn, rfl⟩ := List.mem_map.1 h
      exact .inr (.inl ⟨(c.toNat, ns), hmem ▸ by simp, n, hn, rfl⟩)
    next hplain =>
      split at h
      next n hn =>
        obtain ⟨r, hr, himage⟩ := List.exists_of_findSome?_eq_some hn
        exact .inr (.inr (.inl ⟨by simpa [isAscii] using hascii, r, hr, n, himage,
          List.mem_singleton.1 h⟩))
      next hnone =>
        exact .inr (.inr (.inr ⟨List.forall_mem_append.2
          ⟨lookup_lowerExpansions_eq_none.1 hplain, List.findSome?_eq_none_iff.1 hnone⟩,
          List.mem_singleton.1 h⟩))

theorem isSmall_of_mem_lowerOf {c d : Char} (h : d ∈ lowerOf c) : IsSmall d := by
  rcases mem_lowerOf_cases h with ⟨hascii, rfl⟩ | ⟨p, hp, n, hn, rfl⟩ |
    ⟨-, r, hr, n, himage, rfl⟩ | ⟨hc, rfl⟩
  · exact isSmall_toLower hascii
  · have hns : ∀ p ∈ lowerExpansions, ∀ n ∈ p.2, IsSmall (Char.ofNat n) := by decide +kernel
    exact hns p hp n hn
  · exact isSmall_ofNat (isSmall_image hr himage)
  · exact hc

theorem lowerOf_of_isSmall {c : Char} (h : IsSmall c) : lowerOf c = [c] := by
  unfold lowerOf
  split
  next hascii =>
    rw [toLower_of_isSmall h (by simpa [isAscii] using hascii)]
  next =>
    obtain ⟨hexpanded, hrun⟩ := List.forall_mem_append.1 h
    rw [mapCase, lookup_lowerExpansions_eq_none.2 hexpanded]
    simp only [List.findSome?_eq_none_iff.2 hrun]

theorem toLowerAfter_of_isSmall {before cs : List Char} (h : ∀ c ∈ cs, IsSmall c) :
    toLowerAfter before cs = cs := by
  induction cs generalizing before with
  | nil => rfl
  | cons c cs ih =>
    obtain ⟨hc, hcs⟩ := List.forall_mem_cons.1 h
    have hsigma : c ≠ 'Σ' := by
      rintro rfl
      exact absurd hc (by decide +kernel)
    rw [toLowerAfter, if_neg hsigma, lowerOf_of_isSmall hc, ih hcs]
    rfl

theorem isSmall_of_mem_toLowerAfter {before cs : List Char} {d : Char}
    (h : d ∈ toLowerAfter before cs) : IsSmall d := by
  induction cs generalizing before with
  | nil => cases h
  | cons c cs ih =>
    rw [toLowerAfter, List.mem_append] at h
    rcases h with h | h
    · split at h
      next =>
        rw [List.mem_singleton.1 h, smallSigma]
        split <;> decide +kernel
      next => exact isSmall_of_mem_lowerOf h
    · exact ih h

/-- **A text in lower case stays as it is.** -/
theorem toLower_toLower (cs : List Char) : toLower (toLower cs) = toLower cs :=
  toLowerAfter_of_isSmall fun _ => isSmall_of_mem_toLowerAfter

/-! ## The star -/

theorem ofNat_ne_star {n : Nat} (h : 42 < n) : Char.ofNat n ≠ '*' := by
  intro hstar
  by_cases hn : n.isValidChar
  · have hcode : (Char.ofNat n).toNat = n := by
      rw [Char.ofNat, dif_pos hn]
      rfl
    rw [hstar] at hcode
    exact absurd hcode (Nat.ne_of_lt h)
  · rw [Char.ofNat, dif_neg hn] at hstar
    exact absurd hstar (by decide)

theorem star_mem_lowerOf {c : Char} (h : '*' ∈ lowerOf c) : c = '*' := by
  rcases mem_lowerOf_cases h with ⟨hascii, hc⟩ | ⟨p, hp, n, hn, hc⟩ |
    ⟨hascii, r, hr, n, himage, hc⟩ | ⟨-, hc⟩
  · exact forall_ascii (p := fun c => '*' = c.toLower → c = '*') (by decide) hascii hc
  · have hns : ∀ p ∈ lowerExpansions, ∀ n ∈ p.2, '*' ≠ Char.ofNat n := by decide +kernel
    exact absurd hc (hns p hp n hn)
  · have hruns : ∀ r ∈ lowerRuns, r.last < 128 ∨ 42 < r.first + r.shift := by decide +kernel
    obtain ⟨⟨hfirst, hlast, -⟩, rfl⟩ := CaseRun.image?_eq_some.1 himage
    have hcode : ¬ c.toNat < 128 := by simpa [isAscii] using hascii
    have hrun : 42 < r.first + r.shift := (hruns r hr).resolve_left (by omega)
    exact absurd hc.symm (ofNat_ne_star (by omega))
  · exact hc.symm

theorem star_mem_toLowerAfter {before cs : List Char} :
    '*' ∈ toLowerAfter before cs ↔ '*' ∈ cs := by
  induction cs generalizing before with
  | nil => rfl
  | cons c cs ih =>
    rw [toLowerAfter, List.mem_append, ih, List.mem_cons]
    refine or_congr_left ⟨fun h => ?_, ?_⟩
    · split at h
      next =>
        have hsigma : ('*' : Char) ≠ smallSigma before cs := by
          unfold smallSigma
          split <;> decide
        exact absurd (List.mem_singleton.1 h) hsigma
      next => exact (star_mem_lowerOf h).symm
    · rintro rfl
      exact List.mem_singleton_self '*'

/-- A text and its lower-case form have stars alike. -/
theorem star_mem_toLower {cs : List Char} : '*' ∈ toLower cs ↔ '*' ∈ cs := star_mem_toLowerAfter

/-! ## Texts without a capital sigma -/

/-- Without a capital sigma each character is mapped by itself. -/
theorem toLower_eq_flatMap {cs : List Char} (h : 'Σ' ∉ cs) : toLower cs = cs.flatMap lowerOf := by
  have hafter : ∀ before, toLowerAfter before cs = cs.flatMap lowerOf := by
    induction cs with
    | nil => exact fun _ => rfl
    | cons c cs ih =>
      intro before
      rw [List.mem_cons, not_or] at h
      rw [toLowerAfter, if_neg (Ne.symm h.1), ih h.2, List.flatMap_cons]
  exact hafter []

end TableDiff.Text
