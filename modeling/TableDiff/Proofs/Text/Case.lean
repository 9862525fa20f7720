import TableDiff.Text.AsciiCase
import TableDiff.Text.CaseMap

/-!
# Full case mapping and the case of ASCII letters

Names that differ in the case of ASCII letters only have one upper-case form and one lower-case
form (`upperName_eq_of_sameName`, `toLower_eq_of_map_toLower`), as each mapping gives the same for a
character and for its small ASCII form. For names of ASCII characters the converse holds
(`sameName_of_upperName_eq`); other letters have an upper-case form in common with letters that
these names tell apart.
-/

namespace TableDiff.Text

/-! ## Single characters -/

/-- Whether a character is one of the first 128. -/
def isAscii (c : Char) : Bool := c.toNat < 128

theorem toLower_eq_self {c : Char} (h : isAscii c = false) : c.toLower = c := by
  have hc : ¬ c.toNat < 128 := by simpa [isAscii] using h
  unfold Char.toLower
  split
  · rename_i hu
    have : c.toNat ≤ 90 := UInt32.le_iff_toNat_le.1 hu.2
    omega
  · rfl

/-- A property of all ASCII characters is checked one by one. -/
theorem forall_ascii {p : Char → Prop} (h : ∀ n < 128, p (Char.ofNat n)) {c : Char}
    (hc : isAscii c = true) : p c := by
  have hp := h c.toNat (by simpa [isAscii] using hc)
  rwa [Char.ofNat_toNat] at hp

theorem upperOf_toLower (c : Char) : upperOf c.toLower = upperOf c := by
  cases hc : isAscii c with
  | false => rw [toLower_eq_self hc]
  | true => exact forall_ascii (p := fun c => upperOf c.toLower = upperOf c) (by decide) hc

theorem lowerOf_toLower (c : Char) : lowerOf c.toLower = lowerOf c := by
  cases hc : isAscii c with
  | false => rw [toLower_eq_self hc]
  | true => exact forall_ascii (p := fun c => lowerOf c.toLower = lowerOf c) (by decide) hc

theorem isAscii_toLower (c : Char) : isAscii c.toLower = isAscii c := by
  cases hc : isAscii c with
  | false => rw [toLower_eq_self hc, hc]
  | true => exact forall_ascii (p := fun c => isAscii c.toLower = true) (by decide) hc

/-- Only ranges that start below a bound matter for the numbers below it. -/
theorem inRanges_of_lt {ranges : List (Nat × Nat)} {n k : Nat} (h : n < k) :
    inRanges ranges n = inRanges (ranges.filter (·.1 < k)) n := by
  unfold inRanges
  rw [List.any_filter]
  congr 1
  funext r
  by_cases hr : r.1 < k
  · simp [hr]
  · have hn : ¬ r.1 ≤ n := by omega
    simp [hr, hn]

/-- Among ASCII characters only the letters have case. -/
theorem isCased_of_isAscii {c : Char} (h : isAscii c = true) :
    isCased c = inRanges [(0x41, 0x5a), (0x61, 0x7a)] c.toNat := by
  have hranges : casedRanges.filter (·.1 < 128) = [(0x41, 0x5a), (0x61, 0x7a)] := by decide +kernel
  rw [isCased, inRanges_of_lt (of_decide_eq_true h), hranges]

theorem isCaseIgnorable_of_isAscii {c : Char} (h : isAscii c = true) : isCaseIgnorable c =
    inRanges [(0x27, 0x27), (0x2e, 0x2e), (0x3a, 0x3a), (0x5e, 0x5e), (0x60, 0x60)] c.toNat := by
  have hranges : caseIgnorableRanges.filter (·.1 < 128) =
      [(0x27, 0x27), (0x2e, 0x2e), (0x3a, 0x3a), (0x5e, 0x5e), (0x60, 0x60)] := by decide +kernel
  rw [isCaseIgnorable, inRanges_of_lt (of_decide_eq_true h), hranges]

theorem isCased_toLower (c : Char) : isCased c.toLower = isCased c := by
  cases hc : isAscii c with
  | false => rw [toLower_eq_self hc]
  | true =>
    rw [isCased_of_isAscii hc, isCased_of_isAscii ((isAscii_toLower c).trans hc)]
    exact forall_ascii (p := fun c => inRanges _ c.toLower.toNat = inRanges _ c.toNat) (by decide) hc

theorem isCaseIgnorable_toLower (c : Char) : isCaseIgnorable c.toLower = isCaseIgnorable c := by
  cases hc : isAscii c with
  | false => rw [toLower_eq_self hc]
  | true =>
    rw [isCaseIgnorable_of_isAscii hc, isCaseIgnorable_of_isAscii ((isAscii_toLower c).trans hc)]
    exact forall_ascii (p := fun c => inRanges _ c.toLower.toNat = inRanges _ c.toNat) (by decide) hc

theorem toLower_eq_sigma {c : Char} : c.toLower = 'Σ' ↔ c = 'Σ' := by
  cases hc : isAscii c with
  | false => rw [toLower_eq_self hc]
  | true => exact forall_ascii (p := fun c => c.toLower = 'Σ' ↔ c = 'Σ') (by decide) hc

/-! ## Texts -/

theorem toUpper_map_toLower (cs : List Char) : toUpper (cs.map Char.toLower) = toUpper cs := by
  simp only [toUpper, List.flatMap_map, upperOf_toLower]

theorem startsCased_map_toLower (cs : List Char) :
    startsCased (cs.map Char.toLower) = startsCased cs := by
  have hp : isCaseIgnorable ∘ Char.toLower = isCaseIgnorable := funext isCaseIgnorable_toLower
  unfold startsCased
  rw [List.dropWhile_map, hp]
  cases cs.dropWhile isCaseIgnorable with
  | nil => rfl
  | cons c cs => exact isCased_toLower c

theorem toLowerAfter_map_toLower (before cs : List Char) :
    toLowerAfter (before.map Char.toLower) (cs.map Char.toLower) = toLowerAfter before cs := by
  induction cs generalizing before with
  | nil => rfl
  | cons c cs ih =>
    have hbefore : c.toLower :: before.map Char.toLower = (c :: before).map Char.toLower := rfl
    simp only [List.map_cons, toLowerAfter, toLower_eq_sigma, lowerOf_toLower, smallSigma,
      startsCased_map_toLower]
    rw [hbefore, ih]

/-- Names that differ in the case of ASCII letters only are one name in upper case. -/
theorem upperName_eq_of_sameName {a b : String} (h : sameName a b = true) :
    upperName a = upperName b := by
  have hf : a.toList.map Char.toLower = b.toList.map Char.toLower := sameName_iff.1 h
  rw [upperName, upperName, ← toUpper_map_toLower, hf, toUpper_map_toLower]

/-- Texts that differ in the case of ASCII letters only are one text in lower case. -/
theorem toLower_eq_of_map_toLower {as bs : List Char}
    (h : as.map Char.toLower = bs.map Char.toLower) : toLower as = toLower bs := by
  have htoLower : ∀ cs : List Char, toLower (cs.map Char.toLower) = toLower cs :=
    toLowerAfter_map_toLower []
  rw [← htoLower, h, htoLower]

/-! ## Names of ASCII characters -/

theorem upperOf_of_isAscii {c : Char} (h : isAscii c = true) : upperOf c = [c.toUpper] := by
  have hc : c.toNat < 128 := by simpa [isAscii] using h
  rw [upperOf, if_pos hc]

theorem toLower_toUpper {c : Char} (h : isAscii c = true) : c.toUpper.toLower = c.toLower :=
  forall_ascii (p := fun c => c.toUpper.toLower = c.toLower) (by decide) h

theorem map_toLower_toUpper {cs : List Char} (h : ∀ c ∈ cs, isAscii c = true) :
    (toUpper cs).map Char.toLower = cs.map Char.toLower := by
  induction cs with
  | nil => rfl
  | cons c cs ih =>
    obtain ⟨hc, hcs⟩ := List.forall_mem_cons.1 h
    have hcons : toUpper (c :: cs) = c.toUpper :: toUpper cs := by
      rw [toUpper, List.flatMap_cons, upperOf_of_isAscii hc]
      rfl
    rw [hcons, List.map_cons, List.map_cons, ih hcs, toLower_toUpper hc]

/-- Names of ASCII characters that are one name in upper case differ in the case of letters
only. -/
theorem sameName_of_upperName_eq {a b : String} (ha : ∀ c ∈ a.toList, isAscii c = true)
    (hb : ∀ c ∈ b.toList, isAscii c = true) (h : upperName a = upperName b) :
    sameName a b = true := by
  have hupper : toUpper a.toList = toUpper b.toList := by
    simpa only [upperName, String.ofList_inj] using h
  rw [sameName_iff, foldAscii, foldAscii, ← map_toLower_toUpper ha, hupper,
    map_toLower_toUpper hb]

end TableDiff.Text
