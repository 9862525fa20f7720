import TableDiff.Proofs.Text.Blank
import TableDiff.Uuid

/-!
# Written UUIDs are read back

The two digits of a byte denote it (`bytesOfHex?_flatMap`), the hyphens stand where they are
expected, and the written form is neither taken for bare digits nor for one of the wrapped forms.
So a UUID is read back from its text (`ofText_text`).
-/

namespace TableDiff.Uuid

open TableDiff.Text

variable {d : Nat} {as bs cs ds es : List Char}

/-! ## Digits -/

theorem hexValue?_hexChar (h : d < 16) : hexValue? (hexChar d) = some d := by
  have hall : ∀ d < 16, hexValue? (hexChar d) = some d := by decide
  exact hall d h

theorem not_isBlank_hexChar (h : d < 16) : isBlank (hexChar d) = false := by
  have hall : ∀ d < 16, isBlank (hexChar d) = false := by decide
  exact hall d h

theorem hexChar_ne_brace (h : d < 16) : hexChar d ≠ '\x7b' := by
  have hall : ∀ d < 16, hexChar d ≠ '\x7b' := by decide
  exact hall d h

theorem mem_hexOfByte {b : UInt8} {c : Char} (h : c ∈ hexOfByte b) : ∃ d < 16, c = hexChar d := by
  have hb := b.toNat_lt
  simp only [hexOfByte, List.mem_cons, List.not_mem_nil, or_false] at h
  rcases h with rfl | rfl
  · exact ⟨_, by omega, rfl⟩
  · exact ⟨_, by omega, rfl⟩

theorem bytesOfHex?_flatMap (bytes : List UInt8) :
    bytesOfHex? (bytes.flatMap hexOfByte) = some bytes := by
  induction bytes with
  | nil => rfl
  | cons b bytes ih =>
    have hb := b.toNat_lt
    have hhigh : b.toNat / 16 < 16 := by omega
    have hlow : b.toNat % 16 < 16 := by omega
    have hbyte : 16 * (b.toNat / 16) + b.toNat % 16 = b.toNat := by omega
    simp only [List.flatMap_cons, hexOfByte, List.cons_append, List.nil_append, bytesOfHex?,
      hexValue?_hexChar hhigh, hexValue?_hexChar hlow, ih, Option.bind_eq_bind, Option.bind_some,
      hbyte, UInt8.ofNat_toNat]
    rfl

theorem length_flatMap_hexOfByte (bytes : List UInt8) :
    (bytes.flatMap hexOfByte).length = 2 * bytes.length := by
  induction bytes with
  | nil => rfl
  | cons b bytes ih =>
    rw [List.flatMap_cons, List.length_append, ih, List.length_cons]
    simp only [hexOfByte, List.length_cons, List.length_nil]
    omega

/-! ## Hyphens -/

/-- Five groups with hyphens between them. -/
def joined (as bs cs ds es : List Char) : List Char :=
  as ++ '-' :: bs ++ '-' :: cs ++ '-' :: ds ++ '-' :: es

theorem dropHyphens?_joined (ha : as.length = 8) (hb : bs.length = 4) (hc : cs.length = 4)
    (hd : ds.length = 4) (he : es.length = 12) :
    dropHyphens? (joined as bs cs ds es) = some (as ++ bs ++ cs ++ ds ++ es) := by
  simp [dropHyphens?, joined, List.drop_append, List.getElem?_append,
    List.getElem?_cons, List.drop_eq_nil_of_le, ha, hb, hc, hd, he]

/-- The ninth character is a hyphen, where the prefix of a URN has a colon. -/
theorem afterUrn?_joined (ha : as.length = 8) : afterUrn? (joined as bs cs ds es) = none := by
  have hne : ((joined as bs cs ds es).take 9).map Char.toLower ≠ "urn:uuid:".toList := by
    intro h
    have hninth := congrArg (·[8]?) h
    simp [joined, ha] at hninth
  rw [afterUrn?, if_neg hne]

theorem unbrace?_of_ne {c : Char} (hc : c ≠ '\x7b') (rest : List Char) :
    unbrace? (c :: rest) = none := by
  unfold unbrace?
  split
  next h => exact absurd (List.cons.inj h).1 hc
  next => rfl

theorem digitsOf?_joined (ha : as.length = 8) (hb : bs.length = 4) (hc : cs.length = 4)
    (hd : ds.length = 4) (he : es.length = 12) (hbrace : '\x7b' ∉ as) :
    digitsOf? (joined as bs cs ds es) = some (as ++ bs ++ cs ++ ds ++ es) := by
  have hlength : (joined as bs cs ds es).length ≠ 32 := by simp [joined, ha, hb, hc, hd, he]
  have hunbrace : unbrace? (joined as bs cs ds es) = none := by
    cases as with
    | nil => cases ha
    | cons a as => exact unbrace?_of_ne (List.ne_of_not_mem_cons hbrace).symm _
  rw [digitsOf?, if_neg hlength, unwrap?, hunbrace, afterUrn?_joined ha]
  exact dropHyphens?_joined ha hb hc hd he

/-! ## The text of a UUID -/

theorem text_eq_joined (u : Uuid) : u.text =
    joined ((u.bytes.flatMap hexOfByte).take 8) (((u.bytes.flatMap hexOfByte).drop 8).take 4)
      (((u.bytes.flatMap hexOfByte).drop 12).take 4)
      (((u.bytes.flatMap hexOfByte).drop 16).take 4) ((u.bytes.flatMap hexOfByte).drop 20) :=
  rfl

theorem take_append_groups (ds : List Char) :
    ds.take 8 ++ (ds.drop 8).take 4 ++ (ds.drop 12).take 4 ++ (ds.drop 16).take 4 ++ ds.drop 20 =
      ds := by
  simp only [← List.take_add, List.take_append_drop]

/-- **A UUID is read back from its text.** -/
theorem ofText_text (u : Uuid) : ofText u.text = .ok u := by
  have hlength : (u.bytes.flatMap hexOfByte).length = 32 := by
    rw [length_flatMap_hexOfByte, u.length_eq]
  have hbrace : '\x7b' ∉ (u.bytes.flatMap hexOfByte).take 8 := by
    intro h
    obtain ⟨b, -, hb⟩ := List.mem_flatMap.1 (List.mem_of_mem_take h)
    obtain ⟨d, hd, hc⟩ := mem_hexOfByte hb
    exact hexChar_ne_brace hd hc.symm
  have hdigits : digitsOf? u.text = some (u.bytes.flatMap hexOfByte) := by
    rw [text_eq_joined, digitsOf?_joined (by simp [hlength]) (by simp [hlength])
      (by simp [hlength]) (by simp [hlength]) (by simp [hlength]) hbrace, take_append_groups]
  rw [ofText, hdigits, Option.bind_some, bytesOfHex?_flatMap]
  exact dif_pos u.length_eq

theorem not_isBlank_of_mem_text {u : Uuid} {c : Char} (h : c ∈ u.text) : isBlank c = false := by
  have hdigit : c ∈ u.bytes.flatMap hexOfByte → isBlank c = false := by
    intro hc
    obtain ⟨b, -, hb⟩ := List.mem_flatMap.1 hc
    obtain ⟨d, hd, rfl⟩ := mem_hexOfByte hb
    exact not_isBlank_hexChar hd
  rw [text_eq_joined] at h
  simp only [joined, List.mem_append, List.mem_cons] at h
  rcases h with (((h | rfl | h) | rfl | h) | rfl | h) | rfl | h
  · exact hdigit (List.mem_of_mem_take h)
  · rfl
  · exact hdigit (List.mem_of_mem_drop (List.mem_of_mem_take h))
  · rfl
  · exact hdigit (List.mem_of_mem_drop (List.mem_of_mem_take h))
  · rfl
  · exact hdigit (List.mem_of_mem_drop (List.mem_of_mem_take h))
  · rfl
  · exact hdigit (List.mem_of_mem_drop h)

end TableDiff.Uuid
