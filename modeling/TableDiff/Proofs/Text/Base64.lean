import TableDiff.Proofs.Text.Blank
import TableDiff.Result
import TableDiff.Text.Base64

/-!
# Base 64 is read back

Each of the 64 symbols is one byte that stands for its own six bits (`sextet?_code`), and the groups
of a written text give back the bytes that they were written for (`decode_encode`), with the filling
of the last group.
-/

namespace TableDiff.Text.Base64

variable {n i start : Nat} {a b c : UInt8} {rest bytes : List UInt8} {t : Tail}

/-! ## Symbols -/

/-- The byte of the symbol for six bits. -/
def code (n : Nat) : UInt8 := UInt8.ofNat (symbol n).toNat

theorem utf8EncodeChar_symbol (h : n < 64) : String.utf8EncodeChar (symbol n) = [code n] := by
  have hall : ∀ n < 64, String.utf8EncodeChar (symbol n) = [code n] := by decide
  exact hall n h

theorem sextet?_code (h : n < 64) : sextet? (code n) = some n := by
  have hall : ∀ n < 64, sextet? (code n) = some n := by decide
  exact hall n h

theorem code_ne_pad (h : n < 64) : code n ≠ pad := by
  have hall : ∀ n < 64, code n ≠ pad := by decide
  exact hall n h

theorem not_isBlank_symbol (h : n < 64) : isBlank (symbol n) = false := by
  have hall : ∀ n < 64, isBlank (symbol n) = false := by decide
  exact hall n h

theorem sextetAt_code (h : n < 64) (offset : Nat) : sextetAt offset (code n) = .ok n := by
  rw [sextetAt, sextet?_code h]

theorem bits_lt (a b c : UInt8) : a.toNat / 4 < 64 ∧ a.toNat % 4 * 16 + b.toNat / 16 < 64 ∧
    b.toNat % 16 * 4 + c.toNat / 64 < 64 ∧ c.toNat % 64 < 64 := by
  have ha := a.toNat_lt
  have hb := b.toNat_lt
  have hc := c.toNat_lt
  omega

theorem threeBytes_bits (a b c : UInt8) :
    threeBytes (a.toNat / 4) (a.toNat % 4 * 16 + b.toNat / 16) (b.toNat % 16 * 4 + c.toNat / 64)
      (c.toNat % 64) = [a, b, c] := by
  have hc := c.toNat_lt
  have hb := b.toNat_lt
  have h1 : a.toNat / 4 * 4 + (a.toNat % 4 * 16 + b.toNat / 16) / 16 = a.toNat := by omega
  have h2 : (a.toNat % 4 * 16 + b.toNat / 16) % 16 * 16 + (b.toNat % 16 * 4 + c.toNat / 64) / 4 =
      b.toNat := by omega
  have h3 : (b.toNat % 16 * 4 + c.toNat / 64) % 4 * 64 + c.toNat % 64 = c.toNat := by omega
  rw [threeBytes, h1, h2, h3, UInt8.ofNat_toNat, UInt8.ofNat_toNat, UInt8.ofNat_toNat]

/-! ## The bytes of a written text -/

/-- The bytes of the text for some bytes. -/
def codes : List UInt8 → List UInt8
  | [] => []
  | [a] => [code (a.toNat / 4), code (a.toNat % 4 * 16), pad, pad]
  | [a, b] =>
    [code (a.toNat / 4), code (a.toNat % 4 * 16 + b.toNat / 16), code (b.toNat % 16 * 4), pad]
  | a :: b :: c :: rest =>
    code (a.toNat / 4) :: code (a.toNat % 4 * 16 + b.toNat / 16) ::
      code (b.toNat % 16 * 4 + c.toNat / 64) :: code (c.toNat % 64) :: codes rest

theorem utf8EncodeChar_pad : String.utf8EncodeChar '=' = [pad] := by decide

theorem flatMap_encode (bytes : List UInt8) :
    (encode bytes).flatMap String.utf8EncodeChar = codes bytes := by
  induction bytes using codes.induct with
  | case1 => rfl
  | case2 a =>
    have ha := bits_lt a 0 0
    have hlow : a.toNat % 4 * 16 < 64 := by omega
    simp [encode, codes, utf8EncodeChar_symbol ha.1, utf8EncodeChar_symbol hlow,
      utf8EncodeChar_pad]
  | case3 a b =>
    have hab := bits_lt a b 0
    have hlow : b.toNat % 16 * 4 < 64 := by omega
    simp [encode, codes, utf8EncodeChar_symbol hab.1, utf8EncodeChar_symbol hab.2.1,
      utf8EncodeChar_symbol hlow, utf8EncodeChar_pad]
  | case4 a b c rest ih =>
    obtain ⟨h1, h2, h3, h4⟩ := bits_lt a b c
    simp [encode, codes, utf8EncodeChar_symbol, h1, h2, h3, h4, ih]

theorem length_codes (bytes : List UInt8) : (codes bytes).length % 4 = 0 := by
  induction bytes using codes.induct with
  | case1 => rfl
  | case2 a => simp [codes]
  | case3 a b => simp [codes]
  | case4 a b c rest ih =>
    simp only [codes, List.length_cons]
    omega

/-! ## The last group -/

theorem scanTail_code (h : n < 64) (hpads : t.pads = 0) :
    scanTail start i t (code n :: rest) =
      scanTail start (i + 1) { t with sextets := t.sextets ++ [n], last := code n } rest := by
  rw [scanTail, if_neg (code_ne_pad h), if_neg (by omega), sextetAt_code h]
  rfl

theorem scanTail_pad (h : 2 ≤ i) : scanTail start i t (pad :: rest) =
    scanTail start (i + 1) { t with pads := t.pads + 1 } rest := by
  rw [scanTail, if_pos rfl, if_neg (by omega)]

theorem decodeTail_one (start : Nat) (a : UInt8) : decodeTail start (codes [a]) = .ok [a] := by
  have h1 := (bits_lt a 0 0).1
  have h2 : a.toNat % 4 * 16 < 64 := by omega
  have hlow : a.toNat % 4 * 16 % 16 = 0 := by omega
  have hbyte : a.toNat / 4 * 4 + a.toNat % 4 * 16 / 16 = a.toNat := by omega
  have hscan : scanTail start 0 {} (codes [a]) =
      .ok { sextets := [a.toNat / 4, a.toNat % 4 * 16], pads := 2,
            last := code (a.toNat % 4 * 16) } := by
    rw [codes, scanTail_code h1 rfl, scanTail_code h2 rfl, scanTail_pad (by decide),
      scanTail_pad (by decide)]
    rfl
  rw [decodeTail, bind_eq_ok]
  refine ⟨_, hscan, ?_⟩
  dsimp only [List.length_cons, List.length_nil]
  rw [if_neg (by decide), if_neg (by decide), if_neg (not_not_intro hlow), hbyte,
    UInt8.ofNat_toNat]

theorem decodeTail_two (start : Nat) (a b : UInt8) :
    decodeTail start (codes [a, b]) = .ok [a, b] := by
  have hb := b.toNat_lt
  obtain ⟨h1, h2, -⟩ := bits_lt a b 0
  have h3 : b.toNat % 16 * 4 < 64 := by omega
  have hlow : b.toNat % 16 * 4 % 4 = 0 := by omega
  have hfirst : a.toNat / 4 * 4 + (a.toNat % 4 * 16 + b.toNat / 16) / 16 = a.toNat := by omega
  have hsecond : (a.toNat % 4 * 16 + b.toNat / 16) % 16 * 16 + b.toNat % 16 * 4 / 4 =
      b.toNat := by omega
  have hscan : scanTail start 0 {} (codes [a, b]) =
      .ok { sextets := [a.toNat / 4, a.toNat % 4 * 16 + b.toNat / 16, b.toNat % 16 * 4], pads := 1,
            last := code (b.toNat % 16 * 4) } := by
    rw [codes, scanTail_code h1 rfl, scanTail_code h2 rfl, scanTail_code h3 rfl,
      scanTail_pad (by decide)]
    rfl
  rw [decodeTail, bind_eq_ok]
  refine ⟨_, hscan, ?_⟩
  dsimp only [List.length_cons, List.length_nil]
  rw [if_neg (by decide), if_neg (by decide), if_neg (not_not_intro hlow), hfirst, hsecond,
    UInt8.ofNat_toNat, UInt8.ofNat_toNat]

theorem decodeTail_three (start : Nat) (a b c : UInt8) :
    decodeTail start (codes [a, b, c]) = .ok [a, b, c] := by
  obtain ⟨h1, h2, h3, h4⟩ := bits_lt a b c
  have hscan : scanTail start 0 {} (codes [a, b, c]) =
      .ok { sextets := [a.toNat / 4, a.toNat % 4 * 16 + b.toNat / 16,
              b.toNat % 16 * 4 + c.toNat / 64, c.toNat % 64], pads := 0,
            last := code (c.toNat % 64) } := by
    rw [codes, scanTail_code h1 rfl, scanTail_code h2 rfl, scanTail_code h3 rfl,
      codes, scanTail_code h4 rfl]
    rfl
  rw [decodeTail, bind_eq_ok]
  refine ⟨_, hscan, ?_⟩
  dsimp only [List.length_cons, List.length_nil]
  rw [if_neg (by decide), if_neg (by decide), threeBytes_bits]

/-! ## All groups -/

theorem codes_ne_nil (a : UInt8) (rest : List UInt8) : codes (a :: rest) ≠ [] := by
  match rest with
  | [] => exact List.cons_ne_nil _ _
  | [_] => exact List.cons_ne_nil _ _
  | _ :: _ :: _ => exact List.cons_ne_nil _ _

theorem decodeFrom_codes (start : Nat) (bytes : List UInt8) :
    decodeFrom start (codes bytes) = .ok bytes := by
  induction bytes using codes.induct generalizing start with
  | case1 => rfl
  | case2 a => exact decodeTail_one start a
  | case3 a b => exact decodeTail_two start a b
  | case4 a b c rest ih =>
    cases rest with
    | nil => exact decodeTail_three start a b c
    | cons d rest =>
      obtain ⟨h1, h2, h3, h4⟩ := bits_lt a b c
      obtain ⟨e, more, hmore⟩ := List.exists_cons_of_ne_nil (codes_ne_nil d rest)
      have hrest := ih (start + 4)
      rw [hmore] at hrest
      rw [codes, hmore, decodeFrom, sextetAt_code h1, sextetAt_code h2, sextetAt_code h3,
        sextetAt_code h4, hrest]
      show Except.ok (threeBytes _ _ _ _ ++ (d :: rest)) = _
      rw [threeBytes_bits]
      rfl

/-- **Base 64 is read back as the bytes for which it was written.** -/
theorem decode_encode (bytes : List UInt8) : decode (encode bytes) = .ok bytes := by
  have hwhole := length_codes bytes
  have hstray : strayEnd? (codes bytes) = none := by
    unfold strayEnd?
    split
    · rw [if_neg (by omega)]
    · rfl
  rw [decode, flatMap_encode, hstray]
  exact decodeFrom_codes 0 bytes

theorem not_isBlank_of_mem_encode {c : Char} (h : c ∈ encode bytes) : isBlank c = false := by
  induction bytes using encode.induct with
  | case1 => cases h
  | case2 a =>
    have ha := (bits_lt a 0 0).1
    have hlow : a.toNat % 4 * 16 < 64 := by omega
    simp only [encode, List.mem_cons, List.not_mem_nil, or_false] at h
    rcases h with rfl | rfl | rfl | rfl
    · exact not_isBlank_symbol ha
    · exact not_isBlank_symbol hlow
    · rfl
    · rfl
  | case3 a b =>
    obtain ⟨h1, h2, -⟩ := bits_lt a b 0
    have hlow : b.toNat % 16 * 4 < 64 := by omega
    simp only [encode, List.mem_cons, List.not_mem_nil, or_false] at h
    rcases h with rfl | rfl | rfl | rfl
    · exact not_isBlank_symbol h1
    · exact not_isBlank_symbol h2
    · exact not_isBlank_symbol hlow
    · rfl
  | case4 a b d rest ih =>
    obtain ⟨h1, h2, h3, h4⟩ := bits_lt a b d
    simp only [encode, List.mem_cons] at h
    rcases h with rfl | rfl | rfl | rfl | h
    · exact not_isBlank_symbol h1
    · exact not_isBlank_symbol h2
    · exact not_isBlank_symbol h3
    · exact not_isBlank_symbol h4
    · exact ih h

end TableDiff.Text.Base64
