import TableDiff.Json.Reader
import TableDiff.Proofs.Json.Numeral

/-!
# Tokens of written JSON

A string is read back from its quoted form, whatever characters it has (`takeString?_quote`). The
tokens of a JSON value stand in its indented text in their order, with blanks between some of them
that do not count (`lexes_pretty`); the text must not go on with something that a number could take
(`LiteralEnds`).
-/

namespace TableDiff.Json

open TableDiff.Text

variable {cs ds rest : List Char} {ts us : List Token} {t : Token} {c : Char}

/-! ## Strings -/

theorem hexUnit?_control {n : Nat} (h : n < 32) :
    hexUnit? '0' '0' (hexChar (n / 16)) (hexChar (n % 16)) = some n := by
  have hall : ∀ n < 32, hexUnit? '0' '0' (hexChar (n / 16)) (hexChar (n % 16)) = some n := by
    decide
  exact hall n h

theorem takeString?_control (h : c.toNat < 32) (cs : List Char) :
    takeString? ('\\' :: 'u' :: '0' :: '0' :: hexChar (c.toNat / 16) :: hexChar (c.toNat % 16) ::
      cs) = consChar c (takeString? cs) := by
  have hhigh : isHighSurrogate c.toNat = false := by
    simp only [isHighSurrogate, Bool.and_eq_false_iff, decide_eq_false_iff_not]
    omega
  have hlow : isLowSurrogate c.toNat = false := by
    simp only [isLowSurrogate, Bool.and_eq_false_iff, decide_eq_false_iff_not]
    omega
  rw [takeString?, hexUnit?_control h]
  simp [hhigh, hlow]

theorem takeString?_simple {d : Char} (hu : d ≠ 'u') (hd : simpleEscape? d = some c)
    (cs : List Char) : takeString? ('\\' :: d :: cs) = consChar c (takeString? cs) := by
  rw [takeString?, hd]
  exact fun _ _ _ _ _ h => absurd h hu

theorem takeString?_plain (hquote : c ≠ '"') (hescape : c ≠ '\\') (h : ¬ c.toNat < 32)
    (cs : List Char) : takeString? (c :: cs) = consChar c (takeString? cs) := by
  rw [takeString?, if_neg (by simp [h, hescape])] <;> simp [hquote, hescape]

/-- One character is read back from its escaped form. -/
theorem takeString?_escapeChar (c : Char) (cs : List Char) :
    takeString? (escapeChar c ++ cs) = consChar c (takeString? cs) := by
  by_cases hletter : c ∈ ['"', '\\', '\n', '\r', '\t', '\x08', '\x0c']
  · -- each of these has a letter of its own
    simp only [List.mem_cons, List.not_mem_nil, or_false] at hletter
    rcases hletter with rfl | rfl | rfl | rfl | rfl | rfl | rfl <;>
      exact takeString?_simple (by decide) rfl cs
  · simp only [List.mem_cons, List.not_mem_nil, or_false, not_or] at hletter
    obtain ⟨hquote, hescape, hn, hr, ht, hb, hf⟩ := hletter
    rw [escapeChar, if_neg hquote, if_neg hescape, if_neg hn, if_neg hr, if_neg ht, if_neg hb,
      if_neg hf]
    split
    next h => exact takeString?_control h cs
    next h => exact takeString?_plain hquote hescape h cs

theorem takeString?_flatMap (cs rest : List Char) :
    takeString? (cs.flatMap escapeChar ++ '"' :: rest) = some (cs, rest) := by
  induction cs with
  | nil => rw [List.flatMap_nil, List.nil_append, takeString?]
  | cons c cs ih =>
    rw [List.flatMap_cons, List.append_assoc, takeString?_escapeChar, ih]
    rfl

theorem takeToken?_quote (s : String) (rest : List Char) :
    takeToken? (quote s ++ rest) = some (.string s, rest) := by
  have hquote : quote s ++ rest = '"' :: (s.toList.flatMap escapeChar ++ '"' :: rest) := by
    simp [quote]
  rw [hquote, takeToken?, takeString?_flatMap, Option.map_some, String.ofList_toList]

/-! ## Texts and their tokens -/

/-- In front of `rest` the text has the given tokens, one reading step for each of them and at least
one character. -/
structure Lexes (cs : List Char) (ts : List Token) (rest : List Char) : Prop where
  length_le : ts.length ≤ cs.length
  scan (fuel : Nat) :
    scanTokens? (ts.length + fuel) (cs ++ rest) = (scanTokens? fuel rest).map (ts ++ ·)

theorem lexes_nil (rest : List Char) : Lexes [] [] rest := ⟨Nat.le_refl 0, fun fuel => by simp⟩

theorem Lexes.append (hcs : Lexes cs ts (ds ++ rest)) (hds : Lexes ds us rest) :
    Lexes (cs ++ ds) (ts ++ us) rest := by
  refine ⟨?_, fun fuel => ?_⟩
  · rw [List.length_append, List.length_append]
    exact Nat.add_le_add hcs.length_le hds.length_le
  · rw [List.append_assoc, List.length_append, Nat.add_assoc, hcs.scan, hds.scan, Option.map_map]
    congr 1
    funext vs
    exact (List.append_assoc ts us vs).symm

theorem scanTokens?_blank (hc : isJsonBlank c = true) (fuel : Nat) (cs : List Char) :
    scanTokens? fuel (c :: cs) = scanTokens? fuel cs := by
  rw [scanTokens?.eq_def, scanTokens?.eq_def fuel cs]
  simp only [List.dropWhile_cons_of_pos hc]

theorem scanTokens?_blanks (h : ∀ c ∈ cs, isJsonBlank c = true) (fuel : Nat) (rest : List Char) :
    scanTokens? fuel (cs ++ rest) = scanTokens? fuel rest := by
  induction cs with
  | nil => rfl
  | cons c cs ih =>
    obtain ⟨hc, hcs⟩ := List.forall_mem_cons.1 h
    rw [List.cons_append, scanTokens?_blank hc, ih hcs]

theorem lexes_token (hc : isJsonBlank c = false)
    (h : takeToken? (c :: (cs ++ rest)) = some (t, rest)) : Lexes (c :: cs) [t] rest := by
  refine ⟨Nat.le_add_left 1 cs.length, fun fuel => ?_⟩
  have hfuel : [t].length + fuel = fuel + 1 := Nat.add_comm 1 fuel
  rw [hfuel, scanTokens?.eq_def]
  simp [hc, h]

theorem Lexes.of_blanks (h : ∀ c ∈ cs, isJsonBlank c = true) (hds : Lexes ds ts rest) :
    Lexes (cs ++ ds) ts rest := by
  refine ⟨?_, fun fuel => ?_⟩
  · rw [List.length_append]
    exact Nat.le_add_left_of_le hds.length_le
  · rw [List.append_assoc, scanTokens?_blanks h, hds.scan]

theorem Lexes.of_blank (hc : isJsonBlank c = true) (h : Lexes cs ts rest) :
    Lexes (c :: cs) ts rest := by
  have hblank : ∀ d ∈ [c], isJsonBlank d = true := by
    intro d hd
    rw [List.mem_singleton.1 hd]
    exact hc
  exact h.of_blanks hblank

theorem Lexes.mark (hc : isJsonBlank c = false)
    (ht : ∀ r, takeToken? (c :: r) = some (t, r)) (h : Lexes cs ts rest) :
    Lexes (c :: cs) (t :: ts) rest := by
  have hmark : Lexes [c] [t] (cs ++ rest) := lexes_token hc (ht _)
  exact hmark.append h

theorem lexes_quote (s : String) (rest : List Char) : Lexes (quote s) [.string s] rest :=
  lexes_token rfl (takeToken?_quote s rest)

theorem lexes_intDigits (h : LiteralEnds rest) (i : Int) :
    Lexes (intDigits i) [.number (intDigits i)] rest := by
  have htoken := takeToken?_intDigits h i
  obtain ⟨c, ds, hcons, hc⟩ := exists_intDigits_cons i
  have hblank : isJsonBlank c = false := by
    rcases hc with rfl | hc
    · rfl
    · have hne : ∀ d, isDigit d = false → c ≠ d := fun d hd => ne_of_isDigit hc hd
      simp [isJsonBlank, hne ' ' rfl, hne '\n' rfl, hne '\t' rfl, hne '\r' rfl]
  rw [hcons] at htoken ⊢
  exact lexes_token hblank htoken

/-! ## The indented text of a value -/

/-- All numbers of the value are written as integers. -/
inductive IntegersOnly : Json → Prop
  | null : IntegersOnly .null
  | bool (b : Bool) : IntegersOnly (.bool b)
  | number (i : Int) : IntegersOnly (.number (intDigits i))
  | string (s : String) : IntegersOnly (.string s)
  | array {items : List Json} (h : ∀ j ∈ items, IntegersOnly j) : IntegersOnly (.array items)
  | object {members : List (String × Json)} (h : ∀ m ∈ members, IntegersOnly m.2) :
    IntegersOnly (.object members)

mutual

/-- The tokens of a value. -/
def tokens : Json → List Token
  | null => [.null]
  | bool b => [.bool b]
  | number literal => [.number literal]
  | string s => [.string s]
  | array items => .openBracket :: itemTokens items ++ [.closeBracket]
  | object members => .openBrace :: memberTokens members ++ [.closeBrace]

/-- The tokens of items with commas between them. -/
def itemTokens : List Json → List Token
  | [] => []
  | [j] => tokens j
  | j :: js => tokens j ++ .comma :: itemTokens js

/-- The tokens of members with commas between them. -/
def memberTokens : List (String × Json) → List Token
  | [] => []
  | [(name, j)] => .string name :: .colon :: tokens j
  | (name, j) :: ms => .string name :: .colon :: tokens j ++ .comma :: memberTokens ms

end

theorem isJsonBlank_of_mem_newline {level : Nat} (h : c ∈ newline level) :
    isJsonBlank c = true := by
  rcases List.mem_cons.1 h with rfl | h
  · rfl
  · rw [List.eq_of_mem_replicate h]
    rfl

theorem literalEnds_newline (level : Nat) (rest : List Char) :
    LiteralEnds (newline level ++ rest) :=
  stops_cons rfl

theorem literalEnds_comma : LiteralEnds (',' :: rest) := stops_cons rfl

mutual

theorem lexes_pretty (j : Json) (h : IntegersOnly j) (level : Nat) (rest : List Char)
    (hrest : LiteralEnds rest) : Lexes (prettyChars level j) (tokens j) rest := by
  match j, h with
  | .null, _ => exact lexes_token rfl rfl
  | .bool true, _ => exact lexes_token rfl rfl
  | .bool false, _ => exact lexes_token rfl rfl
  | .number _, .number i =>
    rw [prettyChars, tokens]
    exact lexes_intDigits hrest i
  | .string s, _ => exact lexes_quote s rest
  | .array [], _ => exact .mark rfl (fun _ => rfl) (lexes_token rfl rfl)
  | .object [], _ => exact .mark rfl (fun _ => rfl) (lexes_token rfl rfl)
  | .array (j :: js), .array h =>
    have hitems := lexes_items (j :: js) h (level + 1) (newline level ++ [']'] ++ rest)
      (List.append_assoc .. ▸ literalEnds_newline level _)
    have hend : Lexes (newline level ++ [']']) [.closeBracket] rest :=
      .of_blanks (fun _ => isJsonBlank_of_mem_newline) (lexes_token rfl rfl)
    rw [prettyChars, tokens, List.append_assoc, List.cons_append, List.cons_append]
    · exact .mark rfl (fun _ => rfl) (hitems.append hend)
    · exact List.cons_ne_nil j js
  | .object (m :: ms), .object h =>
    have hmembers := lexes_members (m :: ms) h (level + 1) (newline level ++ ['\x7d'] ++ rest)
      (List.append_assoc .. ▸ literalEnds_newline level _)
    have hend : Lexes (newline level ++ ['\x7d']) [.closeBrace] rest :=
      .of_blanks (fun _ => isJsonBlank_of_mem_newline) (lexes_token rfl rfl)
    rw [prettyChars, tokens, List.append_assoc, List.cons_append, List.cons_append]
    · exact .mark rfl (fun _ => rfl) (hmembers.append hend)
    · exact List.cons_ne_nil m ms

theorem lexes_items (items : List Json) (h : ∀ j ∈ items, IntegersOnly j) (level : Nat)
    (rest : List Char) (hrest : LiteralEnds rest) :
    Lexes (prettyItems level items) (itemTokens items) rest := by
  match items with
  | [] => exact lexes_nil rest
  | [j] =>
    rw [prettyItems, itemTokens]
    exact .of_blanks (fun _ => isJsonBlank_of_mem_newline)
      (lexes_pretty j (h j List.mem_cons_self) level rest hrest)
  | j :: k :: js =>
    have hfirst := lexes_pretty j (h j List.mem_cons_self) level
      (',' :: prettyItems level (k :: js) ++ rest) literalEnds_comma
    have hmore := lexes_items (k :: js) (fun i hi => h i (List.mem_cons_of_mem j hi)) level rest
      hrest
    rw [prettyItems, itemTokens, List.append_assoc]
    · exact .of_blanks (fun _ => isJsonBlank_of_mem_newline)
        (hfirst.append (.mark rfl (fun _ => rfl) hmore))
    · exact List.cons_ne_nil k js
    · exact List.cons_ne_nil k js

theorem lexes_members (members : List (String × Json)) (h : ∀ m ∈ members, IntegersOnly m.2)
    (level : Nat) (rest : List Char) (hrest : LiteralEnds rest) :
    Lexes (prettyMembers level members) (memberTokens members) rest := by
  have hmember : ∀ name {cs ts rest}, Lexes cs ts rest →
      Lexes (newline level ++ (quote name ++ ':' :: ' ' :: cs)) (.string name :: .colon :: ts)
        rest := by
    intro name cs ts rest hcs
    exact .of_blanks (fun _ => isJsonBlank_of_mem_newline)
      ((lexes_quote name _).append (.mark rfl (fun _ => rfl) (.of_blank rfl hcs)))
  match members with
  | [] => exact lexes_nil rest
  | [(name, j)] =>
    have hvalue := lexes_pretty j (h (name, j) List.mem_cons_self) level rest hrest
    rw [prettyMembers, memberTokens, List.append_assoc]
    exact hmember name hvalue
  | (name, j) :: k :: ms =>
    have hvalue := lexes_pretty j (h (name, j) List.mem_cons_self) level
      (',' :: prettyMembers level (k :: ms) ++ rest) literalEnds_comma
    have hmore := lexes_members (k :: ms) (fun i hi => h i (List.mem_cons_of_mem (name, j) hi))
      level rest hrest
    have hall := hmember name (hvalue.append (.mark rfl (fun _ => rfl) hmore))
    rw [prettyMembers, memberTokens]
    · simpa only [List.append_assoc, List.cons_append] using hall
    · exact List.cons_ne_nil k ms
    · exact List.cons_ne_nil k ms

end

theorem tokens?_pretty {j : Json} (h : IntegersOnly j) (level : Nat) :
    tokens? (prettyChars level j) = some (tokens j) := by
  have hlexes := lexes_pretty j h level [] stops_nil
  obtain ⟨fuel, hfuel⟩ := Nat.exists_eq_add_of_le hlexes.length_le
  have hscan := hlexes.scan fuel
  rw [List.append_nil, ← hfuel] at hscan
  have hend : scanTokens? fuel [] = some [] := by simp [scanTokens?.eq_def]
  rw [tokens?, hscan, hend, Option.map_some, List.append_nil]

end TableDiff.Json
