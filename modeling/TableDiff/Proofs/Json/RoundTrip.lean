import TableDiff.Proofs.Json.Tokens

/-!
# JSON is read back from its indented text

A reader with two steps for each token takes a value off its own tokens and leaves what follows them
(`takeValue?_tokens`). Since the indented text of a value has just these tokens, the value is read
back from it (`ofText?_pretty`).
-/

namespace TableDiff.Json

variable {fuel : Nat} {ts rest : List Token}

/-! ## Reading steps -/

theorem takeValue?_array (h : ∀ r, ts ≠ .closeBracket :: r) :
    takeValue? (fuel + 1) (.openBracket :: ts) =
      (takeItems? fuel ts).map fun p => (array p.1, p.2) := by
  rw [takeValue?]
  exact h

theorem takeValue?_object (h : ∀ r, ts ≠ .closeBrace :: r) :
    takeValue? (fuel + 1) (.openBrace :: ts) =
      (takeMembers? fuel ts).map fun p => (object p.1, p.2) := by
  rw [takeValue?]
  exact h

/-- No value starts with the bracket that closes an array. -/
theorem tokens_ne_closeBracket (j : Json) (us r : List Token) :
    tokens j ++ us ≠ .closeBracket :: r := by
  cases j <;> simp [tokens]

theorem itemTokens_ne_closeBracket (j : Json) (js : List Json) (us r : List Token) :
    itemTokens (j :: js) ++ us ≠ .closeBracket :: r := by
  cases js with
  | nil =>
    rw [itemTokens]
    exact tokens_ne_closeBracket j us r
  | cons k js =>
    rw [itemTokens, List.append_assoc]
    · exact tokens_ne_closeBracket j _ r
    · exact List.cons_ne_nil k js

theorem memberTokens_ne_closeBrace (m : String × Json) (ms : List (String × Json))
    (us r : List Token) : memberTokens (m :: ms) ++ us ≠ .closeBrace :: r := by
  cases ms <;> simp [memberTokens]

/-! ## Values -/

mutual

theorem takeValue?_tokens (j : Json) (fuel : Nat) (h : 2 * (tokens j).length ≤ fuel)
    (rest : List Token) : takeValue? fuel (tokens j ++ rest) = some (j, rest) := by
  match j, fuel with
  | .null, fuel + 1 => rfl
  | .bool b, fuel + 1 => rfl
  | .number l, fuel + 1 => rfl
  | .string s, fuel + 1 => rfl
  | .array [], fuel + 1 => rfl
  | .object [], fuel + 1 => rfl
  | .array (j :: js), fuel + 1 =>
    have hfuel : 2 * (itemTokens (j :: js)).length < fuel := by
      simp only [tokens, List.length_append, List.length_cons, List.length_nil] at h
      omega
    have hitems := takeItems?_itemTokens (j :: js) (List.cons_ne_nil j js) fuel hfuel rest
    rw [tokens, List.cons_append, List.cons_append, List.append_assoc,
      takeValue?_array fun r => itemTokens_ne_closeBracket j js _ r]
    exact congrArg (Option.map _) hitems
  | .object (m :: ms), fuel + 1 =>
    have hfuel : 2 * (memberTokens (m :: ms)).length < fuel := by
      simp only [tokens, List.length_append, List.length_cons, List.length_nil] at h
      omega
    have hmembers := takeMembers?_memberTokens (m :: ms) (List.cons_ne_nil m ms) fuel hfuel rest
    rw [tokens, List.cons_append, List.cons_append, List.append_assoc,
      takeValue?_object fun r => memberTokens_ne_closeBrace m ms _ r]
    exact congrArg (Option.map _) hmembers

theorem takeItems?_itemTokens (items : List Json) (hne : items ≠ []) (fuel : Nat)
    (h : 2 * (itemTokens items).length < fuel) (rest : List Token) :
    takeItems? fuel (itemTokens items ++ .closeBracket :: rest) = some (items, rest) := by
  match items, fuel with
  | [j], fuel + 1 =>
    rw [itemTokens] at h ⊢
    rw [takeItems?, takeValue?_tokens j fuel (by omega)]
  | j :: k :: js, fuel + 1 =>
    have hlength : (itemTokens (j :: k :: js)).length =
        (tokens j).length + ((itemTokens (k :: js)).length + 1) := by
      rw [itemTokens, List.length_append, List.length_cons]
      exact List.cons_ne_nil k js
    have hmore := takeItems?_itemTokens (k :: js) (List.cons_ne_nil k js) fuel (by omega) rest
    rw [itemTokens, takeItems?, List.append_assoc, takeValue?_tokens j fuel (by omega)]
    · exact congrArg (Option.map _) hmore
    · exact List.cons_ne_nil k js

theorem takeMembers?_memberTokens (members : List (String × Json)) (hne : members ≠ [])
    (fuel : Nat) (h : 2 * (memberTokens members).length < fuel) (rest : List Token) :
    takeMembers? fuel (memberTokens members ++ .closeBrace :: rest) = some (members, rest) := by
  match members, fuel with
  | [(name, j)], fuel + 1 =>
    have hlength : (memberTokens [(name, j)]).length = (tokens j).length + 2 := by
      rw [memberTokens, List.length_cons, List.length_cons]
    rw [memberTokens, List.cons_append, List.cons_append, takeMembers?,
      takeValue?_tokens j fuel (by omega)]
  | (name, j) :: k :: ms, fuel + 1 =>
    have hlength : (memberTokens ((name, j) :: k :: ms)).length =
        (tokens j).length + (memberTokens (k :: ms)).length + 3 := by
      rw [memberTokens]
      · simp only [List.length_append, List.length_cons]
        omega
      · exact List.cons_ne_nil k ms
    have hmore := takeMembers?_memberTokens (k :: ms) (List.cons_ne_nil k ms) fuel (by omega) rest
    rw [memberTokens, List.append_assoc, List.cons_append, List.cons_append, takeMembers?,
      takeValue?_tokens j fuel (by omega)]
    · exact congrArg (Option.map _) hmore
    · exact List.cons_ne_nil k ms

end

/-- **A value whose numbers are integers is read back from its indented text.** -/
theorem ofText?_pretty {j : Json} (h : IntegersOnly j) : ofText? j.pretty = some j := by
  have hvalue := takeValue?_tokens j (2 * (tokens j).length) (Nat.le_refl _) []
  rw [List.append_nil] at hvalue
  rw [ofText?, pretty, String.toList_ofList, ofChars?, tokens?_pretty h]
  simp only [hvalue]

end TableDiff.Json
