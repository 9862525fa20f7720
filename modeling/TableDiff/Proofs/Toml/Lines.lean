import Mathlib.Data.List.TakeDrop
import TableDiff.Proofs.Toml.Quoted
import TableDiff.Toml.Reader

/-!
# Written lines of TOML are read back

A written value, a string or an array of strings, is read in front of every text that a string may
end at (`Writes`), and a bare key in front of an equals sign or a bracket (`takeKey?_bare`). A text
whose lines are statements is read as these statements in front of every other text (`Lists`), so
texts are put together as their statements are (`Lists.append`), and the statements of a whole
document are those of its lines (`Lists.statements?_eq`).
-/

namespace TableDiff.Toml

open TableDiff.Text

variable {cs ds rest : List Char} {fuel : Nat} {key s : String} {v : Toml}
  {t : Statement} {ss : List Statement}

/-! ## Blanks -/

/-- The text starts with something to read: no blank, no line end and no comment. -/
def Begins (cs : List Char) : Prop :=
  ∃ c more, cs = c :: more ∧ isWhite c = false ∧ isPlain c = true ∧ c ≠ '#'

theorem Begins.skipWhite_eq (h : Begins cs) : skipWhite cs = cs := by
  obtain ⟨c, more, rfl, hwhite, -⟩ := h
  exact List.dropWhile_cons_of_neg (by simp [hwhite])

theorem Begins.skipComment_eq (h : Begins cs) : skipComment cs = cs := by
  obtain ⟨c, more, rfl, -, -, hcomment⟩ := h
  unfold skipComment
  split
  next heq => exact absurd (List.cons.inj heq).1 hcomment
  next => rfl

theorem Begins.dropNewline?_eq (h : Begins cs) : dropNewline? cs = none := by
  obtain ⟨c, more, rfl, -, hplain, -⟩ := h
  exact dropNewline?_of_isPlain hplain more

theorem Begins.skipLines_eq (h : Begins cs) (fuel : Nat) : skipLines fuel cs = cs := by
  cases fuel with
  | zero => rfl
  | succ fuel => simp only [skipLines, h.skipWhite_eq, h.skipComment_eq, h.dropNewline?_eq]

/-- A line end is passed over, and so are blanks behind it. -/
theorem skipLines_indented (hds : ds.all isWhite = true) (h : Begins cs) :
    skipLines ('\n' :: (ds ++ cs)).length ('\n' :: (ds ++ cs)) = cs := by
  have hwhite : skipWhite (ds ++ cs) = cs := by
    rw [skipWhite, List.dropWhile_append_of_pos (List.all_eq_true.1 hds)]
    exact h.skipWhite_eq
  obtain ⟨n, hn⟩ : ∃ n, (ds ++ cs).length = n + 1 := by
    obtain ⟨c, more, rfl, -⟩ := h
    exact ⟨ds.length + more.length, by simp [Nat.add_assoc]⟩
  change skipLines (ds ++ cs).length (ds ++ cs) = cs
  rw [hn]
  simp only [skipLines, hwhite, h.skipComment_eq, h.dropNewline?_eq]

/-! ## Values -/

/-- The text is read as the value in front of every text that a string may end at. -/
structure Writes (cs : List Char) (v : Toml) : Prop where
  begins : ∀ rest, Begins (cs ++ rest)
  read : ∀ {fuel rest}, cs.length < fuel → EndsString rest →
    takeValue? fuel (cs ++ rest) = some (v, rest)

theorem endsString_cons {c : Char} (h : c ≠ '"' ∧ c ≠ '\x27') (rest : List Char) :
    EndsString (c :: rest) :=
  ⟨stops_cons (by simp [h.1]), stops_cons (by simp [h.2])⟩

theorem quote_head (s : String) : ∃ c more, quote s = c :: more ∧ (c = '"' ∨ c = '\x27') := by
  simp only [quote]
  split_ifs
  · exact ⟨'"', _, rfl, .inl rfl⟩
  · exact ⟨'\x27', _, rfl, .inr rfl⟩
  · exact ⟨'"', _, rfl, .inl rfl⟩
  · exact ⟨'\x27', _, rfl, .inr rfl⟩
  · exact ⟨'"', _, rfl, .inl rfl⟩
  · exact ⟨'"', _, rfl, .inl rfl⟩

theorem writes_quote (s : String) : Writes (quote s) (.string s) := by
  obtain ⟨c, more, hquote, hc⟩ := quote_head s
  refine ⟨fun rest => ⟨c, more ++ rest, by rw [hquote]; rfl, ?_⟩, fun {fuel rest} hfuel hrest => ?_⟩
  · rcases hc with rfl | rfl <;> decide
  · obtain ⟨fuel, rfl⟩ := Nat.exists_eq_add_one.2 (Nat.zero_lt_of_lt hfuel)
    have hread := takeString?_quote hrest s
    rw [hquote, List.cons_append] at hread ⊢
    have hscalar : takeScalar? (c :: (more ++ rest)) = some (.string s, rest) := by
      unfold takeScalar?
      simp only [if_pos hc, hread, Option.map_some, String.ofList_toList]
    rcases hc with rfl | rfl
    · exact hscalar
    · exact hscalar

/-! ## Arrays of strings -/

theorem quote_append_ne_bracket (s : String) (ds rest : List Char) :
    quote s ++ ds ≠ ']' :: rest := by
  obtain ⟨c, more, hquote, hc⟩ := quote_head s
  rw [hquote]
  intro heq
  rw [(List.cons.inj heq).1] at hc
  exact absurd hc (by decide)

/-- A string in an array with a comma behind it. -/
theorem takeItems?_comma {vs : List Toml} (hcs : skipLines cs.length cs = quote s ++ ',' :: ds)
    (hfuel : (quote s).length < fuel) (hds : takeItems? fuel ds = some (vs, rest)) :
    takeItems? (fuel + 1) cs = some (.string s :: vs, rest) := by
  have hread := (writes_quote s).read hfuel (endsString_cons (c := ',') (by decide) ds)
  have hcomma : Begins (',' :: ds) := ⟨',', ds, rfl, by decide⟩
  rw [takeItems?.eq_def]
  simp only [hcs]
  split
  next heq => exact absurd heq (quote_append_ne_bracket s _ _)
  next =>
    simp only [hread, hcomma.skipLines_eq, hds, Option.bind_eq_bind, Option.bind_some]
    rfl

/-- The last string of an array. -/
theorem takeItems?_last (hcs : skipLines cs.length cs = quote s ++ ']' :: rest)
    (hfuel : (quote s).length < fuel) :
    takeItems? (fuel + 1) cs = some ([.string s], rest) := by
  have hread := (writes_quote s).read hfuel (endsString_cons (c := ']') (by decide) rest)
  have hbracket : Begins (']' :: rest) := ⟨']', rest, rfl, by decide⟩
  rw [takeItems?.eq_def]
  simp only [hcs]
  split
  next heq => exact absurd heq (quote_append_ne_bracket s _ _)
  next =>
    simp only [hread, hbracket.skipLines_eq, Option.bind_eq_bind, Option.bind_some]
    rfl

/-- The lines of an array that has an item to a line. -/
def itemLines (ss : List String) : List Char :=
  ss.flatMap fun s => "    ".toList ++ quote s ++ [',', '\n']

theorem takeItems?_itemLines (ss : List String) (rest : List Char)
    (hfuel : (itemLines ss).length < fuel) :
    takeItems? fuel ('\n' :: (itemLines ss ++ ']' :: rest)) = some (ss.map .string, rest) := by
  induction ss generalizing fuel with
  | nil =>
    obtain ⟨fuel, rfl⟩ := Nat.exists_eq_add_one.2 (Nat.zero_lt_of_lt hfuel)
    rfl
  | cons s ss ih =>
    obtain ⟨fuel, rfl⟩ := Nat.exists_eq_add_one.2 (Nat.zero_lt_of_lt hfuel)
    -- an item takes one step of the fuel, and its line has more characters than that
    have hlength : (itemLines (s :: ss)).length = (quote s).length + (itemLines ss).length + 6 := by
      simp [itemLines]
      omega
    have hlines : itemLines (s :: ss) ++ ']' :: rest =
        "    ".toList ++ (quote s ++ ',' :: '\n' :: (itemLines ss ++ ']' :: rest)) := by
      simp [itemLines]
    rw [hlines]
    exact takeItems?_comma (skipLines_indented (by decide) ((writes_quote s).begins _)) (by omega)
      (ih (by omega))

theorem writes_array {vs : List Toml}
    (h : ∀ {fuel rest}, cs.length < fuel → takeItems? fuel (cs ++ rest) = some (vs, rest)) :
    Writes ('[' :: cs) (.array vs) := by
  refine ⟨fun rest => ⟨'[', _, rfl, by decide⟩, fun {fuel rest} hfuel _ => ?_⟩
  obtain ⟨fuel, rfl⟩ := Nat.exists_eq_add_one.2 (Nat.zero_lt_of_lt hfuel)
  rw [List.cons_append, takeValue?, h (Nat.lt_of_succ_lt_succ hfuel)]
  rfl

theorem writes_empty : Writes ['[', ']'] (.array []) := by
  refine writes_array fun {fuel rest} hfuel => ?_
  obtain ⟨fuel, rfl⟩ := Nat.exists_eq_add_one.2 (Nat.zero_lt_of_lt hfuel)
  rfl

/-- An array of one string, on one line. -/
theorem writes_single (s : String) : Writes ('[' :: (quote s ++ [']'])) (.array [.string s]) := by
  refine writes_array fun {fuel rest} hfuel => ?_
  obtain ⟨fuel, rfl⟩ := Nat.exists_eq_add_one.2 (Nat.zero_lt_of_lt hfuel)
  rw [List.length_append, List.length_singleton] at hfuel
  rw [List.append_assoc]
  exact takeItems?_last (((writes_quote s).begins _).skipLines_eq _) (by omega)

theorem writes_itemLines (ss : List String) :
    Writes ('[' :: '\n' :: (itemLines ss ++ [']'])) (.array (ss.map .string)) := by
  refine writes_array fun {fuel rest} hfuel => ?_
  rw [List.length_cons, List.length_append] at hfuel
  rw [List.cons_append, List.append_assoc]
  exact takeItems?_itemLines ss rest (by omega)

/-! ## Keys -/

theorem isPlain_of_isKeyChar {c : Char} (h : isKeyChar c = true) : isPlain c = true := by
  simp only [isKeyChar, Bool.or_eq_true, decide_eq_true_eq] at h
  rcases h with (h | rfl) | rfl
  · have hranges : (65 ≤ c.toNat ∧ c.toNat ≤ 90 ∨ 97 ≤ c.toNat ∧ c.toNat ≤ 122) ∨
        48 ≤ c.toNat ∧ c.toNat ≤ 57 := by
      change ((decide (65 ≤ c.toNat ∧ c.toNat ≤ 90) ||
        (decide (97 ≤ c.toNat) && decide (c.toNat ≤ 122))) ||
        (decide (48 ≤ c.toNat) && decide (c.toNat ≤ 57))) = true at h
      simpa using h
    simp only [isPlain, Bool.or_eq_true, Bool.and_eq_true, decide_eq_true_eq]
    omega
  · decide
  · decide

theorem begins_of_isKeyChar {c : Char} (h : isKeyChar c = true) (rest : List Char) :
    Begins (c :: rest) := by
  have hne : ∀ d, isKeyChar d = false → c ≠ d := by
    rintro d hd rfl
    rw [h] at hd
    cases hd
  refine ⟨c, rest, rfl, ?_, isPlain_of_isKeyChar h, hne '#' (by decide)⟩
  simp [isWhite, hne ' ' (by decide), hne '\t' (by decide)]

/-- The key is written without quotes. -/
def IsBare (key : String) : Prop := key.toList ≠ [] ∧ key.toList.all isKeyChar = true

instance : DecidablePred IsBare := fun _ => inferInstanceAs (Decidable (_ ∧ _))

theorem IsBare.exists_cons (h : IsBare key) :
    ∃ c more, key.toList = c :: more ∧ isKeyChar c = true := by
  obtain ⟨c, more, hcons⟩ := List.exists_cons_of_ne_nil h.1
  exact ⟨c, more, hcons, List.all_eq_true.1 h.2 c (hcons ▸ List.mem_cons_self)⟩

theorem IsBare.begins (h : IsBare key) (rest : List Char) : Begins (key.toList ++ rest) := by
  obtain ⟨c, more, hcons, hc⟩ := h.exists_cons
  rw [hcons]
  exact begins_of_isKeyChar hc (more ++ rest)

theorem takeKeyPart?_bare (h : IsBare key) (hrest : Stops isKeyChar rest) :
    takeKeyPart? (key.toList ++ rest) = some (key, rest) := by
  have hkey := List.all_eq_true.1 h.2
  have hspan : (key.toList ++ rest).span isKeyChar = (key.toList, rest) := by
    rw [List.span_eq_takeWhile_dropWhile, List.takeWhile_append_of_pos hkey,
      List.dropWhile_append_of_pos hkey, hrest.takeWhile_eq, hrest.dropWhile_eq, List.append_nil]
  obtain ⟨c, more, hcons, -⟩ := h.exists_cons
  unfold takeKeyPart?
  simp only [hspan]
  split
  next heq => exact absurd (Prod.mk.inj heq).1 h.1
  next heq =>
    obtain ⟨rfl, rfl⟩ := Prod.mk.inj heq
    rw [String.ofList_toList]

theorem takeKey?_bare (h : IsBare key) (hrest : Stops isKeyChar rest)
    (hdot : Stops (· = '.') (skipWhite rest)) (hfuel : 0 < fuel) :
    takeKey? fuel (key.toList ++ rest) = some (([], key), skipWhite rest) := by
  obtain ⟨fuel, rfl⟩ := Nat.exists_eq_add_one.2 hfuel
  simp only [takeKey?, (h.begins rest).skipWhite_eq, takeKeyPart?_bare h hrest, Option.bind_eq_bind,
    Option.bind_some]
  split
  next heq =>
    rw [heq] at hdot
    exact absurd hdot.head (by decide)
  next => rfl

/-- A key in front of an equals sign and something to read. -/
theorem takeKeyEquals?_bare (h : IsBare key) (hcs : Begins cs) :
    takeKeyEquals? (key.toList ++ ' ' :: '=' :: ' ' :: cs) = some (([], key), cs) := by
  have hwhite : skipWhite (' ' :: cs) = cs := hcs.skipWhite_eq
  rw [takeKeyEquals?, takeKey?_bare h (stops_cons (by decide)) (stops_cons (by decide)) (by simp)]
  change some (([], key), skipWhite (' ' :: cs)) = _
  rw [hwhite]

/-! ## Statements -/

theorem IsBare.ne_bracket (h : IsBare key) (ds rest : List Char) :
    key.toList ++ ds ≠ '[' :: rest := by
  obtain ⟨c, more, hcons, hc⟩ := h.exists_cons
  rw [hcons]
  intro heq
  rw [(List.cons.inj heq).1] at hc
  exact absurd hc (by decide)

theorem takeStatement?_pair (h : IsBare key) (hcs : Writes cs v) (rest : List Char) :
    takeStatement? (key.toList ++ ' ' :: '=' :: ' ' :: (cs ++ '\n' :: rest)) =
      some (.pair [] key v, '\n' :: rest) := by
  have hread : takeValue? (2 * (cs ++ '\n' :: rest).length) (cs ++ '\n' :: rest) =
      some (v, '\n' :: rest) := by
    refine hcs.read ?_ (endsString_cons (by decide) rest)
    rw [List.length_append, List.length_cons]
    omega
  unfold takeStatement?
  split
  next heq => exact absurd heq (h.ne_bracket _ _)
  next =>
    simp only [takeKeyEquals?_bare h (hcs.begins _), hread, Option.bind_eq_bind, Option.bind_some]
    rfl

theorem takeStatement?_header (h : IsBare key) (rest : List Char) :
    takeStatement? ('[' :: (key.toList ++ ']' :: rest)) = some (.header [] key, rest) := by
  have hkey : takeKey? (key.toList ++ ']' :: rest).length (key.toList ++ ']' :: rest) =
      some (([], key), ']' :: rest) :=
    takeKey?_bare h (stops_cons (by decide)) (stops_cons (by decide)) (by simp)
  rw [takeStatement?]
  unfold takeHeader?
  split
  next heq => exact absurd heq (h.ne_bracket _ _)
  next =>
    rw [hkey]
    rfl

theorem takeStatement?_repeatedHeader (h : IsBare key) (rest : List Char) :
    takeStatement? ('[' :: '[' :: (key.toList ++ ']' :: ']' :: rest)) =
      some (.repeatedHeader [] key, rest) := by
  rw [takeStatement?, takeHeader?,
    takeKey?_bare h (stops_cons (by decide)) (stops_cons (by decide)) (by simp)]
  rfl

/-! ## Texts and their statements -/

/-- In front of every text the lines of the text are the given statements, one reading step for each
of them and at least one character. -/
structure Lists (cs : List Char) (ss : List Statement) : Prop where
  length_le : ss.length ≤ cs.length
  read (fuel : Nat) (rest : List Char) :
    statements? (ss.length + fuel) (cs ++ rest) = (statements? fuel rest).map (ss ++ ·)

theorem lists_nil : Lists [] [] := ⟨Nat.le_refl 0, fun fuel rest => by simp⟩

theorem Lists.append {ts : List Statement} (hcs : Lists cs ss) (hds : Lists ds ts) :
    Lists (cs ++ ds) (ss ++ ts) := by
  refine ⟨?_, fun fuel rest => ?_⟩
  · rw [List.length_append, List.length_append]
    exact Nat.add_le_add hcs.length_le hds.length_le
  · rw [List.append_assoc, List.length_append, Nat.add_assoc, hcs.read, hds.read, Option.map_map]
    congr 1
    funext us
    exact (List.append_assoc ss ts us).symm

theorem lists_flatMap {α : Type} {chars : α → List Char} {lines : α → List Statement}
    (h : ∀ a, Lists (chars a) (lines a)) (as : List α) :
    Lists (as.flatMap chars) (as.flatMap lines) := by
  induction as with
  | nil => exact lists_nil
  | cons a as ih => exact (h a).append ih

/-- A text with one statement on a line of its own. -/
theorem lists_line (hbegins : ∀ rest, Begins (cs ++ '\n' :: rest))
    (hread : ∀ rest, takeStatement? (cs ++ '\n' :: rest) = some (t, '\n' :: rest)) :
    Lists (cs ++ ['\n']) [t] := by
  refine ⟨by simp, fun fuel rest => ?_⟩
  have hrest : cs ++ ['\n'] ++ rest = cs ++ '\n' :: rest := List.append_assoc _ _ _
  rw [hrest, List.length_singleton, Nat.add_comm, statements?, (hbegins rest).skipLines_eq]
  split
  next heq => exact absurd heq (by simp)
  next =>
    simp only [hread, Option.bind_eq_bind, Option.bind_some]
    change (statements? fuel rest).bind _ = _
    cases statements? fuel rest <;> rfl

/-- An empty line in front of a statement does not count. -/
theorem Lists.after_blank (h : Lists cs [t]) : Lists ('\n' :: cs) [t] := by
  refine ⟨h.length_le.trans (Nat.le_succ _), fun fuel rest => ?_⟩
  rw [← h.read fuel rest, List.length_singleton, Nat.add_comm]
  rfl

theorem lists_pair (h : IsBare key) (hcs : Writes cs v) :
    Lists (key.toList ++ " = ".toList ++ cs ++ ['\n']) [.pair [] key v] := by
  refine lists_line (fun rest => ?_) fun rest => ?_
  · simpa using h.begins _
  · simpa using takeStatement?_pair h hcs rest

theorem lists_header (h : IsBare key) :
    Lists ('\n' :: ('[' :: (key.toList ++ [']']) ++ ['\n'])) [.header [] key] := by
  refine (lists_line (fun rest => ⟨'[', _, rfl, by decide⟩) fun rest => ?_).after_blank
  simpa using takeStatement?_header h ('\n' :: rest)

theorem lists_repeatedHeader (h : IsBare key) :
    Lists ('\n' :: ('[' :: '[' :: (key.toList ++ [']', ']']) ++ ['\n']))
      [.repeatedHeader [] key] := by
  refine (lists_line (fun rest => ⟨'[', _, rfl, by decide⟩) fun rest => ?_).after_blank
  simpa using takeStatement?_repeatedHeader h ('\n' :: rest)

theorem Lists.statements?_eq (h : Lists cs ss) : statements? cs.length cs = some ss := by
  have hend : ∀ fuel, statements? fuel [] = some [] := by
    intro fuel
    cases fuel <;> rfl
  have hread := h.read (cs.length - ss.length) []
  rw [hend, List.append_nil, Nat.add_sub_of_le h.length_le] at hread
  rw [hread, Option.map_some, List.append_nil]

end TableDiff.Toml
