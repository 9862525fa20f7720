import TableDiff.Proofs.Text.Blank
import TableDiff.Toml.Quoted
import TableDiff.Toml.Scalar

/-!
# Written strings of TOML are read back

Whatever characters a text has, the string that is written for it is read back as the text
(`takeString?_quote`), up to where the string ends. Of the six cases of `quote` three are of one
form each, and three are of the two forms that can hold every text (`takeString?_shortBasic`,
`takeString?_longBasic`).

Where a string goes over several lines, quotes may stand in it as themselves, so its end is found by
counting: never more than two quotes stand in a row before the end of the text (`quotes_ahead`), and
the quotes at the end of the text are told from the three that close it (`takeClosing?_replicate`).
-/

namespace TableDiff.Toml

open TableDiff.Text

variable {q c : Char} {cs bs e rest : List Char} {fuel run : Nat}

/-! ## Characters -/

theorem isPlain_of_not_needsEscape (h : needsEscape c = false) : isPlain c = true ∨ c = '\n' := by
  simp only [needsEscape, Bool.or_eq_false_iff, Bool.and_eq_false_iff, decide_eq_false_iff_not,
    bne_eq_false_iff_eq, beq_eq_false_iff_ne] at h
  simp only [isPlain, Bool.or_eq_true, Bool.and_eq_true, decide_eq_true_eq]
  rcases h with ⟨(h | rfl) | rfl, hdelete⟩
  · exact .inl (.inr ⟨by omega, hdelete⟩)
  · exact .inl (.inl rfl)
  · exact .inr rfl

theorem ne_lineEnds_of_isPlain (h : isPlain c = true) : c ≠ '\n' ∧ c ≠ '\x0d' := by
  refine ⟨?_, ?_⟩ <;> rintro rfl <;> exact absurd h (by decide)

theorem dropNewline?_of_isPlain (h : isPlain c = true) (rest : List Char) :
    dropNewline? (c :: rest) = none := by
  obtain ⟨hfeed, hreturn⟩ := ne_lineEnds_of_isPlain h
  unfold dropNewline?
  split
  next heq => exact absurd (List.cons.inj heq).1 hfeed
  next heq => exact absurd (List.cons.inj heq).1 hreturn
  next => rfl

/-- An escape after its backslash: it stands for the character, and it is no line end. -/
structure Escapes (e : List Char) (c : Char) : Prop where
  read : ∀ rest, takeEscape? (e ++ rest) = some (c, rest)
  joins_not : ∀ rest, dropJoin? (e ++ rest) = none

theorem escapes_control {n : Nat} (h : n < 32 ∨ n = 127) :
    Escapes ['u', '0', '0', upperHex (n / 16), upperHex (n % 16)] (Char.ofNat n) := by
  have hall : ∀ n < 128, n < 32 ∨ n = 127 →
      (hexNumber? ['0', '0', upperHex (n / 16), upperHex (n % 16)]).bind scalar? =
        some (Char.ofNat n) := by decide
  refine ⟨fun rest => ?_, fun rest => rfl⟩
  have hlong : ¬ ('0' :: '0' :: upperHex (n / 16) :: upperHex (n % 16) :: rest).length < 4 := by
    simp
  simp only [List.cons_append, List.nil_append, takeEscape?]
  rw [if_neg hlong]
  simp only [List.take_succ_cons, List.take_zero, List.drop_succ_cons, List.drop_zero]
  rw [hall n (by omega) h]
  rfl

/-- A character other than a quote is written as itself or as an escape of its own. -/
theorem escape_cases (c : Char) :
    (escape c = [c] ∧ isPlain c = true ∧ c ≠ '\\') ∨ ∃ e, escape c = '\\' :: e ∧ Escapes e c := by
  by_cases hletter : c ∈ ['\x08', '\t', '\n', '\x0c', '\r', '\\']
  · right
    -- each of these has a letter of its own
    simp only [List.mem_cons, List.not_mem_nil, or_false] at hletter
    rcases hletter with rfl | rfl | rfl | rfl | rfl | rfl <;>
      exact ⟨_, rfl, fun _ => rfl, fun _ => rfl⟩
  · simp only [List.mem_cons, List.not_mem_nil, or_false, not_or] at hletter
    obtain ⟨hb, ht, hn, hf, hr, hescape⟩ := hletter
    rw [escape, if_neg hb, if_neg ht, if_neg hn, if_neg hf, if_neg hr, if_neg hescape]
    split
    next h =>
      refine .inr ⟨_, rfl, ?_⟩
      have hcontrol := escapes_control h
      rwa [Char.ofNat_toNat] at hcontrol
    next h =>
      refine .inl ⟨rfl, ?_, hescape⟩
      simp only [isPlain, Bool.or_eq_true, Bool.and_eq_true, decide_eq_true_eq]
      exact .inr (by omega)

/-- What is written for a character starts neither with a quote nor with a line end, a quote itself
apart. -/
theorem escape_head (hc : c ≠ '"') :
    ∃ d more, escape c = d :: more ∧ d ≠ '"' ∧ isPlain d = true := by
  rcases escape_cases c with ⟨hself, hplain, -⟩ | ⟨e, he, -⟩
  · exact ⟨c, [], hself, hc, hplain⟩
  · exact ⟨'\\', e, he, by decide, by decide⟩

theorem length_le_escapeFrom (long : Bool) (quotes run : Nat) (cs : List Char) :
    cs.length ≤ (escapeFrom long quotes run cs).length := by
  induction cs generalizing run with
  | nil => exact Nat.zero_le _
  | cons c cs ih =>
    rw [escapeFrom]
    split
    next =>
      split
      · exact Nat.succ_le_succ (ih (run + 1))
      · exact (Nat.succ_le_succ (ih 0)).trans (Nat.le_succ _)
    next hquote =>
      split
      next => exact Nat.succ_le_succ (ih 0)
      next =>
        obtain ⟨d, more, hescape, -⟩ := escape_head hquote
        have hcs := ih 0
        rw [hescape, List.length_append, List.length_cons, List.length_cons]
        omega

/-! ## Strings on one line -/

theorem takeBasic?_escape (h : Escapes e c) :
    takeBasic? (fuel + 1) ('\\' :: e ++ rest) = consChar c (takeBasic? fuel rest) := by
  rw [List.cons_append, takeBasic?, h.read]

theorem takeBasic?_plain (hc : isPlain c = true) (hquote : c ≠ '"') (hescape : c ≠ '\\') :
    takeBasic? (fuel + 1) (c :: rest) = consChar c (takeBasic? fuel rest) := by
  rw [takeBasic?, if_pos hc] <;> simp [hquote, hescape]

theorem takeBasic?_escapeFrom (h : cs.length < fuel) :
    takeBasic? fuel (escapeFrom false 0 0 cs ++ '"' :: rest) = some (cs, rest) := by
  induction cs generalizing fuel with
  | nil =>
    obtain ⟨fuel, rfl⟩ := Nat.exists_eq_add_one.2 h
    rfl
  | cons c cs ih =>
    obtain ⟨fuel, rfl⟩ := Nat.exists_eq_add_one.2 (Nat.zero_lt_of_lt h)
    have ih := ih (Nat.lt_of_succ_lt_succ h)
    rw [escapeFrom]
    split
    next hquote =>
      subst hquote
      have hread : Escapes ['"'] '"' := ⟨fun _ => rfl, fun _ => rfl⟩
      exact (takeBasic?_escape hread).trans (congrArg (consChar '"') ih)
    next hquote =>
      rw [if_neg (by simp), List.append_assoc]
      rcases escape_cases c with ⟨hself, hplain, hescape⟩ | ⟨e, he, hread⟩
      · rw [hself, List.singleton_append, takeBasic?_plain hplain hquote hescape, ih]
        rfl
      · rw [he, takeBasic?_escape hread, ih]
        rfl

theorem takeLiteral?_append (h : ∀ c ∈ cs, isPlain c = true ∧ c ≠ '\x27') :
    takeLiteral? (cs ++ '\x27' :: rest) = some (cs, rest) := by
  induction cs with
  | nil => rfl
  | cons c cs ih =>
    obtain ⟨⟨hplain, hquote⟩, hcs⟩ := List.forall_mem_cons.1 h
    rw [List.cons_append, takeLiteral?, if_pos hplain, ih hcs]
    · rfl
    · exact fun heq => absurd heq hquote

/-! ## The end of a string over several lines -/

theorem takeClosing?_eq_none (h : (cs.takeWhile (· = q)).length < 3) : takeClosing? q cs = none :=
  if_pos h

theorem takeWhile_replicate_append (hrest : Stops (· = q) rest) (n : Nat) :
    (List.replicate n q ++ rest).takeWhile (· = q) = List.replicate n q := by
  rw [List.takeWhile_append_of_pos fun c hc => decide_eq_true (List.eq_of_mem_replicate hc),
    hrest.takeWhile_eq, List.append_nil]

/-- The quotes at the end of a text are told from those that close the string. -/
theorem takeClosing?_replicate (hrest : Stops (· = q) rest) {n : Nat} (hn : n ≤ 2) :
    takeClosing? q (List.replicate n q ++ q :: q :: q :: rest) =
      some (List.replicate n q, rest) := by
  have hall : List.replicate n q ++ q :: q :: q :: rest = List.replicate (n + 3) q ++ rest := by
    rw [List.replicate_add, List.append_assoc]
    rfl
  have hinside : min (n + 3 - 3) 2 = n := by omega
  rw [takeClosing?, hall, takeWhile_replicate_append hrest, List.length_replicate,
    if_neg (by omega), hinside]
  simp

/-! ## Basic strings over several lines -/

theorem takeLongBasic?_closing {r : List Char × List Char} (h : takeClosing? '"' cs = some r) :
    takeLongBasic? (fuel + 1) cs = some r := by
  rw [takeLongBasic?.eq_def]
  simp only [h]

theorem takeLongBasic?_newline :
    takeLongBasic? (fuel + 1) ('\n' :: rest) = consChar '\n' (takeLongBasic? fuel rest) := by
  rw [takeLongBasic?, takeClosing?_eq_none (by simp)]
  · rfl
  · simp

theorem takeLongBasic?_escape (h : Escapes e c) :
    takeLongBasic? (fuel + 1) ('\\' :: e ++ rest) = consChar c (takeLongBasic? fuel rest) := by
  rw [List.cons_append, takeLongBasic?, takeClosing?_eq_none (by simp)]
  simp only [h.joins_not, h.read]

theorem takeLongBasic?_plain (hc : isPlain c = true) (hescape : c ≠ '\\')
    (hopen : ((c :: rest).takeWhile (· = '"')).length < 3) :
    takeLongBasic? (fuel + 1) (c :: rest) = consChar c (takeLongBasic? fuel rest) := by
  rw [takeLongBasic?, takeClosing?_eq_none hopen]
  · simp [dropNewline?_of_isPlain hc, hc]
  · exact fun h => absurd h hescape

/-- Before the end of a text no more quotes stand in a row than may, counted with those that stand
before. -/
theorem quotes_ahead (cs : List Char) (hrun : run ≤ 2) (rest : List Char) :
    (∃ n, n + run ≤ 2 ∧ cs = List.replicate n '"') ∨
      ((escapeFrom true 2 run cs ++ rest).takeWhile (· = '"')).length + run ≤ 2 := by
  induction cs generalizing run with
  | nil => exact .inl ⟨0, by omega, rfl⟩
  | cons c cs ih =>
    rw [escapeFrom]
    split
    next hquote =>
      subst hquote
      split
      next hmore =>
        rcases @ih (run + 1) hmore with ⟨n, hn, rfl⟩ | hlength
        · exact .inl ⟨n + 1, by omega, rfl⟩
        · right
          rw [List.cons_append, List.takeWhile_cons_of_pos (by simp), List.length_cons]
          omega
      next => exact .inr (by simpa using hrun)
    next hquote =>
      right
      split
      next => simpa using hrun
      next =>
        obtain ⟨d, more, hescape, hd, -⟩ := escape_head hquote
        rw [hescape]
        simpa [hd] using hrun

theorem escapeFrom_replicate {n : Nat} (h : n + run ≤ 2) :
    escapeFrom true 2 run (List.replicate n '"') = List.replicate n '"' := by
  induction n generalizing run with
  | zero => rfl
  | succ n ih =>
    rw [List.replicate_succ, escapeFrom, if_pos rfl, if_pos (by omega), ih (by omega)]

theorem takeLongBasic?_escapeFrom (hrest : Stops (· = '"') rest) (hrun : run ≤ 2)
    (h : cs.length < fuel) :
    takeLongBasic? fuel (escapeFrom true 2 run cs ++ '"' :: '"' :: '"' :: rest) =
      some (cs, rest) := by
  induction cs generalizing fuel run with
  | nil =>
    obtain ⟨fuel, rfl⟩ := Nat.exists_eq_add_one.2 h
    exact takeLongBasic?_closing (takeClosing?_replicate hrest (Nat.zero_le 2))
  | cons c cs ih =>
    obtain ⟨fuel, rfl⟩ := Nat.exists_eq_add_one.2 (Nat.zero_lt_of_lt h)
    have hfuel := Nat.lt_of_succ_lt_succ h
    rcases quotes_ahead (c :: cs) hrun ('"' :: '"' :: '"' :: rest) with ⟨n, hn, hcs⟩ | hopen
    · rw [hcs, escapeFrom_replicate hn]
      exact takeLongBasic?_closing (takeClosing?_replicate hrest (by omega))
    by_cases hquote : c = '"'
    · subst hquote
      rw [escapeFrom, if_pos rfl] at hopen ⊢
      split
      next hmore =>
        rw [if_pos hmore, List.cons_append] at hopen
        rw [List.cons_append, takeLongBasic?_plain (by decide) (by decide) (by omega),
          ih hmore hfuel]
        rfl
      next =>
        have hread : Escapes ['"'] '"' := ⟨fun _ => rfl, fun _ => rfl⟩
        exact (takeLongBasic?_escape hread).trans
          (congrArg (consChar '"') (ih (Nat.zero_le 2) hfuel))
    · have ih := ih (Nat.zero_le 2) hfuel
      rw [escapeFrom, if_neg hquote]
      split
      next hfeed =>
        rw [hfeed.1, List.cons_append, takeLongBasic?_newline, ih]
        rfl
      next =>
        rw [List.append_assoc]
        rcases escape_cases c with ⟨hself, hplain, hescape⟩ | ⟨e, he, hread⟩
        · rw [hself, List.singleton_append, takeLongBasic?_plain hplain hescape (by simp [hquote]),
            ih]
          rfl
        · rw [he, takeLongBasic?_escape hread, ih]
          rfl

/-! ## Runs of a character -/

theorem le_longestRunFrom (q : Char) (run best : Nat) (cs : List Char) :
    best ≤ longestRunFrom q run best cs := by
  induction cs generalizing run best with
  | nil => exact Nat.le_refl best
  | cons c cs ih =>
    rw [longestRunFrom]
    split
    · exact (Nat.le_max_left _ _).trans (ih _ _)
    · exact ih _ _

theorem length_takeWhile_cons_self (q : Char) (cs : List Char) :
    ((q :: cs).takeWhile (· = q)).length = (cs.takeWhile (· = q)).length + 1 := by
  simp

/-- A run at the start of the text goes on with the run before it. -/
theorem run_add_le_longestRunFrom (q : Char) (run best : Nat) (cs : List Char) :
    (cs.takeWhile (· = q)).length = 0 ∨
      run + (cs.takeWhile (· = q)).length ≤ longestRunFrom q run best cs := by
  induction cs generalizing run best with
  | nil => exact .inl rfl
  | cons c cs ih =>
    rw [longestRunFrom]
    split
    next hc =>
      right
      rw [hc, length_takeWhile_cons_self]
      have hbest := (Nat.le_max_right best (run + 1)).trans
        (le_longestRunFrom q (run + 1) (max best (run + 1)) cs)
      rcases ih (run + 1) (max best (run + 1)) with hzero | hrun <;> omega
    next hc => exact .inl (by simp [hc])

theorem takeWhile_le_longestRunFrom (run best : Nat) (h : bs <:+ cs) :
    (bs.takeWhile (· = q)).length ≤ longestRunFrom q run best cs := by
  induction cs generalizing run best with
  | nil =>
    rw [List.suffix_nil.1 h]
    exact Nat.zero_le _
  | cons c cs ih =>
    rcases List.suffix_cons_iff.1 h with rfl | hsuffix
    · rcases run_add_le_longestRunFrom q run best (c :: cs) with hzero | hrun <;> omega
    · rw [longestRunFrom]
      split
      · exact ih _ _ hsuffix
      · exact ih _ _ hsuffix

/-- No run of the character is longer than the longest one. -/
theorem takeWhile_le_longestRun (h : bs <:+ cs) :
    (bs.takeWhile (· = q)).length ≤ longestRun q cs := takeWhile_le_longestRunFrom 0 0 h

theorem notMem_of_longestRun_eq_zero (h : longestRun q cs = 0) : q ∉ cs := by
  intro hq
  obtain ⟨before, after, rfl⟩ := List.append_of_mem hq
  have hle := takeWhile_le_longestRun (q := q) (List.suffix_append before (q :: after))
  rw [h, length_takeWhile_cons_self] at hle
  omega

/-! ## Literal strings over several lines -/

theorem takeLongLiteral?_closing {r : List Char × List Char} (h : takeClosing? '\x27' cs = some r) :
    takeLongLiteral? (fuel + 1) cs = some r := by
  rw [takeLongLiteral?.eq_def]
  simp only [h]

theorem takeLongLiteral?_cons (hc : isPlain c = true ∨ c = '\n')
    (hopen : ((c :: rest).takeWhile (· = '\x27')).length < 3) :
    takeLongLiteral? (fuel + 1) (c :: rest) = consChar c (takeLongLiteral? fuel rest) := by
  rw [takeLongLiteral?, takeClosing?_eq_none hopen]
  rcases hc with hc | rfl
  · simp [dropNewline?_of_isPlain hc, hc]
  · rfl

theorem takeLongLiteral?_append (hrest : Stops (· = '\x27') rest) (hfew : longestRun '\x27' cs ≤ 2)
    (hcs : ∀ c ∈ cs, isPlain c = true ∨ c = '\n') (h : cs.length < fuel) :
    takeLongLiteral? fuel (cs ++ '\x27' :: '\x27' :: '\x27' :: rest) = some (cs, rest) := by
  have hsuffix : ∀ bs, bs <:+ cs → (bs.takeWhile (· = '\x27')).length ≤ 2 :=
    fun bs hbs => (takeWhile_le_longestRun hbs).trans hfew
  clear hfew
  induction cs generalizing fuel with
  | nil =>
    obtain ⟨fuel, rfl⟩ := Nat.exists_eq_add_one.2 h
    exact takeLongLiteral?_closing (takeClosing?_replicate hrest (Nat.zero_le 2))
  | cons c cs ih =>
    obtain ⟨fuel, rfl⟩ := Nat.exists_eq_add_one.2 (Nat.zero_lt_of_lt h)
    obtain ⟨hc, hcs⟩ := List.forall_mem_cons.1 hcs
    have hfew := hsuffix (c :: cs) (List.suffix_refl _)
    have hahead := @List.takeWhile_append Char (· = '\x27') (c :: cs)
      ('\x27' :: '\x27' :: '\x27' :: rest)
    split at hahead
    next hall =>
      -- only quotes are left of the text
      have hquotes : c :: cs = List.replicate (c :: cs).length '\x27' := by
        refine List.eq_replicate_of_mem fun d hd => ?_
        rw [← (List.takeWhile_prefix _).eq_of_length hall] at hd
        simpa using List.mem_takeWhile_imp hd
      rw [hall] at hfew
      rw [hquotes]
      exact takeLongLiteral?_closing (takeClosing?_replicate hrest hfew)
    next =>
      rw [List.cons_append, takeLongLiteral?_cons hc, ih hcs (Nat.lt_of_succ_lt_succ h)]
      · rfl
      · exact fun bs hbs => hsuffix bs (hbs.trans (List.suffix_cons c cs))
      · rw [← List.cons_append, hahead]
        omega

/-! ## Whole strings -/

theorem takeString?_of_short (h : ∀ r, bs ≠ q :: q :: r) :
    takeString? (q :: bs) = takeShortString? (q :: bs) := by
  unfold takeString?
  split
  next heq =>
    obtain ⟨rfl, rfl⟩ := List.cons.inj heq
    exact absurd rfl (h _)
  next heq =>
    obtain ⟨rfl, rfl⟩ := List.cons.inj heq
    exact absurd rfl (h _)
  next => rfl

/-- What may follow a written string: no quote. -/
structure EndsString (rest : List Char) : Prop where
  double : Stops (· = '"') rest
  single : Stops (· = '\x27') rest

theorem takeString?_shortBasic (hrest : EndsString rest) (cs : List Char) :
    takeString? (shortBasic cs ++ rest) = some (cs, rest) := by
  have hwritten : shortBasic cs ++ rest = '"' :: (escapeFrom false 0 0 cs ++ '"' :: rest) := by
    simp [shortBasic]
  rw [hwritten, takeString?_of_short]
  · refine takeBasic?_escapeFrom ?_
    have hlength := length_le_escapeFrom false 0 0 cs
    rw [List.length_append, List.length_cons]
    omega
  · intro r hr
    cases cs with
    | nil =>
      have hhead := hrest.double
      rw [(List.cons.inj hr).2] at hhead
      exact absurd hhead.head (by decide)
    | cons c cs =>
      rw [escapeFrom] at hr
      split at hr
      next => simp at hr
      next hquote =>
        obtain ⟨d, more, hescape, hd, -⟩ := escape_head hquote
        rw [if_neg (by simp), hescape] at hr
        exact hd (List.cons.inj hr).1

theorem takeString?_shortLiteral (hrest : EndsString rest)
    (hcs : ∀ c ∈ cs, isPlain c = true ∧ c ≠ '\x27') :
    takeString? (shortLiteral cs ++ rest) = some (cs, rest) := by
  have hwritten : shortLiteral cs ++ rest = '\x27' :: (cs ++ '\x27' :: rest) := by
    simp [shortLiteral]
  rw [hwritten, takeString?_of_short]
  · exact takeLiteral?_append hcs
  · intro r hr
    cases cs with
    | nil =>
      have hhead := hrest.single
      rw [(List.cons.inj hr).2] at hhead
      exact absurd hhead.head (by decide)
    | cons c cs => exact (List.forall_mem_cons.1 hcs).1.2 (List.cons.inj hr).1

/-- A line end that stands in front of a text because the text has one is dropped again, and no
other. -/
theorem dropFirstNewline_opening {inside : List Char}
    (h : '\n' ∉ cs → ∃ d more, inside = d :: more ∧ isPlain d = true) :
    dropFirstNewline ((if '\n' ∈ cs then ['\n'] else []) ++ inside) = inside := by
  split
  next => rfl
  next hfeed =>
    obtain ⟨d, more, rfl, hd⟩ := h hfeed
    rw [List.nil_append, dropFirstNewline, dropNewline?_of_isPlain hd]
    rfl

theorem longQuotes_append (quote : Char) (inside cs rest : List Char) :
    longQuotes quote inside cs ++ rest = quote :: quote :: quote ::
      ((if '\n' ∈ cs then ['\n'] else []) ++ (inside ++ quote :: quote :: quote :: rest)) := by
  simp [longQuotes]

theorem takeString?_longBasic (hrest : EndsString rest) (cs : List Char) :
    takeString? (longBasic cs ++ rest) = some (cs, rest) := by
  rw [longBasic, longQuotes_append, takeString?, dropFirstNewline_opening]
  · refine takeLongBasic?_escapeFrom hrest.double (Nat.zero_le 2) ?_
    have hlength := length_le_escapeFrom true 2 0 cs
    simp only [List.length_append, List.length_cons]
    omega
  · intro hfeed
    cases cs with
    | nil => exact ⟨'"', _, rfl, by decide⟩
    | cons c cs =>
      rw [escapeFrom]
      split
      next => exact ⟨'"', _, rfl, by decide⟩
      next hquote =>
        obtain ⟨d, more, hescape, -, hd⟩ := escape_head hquote
        have hnot : ¬ (c = '\n' ∧ true = true) := by
          rintro ⟨rfl, -⟩
          exact hfeed List.mem_cons_self
        rw [if_neg hnot, hescape]
        exact ⟨d, _, rfl, hd⟩

theorem takeString?_longLiteral (hrest : EndsString rest) (hfew : longestRun '\x27' cs ≤ 2)
    (hcs : ∀ c ∈ cs, isPlain c = true ∨ c = '\n') :
    takeString? (longLiteral cs ++ rest) = some (cs, rest) := by
  rw [longLiteral, longQuotes_append, takeString?, dropFirstNewline_opening]
  · refine takeLongLiteral?_append hrest.single hfew hcs ?_
    simp only [List.length_append, List.length_cons]
    omega
  · intro hfeed
    cases cs with
    | nil => exact ⟨'\x27', _, rfl, by decide⟩
    | cons c cs =>
      refine ⟨c, _, rfl, (hcs c List.mem_cons_self).resolve_right ?_⟩
      rintro rfl
      exact hfeed List.mem_cons_self

/-- **A text is read back from the string that is written for it.** -/
theorem takeString?_quote (hrest : EndsString rest) (s : String) :
    takeString? (quote s ++ rest) = some (s.toList, rest) := by
  have hplain : ∀ {cs : List Char}, ¬ cs.any needsEscape = true →
      ∀ c ∈ cs, isPlain c = true ∨ c = '\n' := by
    intro cs h c hc
    refine isPlain_of_not_needsEscape (Bool.eq_false_of_not_eq_true fun hneeds => ?_)
    exact h (List.any_eq_true.2 ⟨c, hc, hneeds⟩)
  simp only [quote]
  split_ifs with h1 h2 h3 h4 h5
  · exact takeString?_shortBasic hrest _
  · obtain ⟨hescapes, hsingle, hfeed⟩ := h2
    refine takeString?_shortLiteral hrest fun c hc => ⟨?_, ?_⟩
    · refine (hplain hescapes c hc).resolve_right ?_
      rintro rfl
      exact hfeed hc
    · rintro rfl
      exact notMem_of_longestRun_eq_zero hsingle hc
  · exact takeString?_longBasic hrest _
  · exact takeString?_longLiteral hrest h4.2 (hplain h4.1)
  · exact takeString?_longBasic hrest _
  · exact takeString?_shortBasic hrest _

end TableDiff.Toml
