import TableDiff.Proofs.Filter.Reading
import TableDiff.Proofs.Text.LowerCase

/-!
# Texts that a wildcard pattern expands to

A pattern expands to the texts that are made from it by replacing each `*` by a run of characters
and each `?` by one character. Every text that fits a pattern is one of these
(`expandsLower_of_reads`), so a filter leaves out no column that its patterns do not describe
(`ColumnRules.leaves_out_described`). The converse holds for the texts without a star, and for no
others (`fits_of_expands_iff`).
-/

namespace TableDiff

open TableDiff.Text

namespace Wildcard

/-- What a character of a pattern can be replaced by. -/
def StandsFor (q : Char) (run : List Char) : Prop :=
  if q = '*' then True else if q = '?' then run.length = 1 else run = [q]

/-- A text is made from a pattern by replacing its characters, both in lower case. -/
def ExpandsLower (pattern text : List Char) : Prop :=
  ∃ runs, List.Forall₂ StandsFor pattern runs ∧ runs.flatten = text

/-- A text is made from a pattern by replacing its characters, in any case of letters. -/
def Expands (pattern text : String) : Prop :=
  ExpandsLower (toLower pattern.toList) (toLower text.toList)

/-- A pattern is made from a text by replacing parts of it by stars. -/
def Masks (pattern text : String) : Prop :=
  ∃ runs, List.Forall₂ (fun q run => q = '*' ∨ run = [q]) pattern.toList runs ∧
    runs.flatten = text.toList

variable {q c : Char} {pattern text s v : List Char}

/-! ## Expansions -/

theorem expandsLower_nil_iff : ExpandsLower [] text ↔ text = [] := by
  constructor
  · rintro ⟨runs, ⟨⟩, rfl⟩
    rfl
  · rintro rfl
    exact ⟨[], .nil, rfl⟩

theorem expandsLower_cons_iff : ExpandsLower (q :: pattern) text ↔
    ∃ run u, StandsFor q run ∧ ExpandsLower pattern u ∧ run ++ u = text := by
  constructor
  · rintro ⟨runs, h, rfl⟩
    cases h with
    | cons hq h => exact ⟨_, _, hq, ⟨_, h, rfl⟩, rfl⟩
  · rintro ⟨run, u, hq, ⟨runs, h, rfl⟩, rfl⟩
    exact ⟨run :: runs, .cons hq h, rfl⟩

theorem ExpandsLower.append (h : ExpandsLower pattern text) (h' : ExpandsLower s v) :
    ExpandsLower (pattern ++ s) (text ++ v) := by
  obtain ⟨runs, hruns, rfl⟩ := h
  obtain ⟨runs', hruns', rfl⟩ := h'
  exact ⟨runs ++ runs', List.rel_append hruns hruns', List.flatten_append⟩

theorem expandsLower_star (text : List Char) : ExpandsLower ['*'] text :=
  expandsLower_cons_iff.2 ⟨text, [], trivial, expandsLower_nil_iff.2 rfl, List.append_nil text⟩

theorem standsFor_of_meets (h : Meets q c) : StandsFor q [c] := by
  unfold StandsFor
  rcases h with rfl | rfl
  · exact rfl
  · split_ifs <;> trivial

theorem expandsLower_of_forall₂ (h : List.Forall₂ Meets pattern text) :
    ExpandsLower pattern text := by
  induction h with
  | nil => exact expandsLower_nil_iff.2 rfl
  | cons hq _ ih => exact expandsLower_cons_iff.2 ⟨_, _, standsFor_of_meets hq, ih, rfl⟩

/-! ## Readings and expansions -/

/-- What a pattern reads is one of the texts it expands to. -/
theorem expandsLower_of_reads (h : Reads pattern text) : ExpandsLower pattern text := by
  induction h with
  | done => exact expandsLower_nil_iff.2 rfl
  | along hq _ ih => exact expandsLower_cons_iff.2 ⟨_, _, standsFor_of_meets hq, ih, rfl⟩
  | star _ _ ih => exact expandsLower_cons_iff.2 ⟨_, _, trivial, ih, rfl⟩

theorem reads_of_expandsLower (h : ExpandsLower pattern text) (hstar : '*' ∉ text) :
    Reads pattern text := by
  induction pattern generalizing text with
  | nil =>
    rw [expandsLower_nil_iff.1 h]
    exact .done
  | cons q pattern ih =>
    obtain ⟨run, u, hq, hu, rfl⟩ := expandsLower_cons_iff.1 h
    have hrest : Reads pattern u := ih hu fun hmem => hstar (List.mem_append_right run hmem)
    unfold StandsFor at hq
    split_ifs at hq with h₁ h₂
    · subst h₁
      exact .star (fun hhead => hstar (List.mem_of_head? hhead)) hrest
    · obtain ⟨c, rfl⟩ := List.length_eq_one_iff.1 hq
      exact .along (.inl h₂) hrest
    · subst hq
      exact .along (.inr rfl) hrest

theorem fits_iff {pattern text : String} :
    fits pattern text = true ↔ Reads (toLower pattern.toList) (toLower text.toList) :=
  fitsLower_iff

theorem expands_of_fits {pattern text : String} (h : fits pattern text = true) :
    Expands pattern text :=
  expandsLower_of_reads (fits_iff.1 h)

theorem fits_of_expands {pattern text : String} (h : Expands pattern text)
    (hstar : '*' ∉ text.toList) : fits pattern text = true :=
  fits_iff.2 (reads_of_expandsLower h fun hmem => hstar (star_mem_toLower.1 hmem))

/-! ## Texts with a star -/

theorem reads_append_iff (h : List.Forall₂ Meets s v) :
    Reads (s ++ pattern) (v ++ text) ↔ Reads pattern text := by
  induction h with
  | nil => rfl
  | cons hq _ ih => rw [List.cons_append, List.cons_append, reads_along_iff hq, ih]

/-- A pattern without stars reads texts of its length only. -/
theorem length_eq_of_reads (h : Reads pattern text) (hstar : '*' ∉ pattern) :
    pattern.length = text.length := by
  induction h with
  | done => rfl
  | along _ _ ih =>
    rw [List.length_cons, List.length_cons, ih fun hmem => hstar (List.mem_cons_of_mem _ hmem)]
  | star => exact absurd List.mem_cons_self hstar

/-- One question mark for each character. -/
def questionMarks (text : List Char) : List Char := text.map fun _ => '?'

theorem forall₂_questionMarks (text : List Char) : List.Forall₂ Meets (questionMarks text) text :=
  List.forall₂_map_left_iff.2 (List.forall₂_same.2 fun _ _ => .inl rfl)

/-- A pattern that expands to a text with a star between the two parts, its own star to nothing. -/
def overlooking (before after : List Char) : List Char :=
  questionMarks before ++ '*' :: questionMarks ('*' :: after)

theorem expandsLower_overlooking (before after : List Char) :
    ExpandsLower (overlooking before after) (before ++ '*' :: after) := by
  have hbefore := expandsLower_of_forall₂ (forall₂_questionMarks before)
  have hafter := expandsLower_of_forall₂ (forall₂_questionMarks ('*' :: after))
  exact hbefore.append ((expandsLower_star []).append hafter)

/-- The star of the pattern meets that of the text and reads it, so one question mark is left. -/
theorem not_reads_overlooking (before after : List Char) :
    ¬ Reads (overlooking before after) (before ++ '*' :: after) := by
  rw [overlooking, reads_append_iff (forall₂_questionMarks before), reads_along_iff (.inr rfl)]
  intro h
  have hlength := length_eq_of_reads h (by simp [questionMarks])
  simp [questionMarks] at hlength

theorem toLower_overlooking (before after : List Char) :
    toLower (overlooking before after) = overlooking before after := by
  refine toLowerAfter_of_isSmall fun c hc => ?_
  have hcases : c = '?' ∨ c = '*' := by
    simp only [overlooking, questionMarks, List.mem_append, List.mem_cons, List.mem_map] at hc
    grind
  rcases hcases with rfl | rfl <;> decide +kernel

/-! ## Parts replaced by stars -/

theorem expandsLower_self (text : List Char) : ExpandsLower text text :=
  expandsLower_of_forall₂ (List.forall₂_same.2 fun _ _ => .inr rfl)

theorem sigma_notMem_of_masks {runs : List (List Char)}
    (h : List.Forall₂ (fun q run => q = '*' ∨ run = [q]) pattern runs)
    (hsigma : 'Σ' ∉ runs.flatten) : 'Σ' ∉ pattern := by
  induction h with
  | nil => exact List.not_mem_nil
  | cons hq _ ih =>
    rw [List.flatten_cons, List.mem_append, not_or] at hsigma
    rw [List.mem_cons, not_or]
    refine ⟨?_, ih hsigma.2⟩
    rcases hq with rfl | rfl
    · decide
    · simpa using hsigma.1

theorem expandsLower_of_masks {runs : List (List Char)}
    (h : List.Forall₂ (fun q run => q = '*' ∨ run = [q]) pattern runs) :
    ExpandsLower (pattern.flatMap lowerOf) (runs.flatten.flatMap lowerOf) := by
  induction h with
  | nil => exact expandsLower_nil_iff.2 rfl
  | cons hq _ ih =>
    rw [List.flatMap_cons, List.flatten_cons, List.flatMap_append]
    refine ExpandsLower.append ?_ ih
    rcases hq with rfl | rfl
    · exact expandsLower_star _
    · rw [List.flatMap_singleton]
      exact expandsLower_self _

theorem expands_of_masks {pattern text : String} (h : Masks pattern text)
    (hsigma : 'Σ' ∉ text.toList) : Expands pattern text := by
  obtain ⟨runs, hruns, hflat⟩ := h
  rw [← hflat] at hsigma
  rw [Expands, ← hflat, toLower_eq_flatMap hsigma,
    toLower_eq_flatMap (sigma_notMem_of_masks hruns hsigma)]
  exact expandsLower_of_masks hruns

/-! ## Every match is found -/

/-- A text with a star is overlooked by one of the patterns that expand to it. -/
theorem exists_overlooking {text : String} (h : '*' ∈ text.toList) :
    ∃ pattern : String, Expands pattern text ∧ fits pattern text = false := by
  obtain ⟨before, after, htext⟩ := List.append_of_mem (star_mem_toLower.2 h)
  refine ⟨String.ofList (overlooking before after), ?_, ?_⟩
  · rw [Expands, String.toList_ofList, toLower_overlooking, htext]
    exact expandsLower_overlooking before after
  · rw [← Bool.not_eq_true, fits_iff, String.toList_ofList, toLower_overlooking, htext]
    exact not_reads_overlooking before after

/-- **Every match is found in a text without a star**, and in no other text. The pattern `*` expands
to every text, and so does a pattern made from the text by replacing parts of it by stars, if no
capital sigma is mapped to lower case by what stands around it. -/
theorem fits_of_expands_iff (text : String) :
    ((∀ pattern, Expands pattern text → fits pattern text = true) ↔ '*' ∉ text.toList) ∧
      Expands "*" text ∧
      ∀ pattern, Masks pattern text → 'Σ' ∉ text.toList → Expands pattern text := by
  refine ⟨⟨fun hall hstar => ?_, fun hstar pattern h => fits_of_expands h hstar⟩,
    expandsLower_star _, fun pattern => expands_of_masks⟩
  obtain ⟨pattern, hexpands, hfits⟩ := exists_overlooking hstar
  exact absurd (hall pattern hexpands) (by simp [hfits])

/-- Two stars between three pieces that occur more than once. -/
theorem three_pieces_found :
    Masks "a*b*c" "aXXbYYbc" ∧ '*' ∉ "aXXbYYbc".toList ∧ fits "a*b*c" "aXXbYYbc" = true := by
  have hmasks : Masks "a*b*c" "aXXbYYbc" :=
    ⟨[['a'], ['X', 'X'], ['b'], ['Y', 'Y', 'b'], ['c']], by decide, by decide⟩
  have hstar : '*' ∉ "aXXbYYbc".toList := by decide
  obtain ⟨hfound, -, hmasked⟩ := fits_of_expands_iff "aXXbYYbc"
  exact ⟨hmasks, hstar, hfound.2 hstar _ (hmasked _ hmasks (by decide))⟩

/-- The star of the pattern reads the star of the text and nothing else. -/
theorem starred_text_not_found : Expands "*" "*a" ∧ fits "*" "*a" = false := by
  refine ⟨expandsLower_star _, ?_⟩
  have hpattern : toLower "*".toList = ['*'] := by decide
  have htext : toLower "*a".toList = ['*', 'a'] := by decide
  rw [← Bool.not_eq_true, fits_iff, hpattern, htext, reads_along_iff (.inr rfl)]
  exact fun h => nomatch h

/-- A capital sigma ends the word of the text, but stands alone behind the star. -/
theorem masked_sigma_not_found : Masks "*Σ" "ΑΣ" ∧ fits "*Σ" "ΑΣ" = false := by
  refine ⟨⟨[['Α'], ['Σ']], by decide, by decide⟩, ?_⟩
  have hpattern : toLower "*Σ".toList = ['*', 'σ'] := by decide +kernel
  have htext : toLower "ΑΣ".toList = ['α', 'ς'] := by decide +kernel
  rw [← Bool.not_eq_true, fits_iff, hpattern, htext]
  intro h
  obtain ⟨run, u, -, hu, hrun⟩ := expandsLower_cons_iff.1 (expandsLower_of_reads h)
  obtain ⟨last, rest, hlast, hrest, rfl⟩ := expandsLower_cons_iff.1 hu
  have hsigma : last = ['σ'] := hlast
  rw [expandsLower_nil_iff.1 hrest, List.append_nil, hsigma] at hrun
  exact absurd (congrArg List.getLast? hrun) (by simp)

end Wildcard

/-! ## Columns that a filter leaves out -/

namespace ColumnRules

variable {r : ColumnRules} {table column : String}

theorem accepts_eq_false_iff (h : r.included = []) :
    r.accepts table column = false ↔ ∃ pattern ∈ r.excluded, describes pattern table column := by
  simp [accepts, h]

/-- **No column is left out silently.** Where nothing is included by name, a column that is left
out is described by a pattern to exclude; and one that is described is left out, unless its name or
that of its table has a star. -/
theorem leaves_out_described (r : ColumnRules) (h : r.included = []) (table column : String) :
    (r.accepts table column = false → ∃ pattern ∈ r.excluded, Wildcard.Expands pattern
        (if '.' ∈ pattern.toList then table ++ "." ++ column else column)) ∧
      ('*' ∉ table.toList → '*' ∉ column.toList →
        (∃ pattern ∈ r.excluded, Wildcard.Expands pattern
          (if '.' ∈ pattern.toList then table ++ "." ++ column else column)) →
        r.accepts table column = false) := by
  constructor
  · intro hout
    obtain ⟨pattern, hmem, hfits⟩ := (accepts_eq_false_iff h).1 hout
    exact ⟨pattern, hmem, Wildcard.expands_of_fits hfits⟩
  · rintro htable hcolumn ⟨pattern, hmem, hexpands⟩
    refine (accepts_eq_false_iff h).2 ⟨pattern, hmem, Wildcard.fits_of_expands hexpands ?_⟩
    unfold subject
    split_ifs
    · simp [htable, hcolumn]
    · exact hcolumn

/-- A pattern for the columns of one table, in other letters than the names. -/
theorem orders_createdAt_left_out :
    (ColumnRules.mk [] ["ORDERS.CREATED_*"]).accepts "orders" "created_at" = false ∧
      ∃ pattern ∈ ["ORDERS.CREATED_*"], Wildcard.Expands pattern
        (if '.' ∈ pattern.toList then "orders" ++ "." ++ "created_at" else "created_at") := by
  have hpattern : toLower "ORDERS.CREATED_*".toList = "orders.created_".toList ++ ['*'] := by decide
  have hsubject : toLower ("orders" ++ "." ++ "created_at").toList =
      "orders.created_".toList ++ "at".toList := by decide
  have hexpands : Wildcard.Expands "ORDERS.CREATED_*" <|
      if '.' ∈ "ORDERS.CREATED_*".toList then "orders" ++ "." ++ "created_at" else "created_at" := by
    rw [if_pos (by decide), Wildcard.Expands, hpattern, hsubject]
    exact (Wildcard.expandsLower_self _).append (Wildcard.expandsLower_star _)
  obtain ⟨hdescribed, hout⟩ :=
    leaves_out_described ⟨[], ["ORDERS.CREATED_*"]⟩ rfl "orders" "created_at"
  have hleft := hout (by decide) (by decide) ⟨_, List.mem_singleton_self _, hexpands⟩
  exact ⟨hleft, hdescribed hleft⟩

end ColumnRules

end TableDiff
