import Mathlib.Data.List.Forall2
import TableDiff.Filter

/-!
# What the wildcard matcher decides

The matcher goes along the text once and returns to the last star only, but nothing is lost by
this: it succeeds exactly where the pattern reads the text (`fitsLower_iff`). A star reads any run
of characters, with one exception: a star that meets a star of the text reads this one alone, as
equality of characters is tried before the star.

When a star is met, the characters since the star before it were read one by one. Whatever else the
earlier star could cover leaves a part of the same text for the rest of the pattern
(`exists_reads_of_suffix`), which the later star can skip to as well. So the earlier star is
forgotten without loss (`Moves.readable_iff`).
-/

namespace TableDiff.Wildcard

/-! ## Readings and moves -/

/-- A character of the pattern that is no star reads a character of the text. -/
def Meets (q c : Char) : Prop := q = '?' ∨ q = c

/-- How a pattern reads a text. -/
inductive Reads : List Char → List Char → Prop
  | done : Reads [] []
  | along {q c : Char} {pattern text : List Char} (hq : Meets q c) (h : Reads pattern text) :
      Reads (q :: pattern) (c :: text)
  | star {pattern run text : List Char} (hrun : (run ++ text).head? ≠ some '*')
      (h : Reads pattern text) : Reads ('*' :: pattern) (run ++ text)

/-- The pattern is at its end, or its first character is no star and does not read the one of the
text. -/
def Stuck (pattern : List Char) (c : Char) : Prop :=
  ∀ q ∈ pattern.head?, ¬ Meets q c ∧ q ≠ '*'

/-- A move goes one character along, steps over a star, or returns to the last star, which then
covers one character more. -/
inductive Moves : Position → Position → Prop
  | along {q c : Char} {pattern text : List Char} { retry? : Option Retry} {h h'}
      (hq : Meets q c) :
      Moves ⟨q :: pattern, c :: text, retry?, h⟩ ⟨pattern, text, retry?, h'⟩
  | star {c : Char} {pattern text : List Char} { retry? : Option Retry} {h h'} (hc : c ≠ '*') :
      Moves ⟨'*' :: pattern, c :: text, retry?, h⟩
        ⟨pattern, c :: text, some ⟨pattern, c :: text⟩, h'⟩
  | back {c d : Char} {pattern text later uncovered : List Char} {h h'}
      (hstuck : Stuck pattern c) :
      Moves ⟨pattern, c :: text, some ⟨later, d :: uncovered⟩, h⟩
        ⟨later, uncovered, some ⟨later, uncovered⟩, h'⟩

variable {p p' : Position} {q c : Char} {pattern text s v w u : List Char}

/-! ## Readings by the first character of the pattern -/

theorem reads_along_iff (h : Meets q c) :
    Reads (q :: pattern) (c :: text) ↔ Reads pattern text := by
  refine ⟨fun hr => ?_, .along h⟩
  generalize ht : c :: text = t at hr
  cases hr with
  | along _ hr =>
    cases ht
    exact hr
  | star hrun hr =>
    rw [← ht] at hrun
    rcases h with h | rfl
    · cases h
    · exact absurd rfl hrun

theorem exists_suffix_of_reads (h : Reads (q :: pattern) text) :
    ∃ u, u <:+ text ∧ Reads pattern u := by
  cases h with
  | along _ h => exact ⟨_, List.suffix_cons _ _, h⟩
  | star _ h => exact ⟨_, List.suffix_append _ _, h⟩

theorem reads_star_iff (h : text.head? ≠ some '*') :
    Reads ('*' :: pattern) text ↔ ∃ u, u <:+ text ∧ Reads pattern u := by
  refine ⟨exists_suffix_of_reads, ?_⟩
  rintro ⟨u, ⟨run, rfl⟩, hr⟩
  exact .star h hr

theorem not_reads_of_stuck (h : Stuck pattern c) : ¬ Reads pattern (c :: text) := by
  intro hr
  generalize ht : c :: text = t at hr
  cases hr with
  | done => cases ht
  | along hq _ =>
    cases ht
    exact (h _ rfl).1 hq
  | star => exact (h '*' rfl).2 rfl

theorem reads_nil_iff : Reads pattern [] ↔ ∀ q ∈ pattern, q = '*' := by
  induction pattern with
  | nil => exact iff_of_true .done (by simp)
  | cons q pattern ih =>
    rw [List.forall_mem_cons, ← ih]
    by_cases hq : q = '*'
    · subst hq
      rw [reads_star_iff (by simp)]
      simp
    · refine iff_of_false (fun h => ?_) fun h => hq h.1
      generalize ht : ([] : List Char) = t at h
      cases h with
      | along => cases ht
      | star => exact hq rfl

/-- **Nothing is lost at a star.** If characters of the pattern read characters of the text one by
one, any reading of a later part of the text leaves a part of what follows them for the rest of the
pattern. -/
theorem exists_reads_of_suffix (h : List.Forall₂ Meets s v) (hu : u <:+ v ++ w)
    (hr : Reads (s ++ pattern) u) : ∃ u', u' <:+ w ∧ Reads pattern u' := by
  induction h generalizing u with
  | nil => exact ⟨u, hu, hr⟩
  | cons hq _ ih =>
    rcases List.suffix_cons_iff.1 hu with rfl | hu
    -- the other reading starts at the same place and goes along with this one
    · exact ih (List.suffix_refl _) ((reads_along_iff hq).1 hr)
    -- it starts later, and is still at this place or later when it has passed this character
    · obtain ⟨u', hu', hr'⟩ := exists_suffix_of_reads hr
      exact ih (hu'.trans hu) hr'

/-! ## Moves of the matcher -/

theorem moves_of_position? { retry? : Option Retry}
    {h : ∀ r ∈ retry?, (c :: text).length ≤ r.uncovered.length} (hstuck : Stuck pattern c)
    (hp : retry?.bind Retry.position? = some p') :
    Moves ⟨pattern, c :: text, retry?, h⟩ p' := by
  obtain ⟨⟨later, uncovered⟩, rfl, hback⟩ := Option.bind_eq_some_iff.1 hp
  cases uncovered with
  | nil => cases hback
  | cons d uncovered =>
    cases hback
    exact .back hstuck

/-- The text is at its end, or a move goes on in it, or the matcher is stuck and returns to the last
star if it can. -/
theorem next?_cases (p : Position) :
    p.text = [] ∧ p.next? = none ∨ (∃ p', p.next? = some p' ∧ Moves p p') ∨
      ∃ c text, p.text = c :: text ∧ Stuck p.pattern c ∧
        p.next? = p.retry?.bind Retry.position? := by
  obtain ⟨pattern, text, retry?, hle⟩ := p
  cases text with
  | nil => exact .inl ⟨rfl, rfl⟩
  | cons c text =>
    refine .inr ?_
    cases pattern with
    | nil => exact .inr ⟨c, text, rfl, by simp [Stuck], rfl⟩
    | cons q pattern =>
      by_cases hq : Meets q c
      · exact .inl ⟨_, if_pos hq, .along hq⟩
      · by_cases hstar : q = '*'
        · subst hstar
          exact .inl ⟨_, (if_neg hq).trans (if_pos rfl), .star fun hc => hq (.inr hc.symm)⟩
        · have hstuck : Stuck (q :: pattern) c := by
            rintro q ⟨⟩
            exact ⟨hq, hstar⟩
          exact .inr ⟨c, text, rfl, hstuck, (if_neg hq).trans (if_neg hstar)⟩

theorem moves_of_next? (h : p.next? = some p') : Moves p p' := by
  rcases next?_cases p with ⟨-, hnone⟩ | ⟨q, hq, hmoves⟩ | ⟨c, text, ht, hstuck, hback⟩
  · cases hnone.symm.trans h
  · cases hq.symm.trans h
    exact hmoves
  · obtain ⟨pattern, _, retry?, hle⟩ := p
    cases ht
    exact moves_of_position? hstuck (hback.symm.trans h)

/-- No move is left at the end of the text, or where the last star can cover no more. -/
theorem next?_eq_none (h : p.next? = none) :
    p.text = [] ∨ ∃ c text, p.text = c :: text ∧ Stuck p.pattern c ∧
      p.retry?.bind Retry.position? = none := by
  rcases next?_cases p with ⟨ht, -⟩ | ⟨q, hq, -⟩ | ⟨c, text, ht, hstuck, hback⟩
  · exact .inl ht
  · cases hq.symm.trans h
  · exact .inr ⟨c, text, ht, hstuck, hback.symm.trans h⟩

/-! ## What a position can still read -/

/-- The characters since the last star were read one by one. -/
def Position.Advanced (p : Position) : Prop :=
  ∀ r ∈ p.retry?, ∃ s v, List.Forall₂ Meets s v ∧
    s ++ p.pattern = r.pattern ∧ v ++ p.text = r.uncovered

/-- What is left is read, or would be if the last star covered more. -/
def Position.Readable (p : Position) : Prop :=
  Reads p.pattern p.text ∨
    ∃ r ∈ p.retry?, ∃ u, (u <:+ r.uncovered ∧ u ≠ r.uncovered) ∧ Reads r.pattern u

theorem Moves.advanced (h : Moves p p') (hp : p.Advanced) : p'.Advanced := by
  cases h with
  | along hq =>
    intro r hr
    obtain ⟨s, v, hsv, hs, hv⟩ := hp r hr
    refine ⟨s ++ [_], v ++ [_], List.rel_append hsv (.cons hq .nil), ?_, ?_⟩
    · rw [List.append_assoc]
      exact hs
    · rw [List.append_assoc]
      exact hv
  | star =>
    rintro r ⟨⟩
    exact ⟨[], [], .nil, rfl, rfl⟩
  | back =>
    rintro r ⟨⟩
    exact ⟨[], [], .nil, rfl, rfl⟩

/-- Whatever the last star could cover, the rest of the pattern reads a part of what is left. -/
theorem Position.Advanced.exists_reads (hp : p.Advanced) {r : Retry} (hr : r ∈ p.retry?)
    (hu : u <:+ r.uncovered) (h : Reads r.pattern u) :
    ∃ u', u' <:+ p.text ∧ Reads p.pattern u' := by
  obtain ⟨s, v, hsv, hs, hv⟩ := hp r hr
  rw [← hs] at h
  rw [← hv] at hu
  exact exists_reads_of_suffix hsv hu h

theorem readable_after_star_iff {h} :
    Position.Readable ⟨pattern, text, some ⟨pattern, text⟩, h⟩ ↔
      ∃ u, u <:+ text ∧ Reads pattern u := by
  constructor
  · rintro (hr | ⟨r, ⟨⟩, u, ⟨hu, -⟩, hr⟩)
    · exact ⟨text, List.suffix_refl _, hr⟩
    · exact ⟨u, hu, hr⟩
  · rintro ⟨u, hu, hr⟩
    by_cases h : u = text
    · subst h
      exact .inl hr
    · exact .inr ⟨_, rfl, u, ⟨hu, h⟩, hr⟩

/-- A move neither loses a reading nor finds a wrong one. -/
theorem Moves.readable_iff (h : Moves p p') (hp : p.Advanced) : p'.Readable ↔ p.Readable := by
  cases h with
  | along hq => exact or_congr_left (reads_along_iff hq).symm
  | @star c pattern text _ _ _ hc =>
    have hhead : (c :: text).head? ≠ some '*' := by simpa using hc
    rw [readable_after_star_iff, ← reads_star_iff hhead]
    refine ⟨.inl, ?_⟩
    rintro (hr | ⟨r, hr, u, ⟨hu, -⟩, h⟩)
    · exact hr
    · obtain ⟨u', hu', h⟩ := hp.exists_reads hr hu h
      obtain ⟨u'', hu'', h⟩ := exists_suffix_of_reads h
      exact (reads_star_iff hhead).2 ⟨u'', hu''.trans hu', h⟩
  | @back c d _ _ later uncovered _ _ hstuck =>
    rw [readable_after_star_iff]
    constructor
    · rintro ⟨u, hu, h⟩
      refine .inr ⟨_, rfl, u, ⟨hu.trans (List.suffix_cons d uncovered), ?_⟩, h⟩
      rintro rfl
      exact absurd hu.length_le (by simp)
    · rintro (hr | ⟨r, ⟨⟩, u, ⟨hu, hne⟩, h⟩)
      · exact absurd hr (not_reads_of_stuck hstuck)
      · exact ⟨u, (List.suffix_cons_iff.1 hu).resolve_left hne, h⟩

theorem readable_iff_of_next?_eq_none (h : p.next? = none) (hp : p.Advanced) :
    p.Readable ↔ p.text = [] ∧ ∀ q ∈ p.pattern, q = '*' := by
  rcases next?_eq_none h with ht | ⟨c, text, ht, hstuck, hretry⟩
  · rw [← reads_nil_iff, ← ht]
    refine ⟨?_, fun h => .inl h.2⟩
    rintro (hr | ⟨r, hr, u, ⟨hu, -⟩, h⟩)
    · exact ⟨rfl, hr⟩
    · obtain ⟨u', hu', h⟩ := hp.exists_reads hr hu h
      rw [ht] at hu'
      rw [List.suffix_nil.1 hu', ← ht] at h
      exact ⟨rfl, h⟩
  · refine iff_of_false ?_ (by simp [ht])
    rintro (hr | ⟨r, hr, u, ⟨hu, hne⟩, -⟩)
    · rw [ht] at hr
      exact not_reads_of_stuck hstuck hr
    · rw [hr, Option.bind_some] at hretry
      obtain ⟨later, uncovered⟩ := r
      cases uncovered with
      | nil => exact hne (List.suffix_nil.1 hu)
      | cons => cases hretry

/-! ## The whole run -/

theorem run_iff (hp : p.Advanced) : p.run = true ↔ p.Readable := by
  -- along the moves, each of which makes the measure smaller
  induction p using Position.run.induct with
  | case1 p p' h _ ih =>
    rw [Position.run]
    split
    next q hq =>
      cases h.symm.trans hq
      rw [ih ((moves_of_next? h).advanced hp), (moves_of_next? h).readable_iff hp]
    next hnone => cases h.symm.trans hnone
  | case2 p h =>
    rw [Position.run]
    split
    next q hq => cases h.symm.trans hq
    next =>
      rw [readable_iff_of_next?_eq_none h hp]
      simp

/-- **The matcher decides whether the pattern reads the text.** -/
theorem fitsLower_iff : fitsLower pattern text = true ↔ Reads pattern text := by
  have hp : Position.Advanced { pattern, text } := fun r hr => nomatch hr
  rw [fitsLower, run_iff hp]
  exact or_iff_left fun ⟨r, hr, _⟩ => nomatch hr

end TableDiff.Wildcard
