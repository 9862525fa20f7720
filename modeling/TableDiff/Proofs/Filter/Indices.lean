import TableDiff.Proofs.Filter.Reading

/-!
# The wildcard matcher on indices

The loop on indices (`iterate`) fails where an access to a character, or the one to the rest of the
pattern at the end, is out of bounds. As its indices point at a position of the matcher, which works
on what is left of pattern and text (`Indices.PointsAt`), an iteration is the matcher's move from
this position. So no access fails, and the loop ends with the verdict of the matcher
(`loop_ends_within_bounds`).

On a mismatch the index of the text goes back, so no single index tells that the loop ends. What
gets smaller is `Indices.measure`, which compares first whether a star was met, then the text that
the last star does not cover, and then what is left of pattern and text.
-/

namespace TableDiff.Wildcard

open TableDiff.Text

/-! ## Bounds and measure -/

namespace Indices

/-- The indices are within their bounds, the text that is covered lies behind the loop, and the
star is one. -/
structure Within (i : Indices) (pattern text : List Char) : Prop where
  pattern_le : i.pattern ≤ pattern.length
  text_le : i.text ≤ text.length
  star : ∀ star covered, i.star? = some (star, covered) →
    pattern[star]? = some '*' ∧ covered ≤ i.text

/-- What becomes smaller with every iteration: whether no star was met, the text that the last star
does not cover, and what is left of pattern and text. -/
def measure (pattern text : List Char) (i : Indices) : Nat × Nat × Nat :=
  let left := (pattern.length - i.pattern) + (text.length - i.text)
  match i.star? with
  | none => (1, 0, left)
  | some (_, covered) => (0, text.length - covered, left)

/-- The order of measures. -/
def Smaller (pattern text : List Char) (i j : Indices) : Prop :=
  Prod.Lex (· < ·) (Prod.Lex (· < ·) (· < ·)) (i.measure pattern text) (j.measure pattern text)

theorem wellFounded_smaller (pattern text : List Char) : WellFounded (Smaller pattern text) :=
  InvImage.wf (measure pattern text)
    (Prod.lex Nat.lt_wfRel (Prod.lex Nat.lt_wfRel Nat.lt_wfRel)).wf

end Indices

/-! ## Accesses within the bounds -/

instance (q c : Char) : Decidable (Meets q c) := inferInstanceAs (Decidable (q = '?' ∨ q = c))

section Accesses

variable {cs rest pattern text patternRest textRest : List Char} {c q : Char} {n : Nat}
  {i : Indices}

theorem lt_length_of_drop (h : cs.drop n = c :: rest) : n < cs.length :=
  List.length_lt_of_drop_ne_nil (h ▸ List.cons_ne_nil c rest)

theorem getElem?_of_drop (h : cs.drop n = c :: rest) : cs[n]? = some c := by
  rw [← List.head?_drop, h]
  rfl

theorem drop_succ_of_drop (h : cs.drop n = c :: rest) : cs.drop (n + 1) = rest := by
  rw [← List.tail_drop, h]
  rfl

theorem charAt_of_drop (h : cs.drop n = c :: rest) : charAt cs n = .ok c := by
  rw [charAt, getElem?_of_drop h]

theorem readsNext_of_drop (hp : pattern.drop i.pattern = q :: patternRest)
    (ht : text.drop i.text = c :: textRest) :
    readsNext pattern text i = .ok (decide (Meets q c)) := by
  rw [readsNext, if_pos (lt_length_of_drop hp), charAt_of_drop hp, charAt_of_drop ht]
  by_cases hq : q = '?'
  · simp [hq, Meets, bind, Except.bind, pure, Except.pure]
  · simp [hq, Meets, bind, Except.bind, pure, Except.pure]

theorem readsNext_of_end (hp : pattern.drop i.pattern = []) :
    readsNext pattern text i = .ok false := by
  rw [readsNext, if_neg (Nat.not_lt.2 (List.drop_eq_nil_iff.1 hp))]
  rfl

theorem atStar_of_drop (hp : pattern.drop i.pattern = q :: patternRest) :
    atStar pattern i = .ok (decide (q = '*')) := by
  rw [atStar, if_pos (lt_length_of_drop hp), charAt_of_drop hp]
  rfl

theorem atStar_of_end (hp : pattern.drop i.pattern = []) : atStar pattern i = .ok false := by
  rw [atStar, if_neg (Nat.not_lt.2 (List.drop_eq_nil_iff.1 hp))]
  rfl

/-! ## The cases of an iteration -/

theorem iterate_along (hp : pattern.drop i.pattern = q :: patternRest)
    (ht : text.drop i.text = c :: textRest) (hq : Meets q c) :
    iterate pattern text i =
      .ok (.again { i with pattern := i.pattern + 1, text := i.text + 1 }) := by
  rw [iterate, if_pos (lt_length_of_drop ht), readsNext_of_drop hp ht, decide_eq_true hq]
  rfl

theorem iterate_star (hp : pattern.drop i.pattern = '*' :: patternRest)
    (ht : text.drop i.text = c :: textRest) (hc : c ≠ '*') :
    iterate pattern text i =
      .ok (.again { i with pattern := i.pattern + 1, star? := some (i.pattern, i.text) }) := by
  have hnot : ¬ Meets '*' c := by simpa [Meets] using hc.symm
  rw [iterate, if_pos (lt_length_of_drop ht), readsNext_of_drop hp ht, decide_eq_false hnot,
    atStar_of_drop hp]
  rfl

theorem iterate_stuck (hp : pattern.drop i.pattern = patternRest)
    (ht : text.drop i.text = c :: textRest) (hstuck : Stuck patternRest c) :
    iterate pattern text i = .ok (match i.star? with
      | some (star, covered) => .again ⟨star + 1, covered + 1, some (star, covered + 1)⟩
      | none => .ended false) := by
  have htests : readsNext pattern text i = .ok false ∧ atStar pattern i = .ok false := by
    cases patternRest with
    | nil => exact ⟨readsNext_of_end hp, atStar_of_end hp⟩
    | cons q rest =>
      obtain ⟨hq, hstar⟩ := hstuck q rfl
      rw [readsNext_of_drop hp ht, atStar_of_drop hp, decide_eq_false hstar, decide_eq_false hq]
      exact ⟨rfl, rfl⟩
  rw [iterate, if_pos (lt_length_of_drop ht), htests.1, htests.2]
  cases i.star? <;> rfl

theorem iterate_end (hp : i.pattern ≤ pattern.length) (ht : text.drop i.text = []) :
    iterate pattern text i = .ok (.ended ((pattern.drop i.pattern).all (· = '*'))) := by
  rw [iterate, if_neg (Nat.not_lt.2 (List.drop_eq_nil_iff.1 ht)), charsFrom, if_pos hp]
  rfl

end Accesses

/-! ## Iterations and moves -/

variable {pattern text : List Char} {i : Indices} {p p' : Position}

/-- What to go on with after a mismatch is what follows a star of the pattern, and the text that is
not covered. -/
inductive Marks (pattern text : List Char) : Option (Nat × Nat) → Option Retry → Prop
  | none : Marks pattern text none none
  | some {star covered : Nat} {later : List Char} (hstar : pattern.drop star = '*' :: later)
      (hcovered : covered ≤ text.length) :
      Marks pattern text (some (star, covered)) (some ⟨later, text.drop covered⟩)

theorem exists_of_marks {star? : Option (Nat × Nat)} {r : Retry}
    (h : Marks pattern text star? (some r)) : ∃ star covered, star? = some (star, covered) ∧
      pattern.drop star = '*' :: r.pattern ∧ covered ≤ text.length ∧
      text.drop covered = r.uncovered := by
  cases h with
  | some hstar hcovered => exact ⟨_, _, rfl, hstar, hcovered, rfl⟩

/-- While text is left, a star that was met can cover more of it, as the text that is left is part
of what the star does not cover. -/
theorem retry?_eq_none {c : Char} {rest : List Char} (ht : p.text = c :: rest)
    (hretry : p.retry?.bind Retry.position? = none) : p.retry? = none := by
  cases hr : p.retry? with
  | none => rfl
  | some r =>
    have hle := p.text_le r hr
    obtain ⟨later, uncovered⟩ := r
    rw [hr] at hretry
    cases uncovered with
    | nil => simp [ht] at hle
    | cons => cases hretry

namespace Indices

/-- The indices are those of a position of the matcher. -/
structure PointsAt (i : Indices) (pattern text : List Char) (p : Position) : Prop where
  pattern_le : i.pattern ≤ pattern.length
  text_le : i.text ≤ text.length
  pattern_eq : pattern.drop i.pattern = p.pattern
  text_eq : text.drop i.text = p.text
  marks : Marks pattern text i.star? p.retry?

namespace PointsAt

theorem start (pattern text : List Char) :
    ({} : Indices).PointsAt pattern text { pattern, text } :=
  ⟨Nat.zero_le _, Nat.zero_le _, rfl, rfl, .none⟩

theorem within (h : i.PointsAt pattern text p) : i.Within pattern text where
  pattern_le := h.pattern_le
  text_le := h.text_le
  star star covered hs := by
    have hmarks := h.marks
    rw [hs] at hmarks
    generalize hr : p.retry? = retry? at hmarks
    cases hmarks with
    | some hstar hcovered =>
      -- the text that is left is part of the text that is not covered
      have hle := p.text_le _ hr
      rw [← h.text_eq, List.length_drop, List.length_drop] at hle
      have := h.text_le
      exact ⟨getElem?_of_drop hstar, by omega⟩

theorem measure_eq (h : i.PointsAt pattern text p) : i.measure pattern text = p.measure := by
  have hmarks := h.marks
  unfold Indices.measure Position.measure
  rw [← h.pattern_eq, ← h.text_eq, List.length_drop, List.length_drop]
  generalize i.star? = star?, p.retry? = retry? at hmarks
  cases hmarks with
  | none => rfl
  | some => simp only [List.length_drop]

/-- Each move of the matcher is an iteration. -/
theorem next (h : i.PointsAt pattern text p) (hp : p.next? = some p') :
    ∃ i', iterate pattern text i = .ok (.again i') ∧ i'.PointsAt pattern text p' := by
  obtain ⟨-, -, hpattern, htext, hmarks⟩ := h
  cases moves_of_next? hp with
  | along hq =>
    exact ⟨_, iterate_along hpattern htext hq, lt_length_of_drop hpattern,
      lt_length_of_drop htext, drop_succ_of_drop hpattern, drop_succ_of_drop htext, hmarks⟩
  | star hc =>
    have hmarked := Marks.some hpattern (Nat.le_of_lt (lt_length_of_drop htext))
    rw [htext] at hmarked
    exact ⟨_, iterate_star hpattern htext hc, lt_length_of_drop hpattern,
      Nat.le_of_lt (lt_length_of_drop htext), drop_succ_of_drop hpattern, htext, hmarked⟩
  | back hstuck =>
    obtain ⟨star, covered, hs, hstar, -, hu⟩ := exists_of_marks hmarks
    have hmarked := Marks.some hstar (lt_length_of_drop hu)
    rw [drop_succ_of_drop hu] at hmarked
    have hiterate := iterate_stuck hpattern htext hstuck
    rw [hs] at hiterate
    exact ⟨_, hiterate, lt_length_of_drop hstar, lt_length_of_drop hu, drop_succ_of_drop hstar,
      drop_succ_of_drop hu, hmarked⟩

/-- Where the matcher has no move left, the loop ends with its verdict. -/
theorem last (h : i.PointsAt pattern text p) (hp : p.next? = none) :
    iterate pattern text i = .ok (.ended (p.text.isEmpty && p.pattern.all (· = '*'))) := by
  rcases next?_eq_none hp with ht | ⟨c, rest, ht, hstuck, hretry⟩
  · rw [iterate_end h.pattern_le (h.text_eq.trans ht), h.pattern_eq, ht]
    rfl
  · have hmarks := h.marks
    rw [retry?_eq_none ht hretry] at hmarks
    rw [iterate_stuck h.pattern_eq (h.text_eq.trans ht) hstuck, ht]
    generalize i.star? = star? at hmarks
    cases hmarks
    rfl

end PointsAt

end Indices

/-! ## The whole loop -/

theorem run_of_next? (h : p.next? = some p') : p.run = p'.run := by
  rw [Position.run]
  split
  next q hq =>
    cases h.symm.trans hq
    rfl
  next hnone => cases h.symm.trans hnone

theorem run_of_next?_eq_none (h : p.next? = none) :
    p.run = (p.text.isEmpty && p.pattern.all (· = '*')) := by
  rw [Position.run]
  split
  next q hq => cases h.symm.trans hq
  next => rfl

namespace Indices.PointsAt

/-- After any number of iterations the loop is at a position that the matcher comes to, or it has
ended with the matcher's verdict. -/
theorem iterations (h : i.PointsAt pattern text p) (k : Nat) :
    iterations pattern text k i = .ok (.ended p.run) ∨
      ∃ i' p', iterations pattern text k i = .ok (.again i') ∧ i'.PointsAt pattern text p' ∧
        p'.run = p.run := by
  induction k generalizing i p with
  | zero => exact .inr ⟨i, p, rfl, h, rfl⟩
  | succ k ih =>
    rw [Wildcard.iterations]
    cases hp : p.next? with
    | none =>
      rw [h.last hp, run_of_next?_eq_none hp]
      exact .inl rfl
    | some p' =>
      obtain ⟨i', hi', h'⟩ := h.next hp
      rw [hi', run_of_next? hp]
      exact ih h'

/-- The loop ends. -/
theorem exists_iterations (h : i.PointsAt pattern text p) :
    ∃ k, Wildcard.iterations pattern text k i = .ok (.ended p.run) := by
  -- along the moves of the matcher, each of which makes the measure smaller
  induction p using Position.run.induct generalizing i with
  | case1 p p' hp _ ih =>
    obtain ⟨i', hi', h'⟩ := h.next hp
    obtain ⟨k, hk⟩ := ih h'
    refine ⟨k + 1, ?_⟩
    rw [Wildcard.iterations, hi', run_of_next? hp]
    exact hk
  | case2 p hp =>
    refine ⟨1, ?_⟩
    rw [Wildcard.iterations, h.last hp, run_of_next?_eq_none hp]

/-- An iteration makes the measure smaller. -/
theorem smaller {i' : Indices} (h : i.PointsAt pattern text p)
    (hi : iterate pattern text i = .ok (.again i')) : i'.Smaller pattern text i := by
  cases hp : p.next? with
  | none =>
    rw [h.last hp] at hi
    cases hi
  | some p' =>
    obtain ⟨j, hj, h'⟩ := h.next hp
    rw [hi] at hj
    cases hj
    unfold Smaller
    rw [h.measure_eq, h'.measure_eq]
    exact smaller_of_next? hp

end Indices.PointsAt

/-- **The wildcard loop ends within its bounds.** Whatever the pattern and the text, no access to a
character or to the rest of the pattern is out of bounds, the remembered star is one of the pattern,
and each iteration makes a well-founded measure smaller. So the loop ends, and its verdict is that
of the matcher. -/
theorem loop_ends_within_bounds (pattern text : String) :
    let ps := toLower pattern.toList
    let ts := toLower text.toList
    (∀ k, iterations ps ts k {} = .ok (.ended (fits pattern text)) ∨
      ∃ i, iterations ps ts k {} = .ok (.again i) ∧ i.Within ps ts ∧
        ∀ i', iterate ps ts i = .ok (.again i') → i'.Smaller ps ts i) ∧
    WellFounded (Indices.Smaller ps ts) ∧
    ∃ k, iterations ps ts k {} = .ok (.ended (fits pattern text)) := by
  intro ps ts
  have hstart := Indices.PointsAt.start ps ts
  refine ⟨fun k => ?_, Indices.wellFounded_smaller ps ts, hstart.exists_iterations⟩
  rcases hstart.iterations k with hended | ⟨i, p, hi, hp, -⟩
  · exact .inl hended
  · exact .inr ⟨i, hi, hp.within, fun i' => hp.smaller⟩

/-- The third `a` of the text is no `b`: the star covers one `a` more, and the loop goes back by one
character of the text. -/
theorem second_attempt_smaller :
    let ps := toLower "*AAB".toList
    let ts := toLower "aaab".toList
    iterations ps ts 3 {} = .ok (.again ⟨3, 2, some (0, 0)⟩) ∧
      iterate ps ts ⟨3, 2, some (0, 0)⟩ = .ok (.again ⟨1, 1, some (0, 1)⟩) ∧
      Indices.Smaller ps ts ⟨1, 1, some (0, 1)⟩ ⟨3, 2, some (0, 0)⟩ := by
  intro ps ts
  have hps : ps = ['*', 'a', 'a', 'b'] := by decide
  have hts : ts = ['a', 'a', 'a', 'b'] := by decide
  have hthird : iterations ps ts 3 {} = .ok (.again ⟨3, 2, some (0, 0)⟩) := by
    rw [hps, hts]
    rfl
  have hback : iterate ps ts ⟨3, 2, some (0, 0)⟩ = .ok (.again ⟨1, 1, some (0, 1)⟩) := by
    rw [hps, hts]
    rfl
  refine ⟨hthird, hback, ?_⟩
  rcases (loop_ends_within_bounds "*AAB" "aaab").1 3 with hended | ⟨i, hi, -, hsmaller⟩
  · cases hthird.symm.trans hended
  · cases hthird.symm.trans hi
    exact hsmaller _ hback

end TableDiff.Wildcard
