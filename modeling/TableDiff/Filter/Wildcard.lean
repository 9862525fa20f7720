import TableDiff.Text.CaseMap

/-!
# Wildcard patterns

In a pattern `*` stands for any run of characters and `?` for any one character; letters match in
either case. The matcher walks along the text once and remembers the last `*` together with the
text that is left when the star covers one character more; on a mismatch it goes on from there.

The matcher works on what is left of pattern and text (`Position`). The same loop on indices into
the whole pattern and the whole text is `iterate`, with accesses that fail out of bounds.
-/

namespace TableDiff.Wildcard

/-- Where to go on after a mismatch: what follows the last `*` of the pattern, and the text that
is left after the characters that the star covers so far. -/
structure Retry where
  pattern : List Char
  uncovered : List Char

/-- What is left to be matched. -/
structure Position where
  pattern : List Char
  text : List Char
  retry? : Option Retry := none
  /-- The text that is left is part of the text that the last star does not cover. -/
  text_le : ∀ r ∈ retry?, text.length ≤ r.uncovered.length := by simp

/-- The position with the last star covering one character more. -/
def Retry.position? : Retry → Option Position
  | ⟨_, []⟩ => none
  | ⟨pattern, _ :: uncovered⟩ => some ⟨pattern, uncovered, some ⟨pattern, uncovered⟩, by simp⟩

/-- One move of the matcher while text is left: none if the text does not match. -/
def Position.next? (p : Position) : Option Position :=
  match ht : p.text with
  | [] => none
  | c :: text =>
    match p.pattern with
    | q :: pattern =>
      if q = '?' ∨ q = c then
        some ⟨pattern, text, p.retry?, fun r hr => by
          have := p.text_le r hr
          simp only [ht, List.length_cons] at this
          omega⟩
      else if q = '*' then some ⟨pattern, c :: text, some ⟨pattern, c :: text⟩, by simp⟩
      else p.retry?.bind Retry.position?
    | [] => p.retry?.bind Retry.position?

/-- What becomes smaller with every move: whether no star was met, the text that the last star
does not cover, and what is left of pattern and text. -/
def Position.measure (p : Position) : Nat × Nat × Nat :=
  match p.retry? with
  | none => (1, 0, p.pattern.length + p.text.length)
  | some r => (0, r.uncovered.length, p.pattern.length + p.text.length)

/-- The order of measures. -/
abbrev Position.Smaller (p q : Position) : Prop :=
  Prod.Lex (· < ·) (Prod.Lex (· < ·) (· < ·)) p.measure q.measure

/-- Going back makes the measure smaller: the last star leaves less of the text uncovered. -/
theorem smaller_of_position? {p p' : Position} (h : p.retry?.bind Retry.position? = some p') :
    p'.Smaller p := by
  obtain ⟨⟨pattern, uncovered⟩, hr, hback⟩ := Option.bind_eq_some_iff.1 h
  simp only [Position.Smaller, Position.measure, hr]
  cases uncovered with
  | nil => cases hback
  | cons d uncovered =>
    cases hback
    exact .right _ (.left _ _ (by simp))

/-- Every move makes the measure smaller, although the text that is left may grow. -/
theorem smaller_of_next? {p p' : Position} (h : p.next? = some p') : p'.Smaller p := by
  have hback := @smaller_of_position? p p'
  obtain ⟨pattern, text, retry?, text_le⟩ := p
  unfold Position.next? at h
  split at h
  · cases h
  · rename_i c text ht
    simp only at ht
    subst ht
    simp only at h
    split at h
    · rename_i q pattern
      split at h
      · simp only [Option.some.injEq] at h
        subst h
        cases retry? with
        | none => exact .right _ (.right _ (by simp; omega))
        | some r => exact .right _ (.right _ (by simp; omega))
      · split at h
        · simp only [Option.some.injEq] at h
          subst h
          cases retry? with
          | none => exact .left _ _ (by simp)
          | some r =>
            have := text_le r rfl
            simp only [List.length_cons] at this
            rcases Nat.lt_or_eq_of_le this with hlt | heq
            · exact .right _ (.left _ _ (by simpa using hlt))
            · simp only [Position.Smaller, Position.measure, List.length_cons, heq]
              exact .right _ (.right _ (by omega))
        · exact hback h
    · exact hback h

/-- Whether what is left matches. -/
def Position.run (p : Position) : Bool :=
  match h : p.next? with
  | some p' =>
    have := smaller_of_next? h
    p'.run
  | none => p.text.isEmpty && p.pattern.all (· = '*')
termination_by p.measure
decreasing_by exact this

/-- Whether a text matches a pattern, both in lower case. -/
def fitsLower (pattern text : List Char) : Bool := Position.run { pattern, text }

/-- Whether a text matches a pattern in any case of letters. -/
def fits (pattern text : String) : Bool :=
  fitsLower (Text.toLower pattern.toList) (Text.toLower text.toList)

/-! ## The loop on indices -/

/-- An access to a list at an index that it does not have. -/
structure OutOfBounds where
  index : Nat
  length : Nat

/-- The character at an index. -/
def charAt (cs : List Char) (i : Nat) : Except OutOfBounds Char :=
  match cs[i]? with
  | some c => .ok c
  | none => .error ⟨i, cs.length⟩

/-- The characters from an index on, which may be the end of the list. -/
def charsFrom (cs : List Char) (i : Nat) : Except OutOfBounds (List Char) :=
  if i ≤ cs.length then .ok (cs.drop i) else .error ⟨i, cs.length⟩

/-- Where the loop is. -/
structure Indices where
  pattern : Nat := 0
  text : Nat := 0
  /-- The last star of the pattern, and the end of the text that it covers so far. -/
  star? : Option (Nat × Nat) := none

/-- What an iteration leads to. -/
inductive Iteration where
  | again (i : Indices)
  | ended (verdict : Bool)

/-- Whether the pattern is not at its end and has a `?` there or the character of the text. -/
def readsNext (pattern text : List Char) (i : Indices) : Except OutOfBounds Bool :=
  if i.pattern < pattern.length then do
    let q ← charAt pattern i.pattern
    if q = '?' then return true
    let c ← charAt text i.text
    return q = c
  else return false

/-- Whether the pattern is not at its end and has a star there. -/
def atStar (pattern : List Char) (i : Indices) : Except OutOfBounds Bool :=
  if i.pattern < pattern.length then do
    let q ← charAt pattern i.pattern
    return q = '*'
  else return false

/-- One iteration while text is left, otherwise the verdict on what is left of the pattern. -/
def iterate (pattern text : List Char) (i : Indices) : Except OutOfBounds Iteration :=
  if i.text < text.length then do
    if ← readsNext pattern text i then
      return .again { i with pattern := i.pattern + 1, text := i.text + 1 }
    if ← atStar pattern i then
      return .again { i with pattern := i.pattern + 1, star? := some (i.pattern, i.text) }
    match i.star? with
    | some (star, covered) => return .again ⟨star + 1, covered + 1, some (star, covered + 1)⟩
    | none => return .ended false
  else do
    let rest ← charsFrom pattern i.pattern
    return .ended (rest.all (· = '*'))

/-- What the loop has come to after some iterations, or where it has ended before. -/
def iterations (pattern text : List Char) : Nat → Indices → Except OutOfBounds Iteration
  | 0, i => .ok (.again i)
  | k + 1, i =>
    match iterate pattern text i with
    | .ok (.again i') => iterations pattern text k i'
    | ended => ended

end TableDiff.Wildcard
