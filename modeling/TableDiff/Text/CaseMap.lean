import TableDiff.Text.CaseTable

/-!
# Upper and lower case of a text

The full case mappings of Unicode: one character may become several, and a capital sigma that
ends a word becomes the final small sigma. A sigma ends a word when the nearest character before
it that is not case-ignorable has case and the nearest such character after it has none.
-/

namespace TableDiff.Text

/-- The form of a code point under expansions, then runs; a code point in neither stays. -/
def mapCase (expansions : List (Nat × List Nat)) (runs : List CaseRun) (c : Char) : List Char :=
  match expansions.lookup c.toNat with
  | some ns => ns.map Char.ofNat
  | none =>
    match runs.findSome? (·.image? c.toNat) with
    | some n => [Char.ofNat n]
    | none => [c]

/-- The lower-case form of a character that stands alone. -/
def lowerOf (c : Char) : List Char :=
  if c.toNat < 128 then [c.toLower] else mapCase lowerExpansions lowerRuns c

/-- The upper-case form of a character. -/
def upperOf (c : Char) : List Char :=
  if c.toNat < 128 then [c.toUpper] else mapCase upperExpansions upperRuns c

/-- Whether the first character that is not case-ignorable has case. -/
def startsCased (cs : List Char) : Bool :=
  match cs.dropWhile isCaseIgnorable with
  | [] => false
  | c :: _ => isCased c

/-- The small sigma between the two texts; the text before it is given backwards. -/
def smallSigma (before after : List Char) : Char :=
  if startsCased before && !startsCased after then 'ς' else 'σ'

/-- The lower-case form of a text that follows `before`, which is given backwards. -/
def toLowerAfter (before : List Char) : List Char → List Char
  | [] => []
  | c :: cs =>
    (if c = 'Σ' then [smallSigma before cs] else lowerOf c) ++ toLowerAfter (c :: before) cs

/-- The lower-case form of a text. -/
def toLower (cs : List Char) : List Char := toLowerAfter [] cs

/-- The upper-case form of a text. -/
def toUpper (cs : List Char) : List Char := cs.flatMap upperOf

/-- The upper-case form of a name. -/
def upperName (s : String) : String := String.ofList (toUpper s.toList)

end TableDiff.Text
