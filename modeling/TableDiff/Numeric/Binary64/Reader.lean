import TableDiff.Numeric.Binary64
import TableDiff.Text.Digits

/-!
# Reading floating point text

An optional sign, then digits with an optional point among or around them and an optional decimal
exponent, or one of the words `inf`, `infinity` and `nan` in any case of letters. The digits are
taken exactly and rounded once.
-/

namespace TableDiff.Numeric.Binary64

open TableDiff.Text

/-- Why a text is no floating point number. -/
inductive TextFault where
  | empty
  | invalid
  deriving DecidableEq, Repr

def TextFault.message : TextFault → String
  | .empty => "cannot parse float from empty string"
  | .invalid => "invalid float literal"

/-- The number nearest to `digits * 10 ^ e`. Exponents that are far out of the range of finite
numbers are decided without computing the power. -/
def ofScientific (negative : Bool) (digits : Nat) (e : Int) : Binary64 :=
  let size : Int := digitCount digits + e
  if digits = 0 ∨ size < -400 then ofParts negative 0
  else if 400 < size then infinity negative
  else
    let (n, d) := scaleBy 10 e digits 1
    ofRatio negative n d

/-- The leading digits of a text and what follows them. -/
def spanDigits (cs : List Char) : List Char × List Char := cs.span isDigit

/-- A decimal exponent that is the whole rest of a text; no text means the exponent zero. -/
def readExponent? : List Char → Option Int
  | [] => some 0
  | c :: rest =>
    if c = 'e' ∨ c = 'E' then
      let (minus, ds) := match rest with
        | '-' :: ds => (true, ds)
        | '+' :: ds => (false, ds)
        | ds => (false, ds)
      if ds ≠ [] ∧ ds.all isDigit then
        let n : Int := natOfDigits ds
        some (if minus then -n else n)
      else none
    else none

/-- Digits with an optional point and exponent, as an integer times a power of ten. -/
def readDecimal? (cs : List Char) : Option (Nat × Int) :=
  let (whole, rest) := spanDigits cs
  let (fraction, rest) := match rest with
    | '.' :: more => spanDigits more
    | _ => ([], rest)
  if whole = [] ∧ fraction = [] then none
  else (readExponent? rest).map fun e =>
    (natOfDigits (whole ++ fraction), e - fraction.length)

/-- One of the words for infinity and for NaN. -/
def readWord? (negative : Bool) (cs : List Char) : Option Binary64 :=
  let word := String.ofList (cs.map Char.toLower)
  if word = "inf" ∨ word = "infinity" then some (infinity negative)
  else if word = "nan" then some (nan negative)
  else none

/-- The number after the sign. -/
def readUnsigned? (negative : Bool) (cs : List Char) : Option Binary64 :=
  match readDecimal? cs with
  | some (n, e) => some (ofScientific negative n e)
  | none => readWord? negative cs

/-- The number that a text denotes. -/
def ofText (cs : List Char) : Except TextFault Binary64 :=
  let result := match cs with
    | '-' :: rest => readUnsigned? true rest
    | '+' :: rest => readUnsigned? false rest
    | _ => readUnsigned? false cs
  match result with
  | some x => .ok x
  | none => .error (if cs = [] then .empty else .invalid)

end TableDiff.Numeric.Binary64
