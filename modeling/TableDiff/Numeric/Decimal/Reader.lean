import TableDiff.Numeric.Decimal

/-!
# Reading decimal text

A decimal text is an optional sign and digits with at most one point; underscores may stand after
the first digit. Where the digits do not fit the limits of a decimal, the reader either rounds
half up by the next digit and does not look at the rest (`ofText?`), or refuses (`ofTextExact?`).
`ofScientific?` reads a text with an exponent of ten.
-/

namespace TableDiff.Numeric.Decimal

open TableDiff.Text

/-- What happens to digits that do not fit. -/
inductive Surplus where
  | round
  | refuse
  deriving DecidableEq, Repr

/-- The decimal rounded up in its last place; a full mantissa gives up one decimal place. -/
def roundedUp? (negative : Bool) (mantissa scale : Nat) : Option Decimal :=
  if mantissa + 1 < mantissaLimit then ofUnsigned? negative (mantissa + 1) scale
  else if scale = 0 then none
  else ofUnsigned? negative ((mantissa + 5) / 10) (scale - 1)

/-- The decimal so far, settled by the first character that has no place in it. Where digits are
rounded, a point or an underscore in this place counts as the digit zero. -/
def settle? (surplus : Surplus) (negative : Bool) (mantissa scale : Nat) (c : Char) :
    Option Decimal :=
  match surplus with
  | .refuse => none
  | .round =>
    if isDigit c then
      if 5 ≤ digitValue c then roundedUp? negative mantissa scale
      else ofUnsigned? negative mantissa scale
    else if c = '_' ∨ c = '.' then ofUnsigned? negative mantissa scale
    else none

/-- What has been read: the digits as a number, how many of them stand after the point, whether
the point was seen and whether any digit was. -/
structure Progress where
  mantissa : Nat := 0
  scale : Nat := 0
  point : Bool := false
  started : Bool := false
  deriving DecidableEq, Repr

/-- The digit added to what has been read. -/
def Progress.push (p : Progress) (c : Char) : Progress :=
  { p with
    mantissa := 10 * p.mantissa + digitValue c
    scale := if p.point then p.scale + 1 else 0
    started := true }

/-- Reads the rest of a decimal text. -/
def scan (surplus : Surplus) (negative : Bool) (p : Progress) : List Char → Option Decimal
  | [] => if p.started then ofUnsigned? negative p.mantissa p.scale else none
  | c :: rest =>
    if p.scale = 28 then settle? surplus negative p.mantissa p.scale c
    else if isDigit c then
      if (p.push c).mantissa < mantissaLimit then scan surplus negative (p.push c) rest
      else if p.point then settle? surplus negative p.mantissa p.scale c
      else none
    else if c = '.' ∧ !p.point then scan surplus negative { p with point := true } rest
    else if c = '_' ∧ p.started then scan surplus negative p rest
    else none

/-- Reads a decimal text. -/
def read? (surplus : Surplus) : List Char → Option Decimal
  | '-' :: rest => scan surplus true {} rest
  | '+' :: rest => scan surplus false {} rest
  | cs => scan surplus false {} cs

/-- The decimal nearest to a decimal text. -/
def ofText? (cs : List Char) : Option Decimal := read? .round cs

/-- The decimal that a decimal text denotes, if all its digits fit. -/
def ofTextExact? (cs : List Char) : Option Decimal := read? .refuse cs

/-! ## Exponents -/

/-- The text before the first letter `e` of either case and the text after it. -/
def splitExponent? (cs : List Char) : Option (List Char × List Char) :=
  match cs.span (fun c => c ≠ 'e' && c ≠ 'E') with
  | (_, []) => none
  | (base, _ :: exponent) => some (base, exponent)

/-- Digits after an optional plus sign. -/
def readUnsigned? (cs : List Char) : Option Nat :=
  let ds := match cs with
    | '+' :: ds => ds
    | ds => ds
  if ds ≠ [] ∧ ds.all isDigit then some (natOfDigits ds) else none

/-- The decimal multiplied by `10 ^ n`: the scale goes down first, then zeros are appended. -/
def shiftUp? (d : Decimal) (n : Nat) : Option Decimal :=
  if n ≤ d.scale then ofParts? d.negative d.mantissa (d.scale - n)
  else if 28 < n then none
  else ofParts? d.negative (d.mantissa * Nat.pow 10 (n - d.scale)) 0

/-- The decimal divided by `10 ^ n`, which adds decimal places. -/
def shiftDown? (d : Decimal) (n : Nat) : Option Decimal :=
  ofParts? d.negative d.mantissa (d.scale + n)

/-- The decimal that a text with an exponent denotes, its digits rounded where they do not fit. -/
def ofScientific? (cs : List Char) : Option Decimal := do
  let (base, exponent) ← splitExponent? cs
  let d ← ofText? base
  match exponent with
  | '-' :: ds => d.shiftDown? (← readUnsigned? ds)
  | ds => d.shiftUp? (← readUnsigned? ds)

end TableDiff.Numeric.Decimal
