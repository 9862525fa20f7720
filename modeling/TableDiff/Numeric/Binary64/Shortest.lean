import TableDiff.Numeric.Binary64
import TableDiff.Text.Digits

/-!
# The shortest decimal digits of a floating point number

The digits written for a finite number are the fewest that read back as the same number and, among
those, the nearest to it. The reals that round to a number form an interval around it; for one,
two, … digits the two neighbours of the number on the grid of that many digits are tried, and the
first grid with a neighbour in the interval wins.

Two ways of writing the digits are here: `text` is positional throughout, and `jsonText` uses an
exponent for very large and very small numbers and always shows that the number is no integer
literal.
-/

namespace TableDiff.Numeric.Binary64

open TableDiff.Text

/-- Decimal digits times a power of ten. -/
structure Scientific where
  digits : Nat
  exponent : Int
  deriving DecidableEq, Repr

/-- What is done with a number half-way between the two candidates of a grid. -/
inductive TieRule where
  | up
  | even
  deriving DecidableEq, Repr

/-- The reals that round to a number, as multiples of a quarter of its unit in the last place:
the number itself, the lower end, the upper end, and whether the ends belong to it. -/
structure RoundingInterval where
  centre : Nat
  lower : Nat
  upper : Nat
  closed : Bool

/-- The interval of a positive finite number. Below a power of two the spacing halves. -/
def roundingInterval (x : Binary64) : RoundingInterval :=
  let m := x.significand
  { centre := 4 * m
    lower := if x.fractionBits = 0 ∧ 1 < x.exponentBits then 4 * m - 1 else 4 * m - 2
    upper := 4 * m + 2
    closed := m % 2 = 0 }

/-- Whether `num / den` lies in the interval, the quotient being in the interval's unit. -/
def RoundingInterval.contains (i : RoundingInterval) (num den : Nat) : Bool :=
  if i.closed then i.lower * den ≤ num && num ≤ i.upper * den
  else i.lower * den < num && num < i.upper * den

/-- The neighbour on one grid that lies in the interval and is the nearer one. The grid's points
are the multiples of `unitNum / unitDen` in the interval's unit. -/
def gridPoint? (tie : TieRule) (i : RoundingInterval) (unitNum unitDen : Nat) : Option Nat :=
  let below := i.centre * unitDen / unitNum
  let above := below + 1
  let down := i.contains (below * unitNum) unitDen && 0 < below
  let up := i.contains (above * unitNum) unitDen
  let toBelow := i.centre * unitDen - below * unitNum
  let toAbove := above * unitNum - i.centre * unitDen
  if down && up then
    if toBelow < toAbove then some below
    else if toAbove < toBelow then some above
    else match tie with
      | .up => some above
      | .even => some (if below % 2 = 0 then below else above)
  else if down then some below
  else if up then some above
  else none

/-- The digits without trailing zeros, the exponent raised accordingly. -/
def Scientific.normalize : Nat → Scientific → Scientific
  | 0, s => s
  | fuel + 1, s =>
    if s.digits % 10 = 0 ∧ s.digits ≠ 0 then normalize fuel ⟨s.digits / 10, s.exponent + 1⟩ else s

/-- Tries grids of more and more digits; `e` is the exponent of the leading digit. -/
def searchGrids (tie : TieRule) (i : RoundingInterval) (q e : Int) : List Nat → Scientific
  | [] => ⟨i.centre, q⟩
  | more :: rest =>
    let k : Int := e - more
    -- the grid's unit `10 ^ k` divided by the interval's unit `2 ^ q`
    let (n, d) := scaleBy 10 k 1 1
    let (n, d) := scaleBy 2 (-q) n d
    match gridPoint? tie i n d with
    | some digits => Scientific.normalize 20 ⟨digits, k⟩
    | none => searchGrids tie i q e rest

/-- The shortest digits of the absolute value of a finite number; seventeen always suffice. -/
def shortest (tie : TieRule) (x : Binary64) : Scientific :=
  if x.isZero then ⟨0, 0⟩ else
    let (n, d) := x.ratio
    searchGrids tie x.roundingInterval (x.exponent - 2) (log10Floor n d) (List.range 17)

/-! ## Written forms -/

/-- Digits times a power of ten without an exponent; a number below one starts with `0.`. -/
def positional (s : Scientific) : List Char :=
  let ds := digits s.digits
  if 0 ≤ s.exponent then ds ++ List.replicate s.exponent.toNat '0'
  else
    let places := (-s.exponent).toNat
    if places < ds.length then
      ds.take (ds.length - places) ++ '.' :: ds.drop (ds.length - places)
    else '0' :: '.' :: List.replicate (places - ds.length) '0' ++ ds

/-- A minus sign in front of a text where it is wanted. -/
def signed (negative : Bool) (cs : List Char) : List Char := if negative then '-' :: cs else cs

/-- The positional form: shortest digits, a tie goes up, no point after an integer, and the words
`NaN`, `inf` and `-inf`. -/
def text (x : Binary64) : List Char :=
  if x.isNaN then "NaN".toList
  else if x.isInfinite then signed x.negative "inf".toList
  else signed x.negative (positional (x.shortest .up))

/-- Digits with a point after the first of them if there are more. -/
def pointAfterFirst : List Char → List Char
  | [] => []
  | [d] => [d]
  | d :: ds => d :: '.' :: ds

/-- The form in JSON: shortest digits, a tie goes to the even digit; an exponent with its sign
below `0.00001` and from `10 ^ 16` on, else a positional form with at least one decimal place.
NaN and the infinities are `null`. -/
def jsonText (x : Binary64) : List Char :=
  if !x.isFinite then "null".toList else
    let s := x.shortest .even
    let ds := digits s.digits
    let leading : Int := s.exponent + ds.length - 1
    signed x.negative <|
      if leading < -5 then pointAfterFirst ds ++ 'e' :: '-' :: digits leading.natAbs
      else if 15 < leading then pointAfterFirst ds ++ 'e' :: '+' :: digits leading.natAbs
      else if 0 ≤ s.exponent then positional s ++ ['.', '0']
      else positional s

end TableDiff.Numeric.Binary64
