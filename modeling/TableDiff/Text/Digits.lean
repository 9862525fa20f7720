/-!
# Digits

Natural numbers as decimal digits, most significant first, and the value of hexadecimal digits.
-/

namespace TableDiff.Text

/-- Whether a character is one of `0` to `9`. -/
def isDigit (c : Char) : Bool := '0' ≤ c && c ≤ '9'

/-- The value of a decimal digit. -/
def digitValue (c : Char) : Nat := c.toNat - '0'.toNat

/-- The digit with the given value below ten. -/
def digitChar (d : Nat) : Char := Char.ofNat ('0'.toNat + d)

/-- The value of a run of decimal digits that continues the number `n`. -/
def natOfDigitsFrom (n : Nat) (cs : List Char) : Nat :=
  cs.foldl (fun n c => 10 * n + digitValue c) n

/-- The value of a run of decimal digits; no digits count as zero. -/
def natOfDigits (cs : List Char) : Nat := natOfDigitsFrom 0 cs

/-- The decimal digits of a number in front of the given text, `0` for zero. -/
def digitsOnto (n : Nat) (tail : List Char) : List Char :=
  if n < 10 then digitChar n :: tail else digitsOnto (n / 10) (digitChar (n % 10) :: tail)
termination_by n

/-- The decimal digits of a number without leading zeros, `0` for zero. -/
def digits (n : Nat) : List Char := digitsOnto n []

/-- The decimal digits of a number, filled up with leading zeros to at least `width`. -/
def paddedDigits (width n : Nat) : List Char :=
  let ds := digits n
  List.replicate (width - ds.length) '0' ++ ds

/-- The decimal form of an integer, with a minus sign if it is negative. -/
def intDigits (i : Int) : List Char :=
  if i < 0 then '-' :: digits i.natAbs else digits i.natAbs

/-- The value of a hexadecimal digit of either case. -/
def hexValue? (c : Char) : Option Nat :=
  if '0' ≤ c && c ≤ '9' then some (c.toNat - '0'.toNat)
  else if 'a' ≤ c && c ≤ 'f' then some (c.toNat - 'a'.toNat + 10)
  else if 'A' ≤ c && c ≤ 'F' then some (c.toNat - 'A'.toNat + 10)
  else none

/-- The small hexadecimal digit with the given value below sixteen. -/
def hexChar (d : Nat) : Char := if d < 10 then digitChar d else Char.ofNat ('a'.toNat + (d - 10))

/-- The small hexadecimal digits of a number in front of the given text. -/
def hexDigitsOnto (n : Nat) (tail : List Char) : List Char :=
  if n < 16 then hexChar n :: tail else hexDigitsOnto (n / 16) (hexChar (n % 16) :: tail)
termination_by n

/-- The small hexadecimal digits of a number without leading zeros. -/
def hexDigits (n : Nat) : List Char := hexDigitsOnto n []

end TableDiff.Text
