import TableDiff.Text.Digits

/-!
# JSON tokens

A JSON text is cut into brackets, separators, words, strings and number literals; blanks between
them are dropped. Strings are given without their escapes, and half of a surrogate pair without
the other half is no string.
-/

namespace TableDiff.Json

open TableDiff.Text

/-- A unit of JSON text. -/
inductive Token where
  | openBrace
  | closeBrace
  | openBracket
  | closeBracket
  | comma
  | colon
  | null
  | bool (b : Bool)
  | string (s : String)
  | number (literal : List Char)
  deriving DecidableEq, Repr

/-! ## Strings -/

/-- The number of four hexadecimal digits. -/
def hexUnit? (a b c d : Char) : Option Nat := do
  return (((← hexValue? a) * 16 + (← hexValue? b)) * 16 + (← hexValue? c)) * 16 + (← hexValue? d)

def isHighSurrogate (n : Nat) : Bool := 0xd800 ≤ n && n < 0xdc00

def isLowSurrogate (n : Nat) : Bool := 0xdc00 ≤ n && n < 0xe000

/-- The character that two surrogates stand for. -/
def surrogatePair (high low : Nat) : Char :=
  Char.ofNat (0x10000 + (high - 0xd800) * 0x400 + (low - 0xdc00))

/-- The character of an escape with one letter. -/
def simpleEscape? (c : Char) : Option Char :=
  if c = '"' ∨ c = '\\' ∨ c = '/' then some c
  else if c = 'b' then some '\x08'
  else if c = 'f' then some '\x0c'
  else if c = 'n' then some '\n'
  else if c = 'r' then some '\r'
  else if c = 't' then some '\t'
  else none

/-- One more character in front of a string that was read. -/
def consChar (c : Char) (r : Option (List Char × List Char)) : Option (List Char × List Char) :=
  r.map fun p => (c :: p.1, p.2)

/-- The characters of a string after its opening quote, and what follows its closing quote. -/
def takeString? : List Char → Option (List Char × List Char)
  | [] => none
  | '"' :: rest => some ([], rest)
  | '\\' :: 'u' :: a :: b :: c :: d :: rest =>
    match hexUnit? a b c d with
    | none => none
    | some unit =>
      if isHighSurrogate unit then
        match rest with
        | '\\' :: 'u' :: e :: f :: g :: h :: rest =>
          match hexUnit? e f g h with
          | none => none
          | some low =>
            if isLowSurrogate low then consChar (surrogatePair unit low) (takeString? rest)
            else none
        | _ => none
      else if isLowSurrogate unit then none
      else consChar (Char.ofNat unit) (takeString? rest)
  | '\\' :: c :: rest =>
    match simpleEscape? c with
    | none => none
    | some c => consChar c (takeString? rest)
  | c :: rest => if c.toNat < 32 ∨ c = '\\' then none else consChar c (takeString? rest)

/-! ## Numbers -/

/-- Digits at the start of a text, at least one, and what follows them. -/
def takeDigits? (cs : List Char) : Option (List Char × List Char) :=
  match cs.span isDigit with
  | ([], _) => none
  | r => some r

/-- The digits of an integer: a zero, or digits that do not start with zero. -/
def takeInteger? : List Char → Option (List Char × List Char)
  | '0' :: rest => some (['0'], rest)
  | cs => takeDigits? cs

/-- A point and digits, or nothing. -/
def takeFraction? : List Char → Option (List Char × List Char)
  | '.' :: rest => (takeDigits? rest).map fun p => ('.' :: p.1, p.2)
  | cs => some ([], cs)

/-- The letter `e`, a sign or none, and digits, or nothing. -/
def takeExponent? (cs : List Char) : Option (List Char × List Char) :=
  match cs with
  | c :: rest =>
    if c = 'e' ∨ c = 'E' then
      match rest with
      | s :: more =>
        if s = '+' ∨ s = '-' then (takeDigits? more).map fun p => (c :: s :: p.1, p.2)
        else (takeDigits? rest).map fun p => (c :: p.1, p.2)
      | [] => none
    else some ([], cs)
  | [] => some ([], [])

/-- A number literal at the start of a text, and what follows it. -/
def takeNumber? (cs : List Char) : Option (List Char × List Char) := do
  let (sign, cs) := match cs with
    | '-' :: rest => (['-'], rest)
    | _ => ([], cs)
  let (whole, cs) ← takeInteger? cs
  let (fraction, cs) ← takeFraction? cs
  let (exponent, cs) ← takeExponent? cs
  return (sign ++ whole ++ fraction ++ exponent, cs)

/-! ## Tokens -/

def isJsonBlank (c : Char) : Bool := c = ' ' || c = '\n' || c = '\t' || c = '\r'

/-- The first token of a text that does not start with a blank, and what follows it. -/
def takeToken? (cs : List Char) : Option (Token × List Char) :=
  match cs with
  | '\x7b' :: rest => some (.openBrace, rest)
  | '\x7d' :: rest => some (.closeBrace, rest)
  | '[' :: rest => some (.openBracket, rest)
  | ']' :: rest => some (.closeBracket, rest)
  | ',' :: rest => some (.comma, rest)
  | ':' :: rest => some (.colon, rest)
  | 'n' :: 'u' :: 'l' :: 'l' :: rest => some (.null, rest)
  | 't' :: 'r' :: 'u' :: 'e' :: rest => some (.bool true, rest)
  | 'f' :: 'a' :: 'l' :: 's' :: 'e' :: rest => some (.bool false, rest)
  | '"' :: rest => (takeString? rest).map fun p => (.string (String.ofList p.1), p.2)
  | cs => (takeNumber? cs).map fun p => (.number p.1, p.2)

/-- The tokens of a text, reading at most as many as the first argument says. -/
def scanTokens? : Nat → List Char → Option (List Token)
  | fuel, cs =>
    match cs.dropWhile isJsonBlank, fuel with
    | [], _ => some []
    | _, 0 => none
    | cs, fuel + 1 =>
      match takeToken? cs with
      | none => none
      | some (t, rest) => (scanTokens? fuel rest).map (t :: ·)

/-- The tokens of a text. -/
def tokens? (cs : List Char) : Option (List Token) := scanTokens? cs.length cs

end TableDiff.Json
