import TableDiff.Calendar.Date
import TableDiff.Numeric.Binary64.Reader
import TableDiff.Numeric.Word
import TableDiff.Text.Digits
import TableDiff.Toml

/-!
# Scalars of TOML

Each function reads one sort of scalar at the start of a text and gives the rest of the text.
Strings come in four forms: basic ones with escapes and literal ones without, each on one line or
over several lines.
-/

namespace TableDiff.Toml

open TableDiff.Numeric TableDiff.Text

/-- Whether a character may stand in a text as itself, as far as controls are concerned. -/
def isPlain (c : Char) : Bool := c = '\t' || (32 ≤ c.toNat && c.toNat ≠ 127)

def isWhite (c : Char) : Bool := c = ' ' || c = '\t'

/-- A line end at the start of a text, taken off it. -/
def dropNewline? : List Char → Option (List Char)
  | '\n' :: rest => some rest
  | '\x0d' :: '\n' :: rest => some rest
  | _ => none

/-! ## Strings -/

/-- The number of hexadecimal digits. -/
def hexNumber? (cs : List Char) : Option Nat :=
  cs.foldlM (fun n c => (hexValue? c).map fun d => n * 16 + d) 0

/-- The character with a number, if there is one. -/
def scalar? (n : Nat) : Option Char :=
  if n < 0xd800 ∨ (0xe000 ≤ n ∧ n < 0x110000) then some (Char.ofNat n) else none

/-- The character of an escape, which follows a backslash. -/
def takeEscape? : List Char → Option (Char × List Char)
  | 'b' :: rest => some ('\x08', rest)
  | 't' :: rest => some ('\t', rest)
  | 'n' :: rest => some ('\n', rest)
  | 'f' :: rest => some ('\x0c', rest)
  | 'r' :: rest => some ('\x0d', rest)
  | '"' :: rest => some ('"', rest)
  | '\\' :: rest => some ('\\', rest)
  | 'u' :: rest =>
    if rest.length < 4 then none
    else ((hexNumber? (rest.take 4)).bind scalar?).map fun c => (c, rest.drop 4)
  | 'U' :: rest =>
    if rest.length < 8 then none
    else ((hexNumber? (rest.take 8)).bind scalar?).map fun c => (c, rest.drop 8)
  | _ => none

/-- One more character in front of a string that was read. -/
def consChar (c : Char) (r : Option (List Char × List Char)) : Option (List Char × List Char) :=
  r.map fun p => (c :: p.1, p.2)

/-- The rest of a basic string on one line. -/
def takeBasic? : Nat → List Char → Option (List Char × List Char)
  | 0, _ => none
  | fuel + 1, cs =>
    match cs with
    | '"' :: rest => some ([], rest)
    | '\\' :: rest =>
      match takeEscape? rest with
      | some (c, rest) => consChar c (takeBasic? fuel rest)
      | none => none
    | c :: rest => if isPlain c then consChar c (takeBasic? fuel rest) else none
    | [] => none

/-- The rest of a literal string on one line. -/
def takeLiteral? : List Char → Option (List Char × List Char)
  | '\x27' :: rest => some ([], rest)
  | c :: rest => if isPlain c then consChar c (takeLiteral? rest) else none
  | [] => none

/-- The end of a string over several lines: three quotes after at most two quotes that belong to
the string. -/
def takeClosing? (quote : Char) (cs : List Char) : Option (List Char × List Char) :=
  let n := (cs.takeWhile (· = quote)).length
  if n < 3 then none
  else
    let inside := min (n - 3) 2
    some (List.replicate inside quote, cs.drop (inside + 3))

/-- Line ends and blanks at the start of a text taken off it. -/
def dropBlankLines : Nat → List Char → List Char
  | 0, cs => cs
  | fuel + 1, cs =>
    let cs := cs.dropWhile isWhite
    match dropNewline? cs with
    | some rest => dropBlankLines fuel rest
    | none => cs

/-- A backslash at the end of a line, which joins the line to the next text; the backslash has been
taken off. -/
def dropJoin? (cs : List Char) : Option (List Char) :=
  (dropNewline? (cs.dropWhile isWhite)).map fun rest => dropBlankLines rest.length rest

/-- The rest of a basic string over several lines. -/
def takeLongBasic? : Nat → List Char → Option (List Char × List Char)
  | 0, _ => none
  | fuel + 1, cs =>
    match takeClosing? '"' cs with
    | some r => some r
    | none =>
      match cs with
      | '\\' :: rest =>
        match dropJoin? rest with
        | some rest => takeLongBasic? fuel rest
        | none =>
          match takeEscape? rest with
          | some (c, rest) => consChar c (takeLongBasic? fuel rest)
          | none => none
      | c :: rest =>
        match dropNewline? cs with
        | some rest => consChar '\n' (takeLongBasic? fuel rest)
        | none => if isPlain c then consChar c (takeLongBasic? fuel rest) else none
      | [] => none

/-- The rest of a literal string over several lines. -/
def takeLongLiteral? : Nat → List Char → Option (List Char × List Char)
  | 0, _ => none
  | fuel + 1, cs =>
    match takeClosing? '\x27' cs with
    | some r => some r
    | none =>
      match cs with
      | c :: rest =>
        match dropNewline? cs with
        | some rest => consChar '\n' (takeLongLiteral? fuel rest)
        | none => if isPlain c then consChar c (takeLongLiteral? fuel rest) else none
      | [] => none

/-- The first line end of a string over several lines does not belong to it. -/
def dropFirstNewline (cs : List Char) : List Char := (dropNewline? cs).getD cs

/-- A string on one line. -/
def takeShortString? : List Char → Option (List Char × List Char)
  | '"' :: rest => takeBasic? rest.length rest
  | '\x27' :: rest => takeLiteral? rest
  | _ => none

/-- A string of any form. -/
def takeString? : List Char → Option (List Char × List Char)
  | '"' :: '"' :: '"' :: rest =>
    takeLongBasic? rest.length (dropFirstNewline rest)
  | '\x27' :: '\x27' :: '\x27' :: rest => takeLongLiteral? rest.length (dropFirstNewline rest)
  | cs => takeShortString? cs

/-! ## Numbers -/

/-- Digits with single underscores between them at the start of a text; the underscores are left
out. -/
def takeGrouped? (isDigit : Char → Bool) : List Char → Option (List Char × List Char)
  | [] => none
  | c :: rest =>
    if isDigit c then
      match rest with
      | '_' :: more => consChar c (takeGrouped? isDigit more)
      | d :: more =>
        if isDigit d then consChar c (takeGrouped? isDigit (d :: more)) else some ([c], d :: more)
      | [] => some ([c], [])
    else none

/-- A sign or nothing. -/
def takeSign : List Char → List Char × List Char
  | '+' :: rest => (['+'], rest)
  | '-' :: rest => (['-'], rest)
  | cs => ([], cs)

/-- A decimal integer with its sign; only zero itself starts with a zero. -/
def takeDecimal? (cs : List Char) : Option (List Char × List Char) :=
  let (sign, cs) := takeSign cs
  match cs with
  | '0' :: rest => some (sign ++ ['0'], rest)
  | _ => (takeGrouped? isDigit cs).map fun p => (sign ++ p.1, p.2)

/-- The value of a decimal integer with its sign. -/
def signedValue : List Char → Int
  | '-' :: ds => -(natOfDigits ds)
  | '+' :: ds => natOfDigits ds
  | ds => natOfDigits ds

/-- An integer in the notation of another base. -/
def takeBased? (base : Nat) (cs : List Char) : Option (Int × List Char) :=
  let below (c : Char) := (hexValue? c).any (· < base)
  (takeGrouped? below cs).map fun p =>
    ((p.1.foldl (fun n c => n * base + (hexValue? c).getD 0) 0 : Nat), p.2)

/-- An integer that fits 64 bits. -/
def takeInteger? (cs : List Char) : Option (Int × List Char) := do
  let (i, rest) ← match cs with
    | '0' :: 'x' :: ds => takeBased? 16 ds
    | '0' :: 'o' :: ds => takeBased? 8 ds
    | '0' :: 'b' :: ds => takeBased? 2 ds
    | _ => (takeDecimal? cs).map fun p => (signedValue p.1, p.2)
  if fitsInt64 i then some (i, rest) else none

/-- A point and digits. -/
def takeFraction? : List Char → Option (List Char × List Char)
  | '.' :: rest => consChar '.' (takeGrouped? isDigit rest)
  | _ => none

/-- The letter `e`, a sign or none, and digits. -/
def takeExponent? : List Char → Option (List Char × List Char)
  | c :: rest =>
    if c = 'e' ∨ c = 'E' then
      let (sign, rest) := takeSign rest
      (takeGrouped? isDigit rest).map fun p => (c :: sign ++ p.1, p.2)
    else none
  | [] => none

/-- The text of a float with a fraction or an exponent. -/
def takeFloatText? (cs : List Char) : Option (List Char × List Char) := do
  let (whole, rest) ← takeDecimal? cs
  match takeExponent? rest with
  | some (e, rest) => some (whole ++ e, rest)
  | none =>
    let (fraction, rest) ← takeFraction? rest
    match takeExponent? rest with
    | some (e, rest) => some (whole ++ fraction ++ e, rest)
    | none => some (whole ++ fraction, rest)

/-- One of the words `inf` and `nan` after a sign. -/
def takeSpecialFloat? (cs : List Char) : Option (Binary64 × List Char) :=
  let (sign, cs) := takeSign cs
  match cs with
  | 'i' :: 'n' :: 'f' :: rest => some (.infinity (sign = ['-']), rest)
  | 'n' :: 'a' :: 'n' :: rest => some (.nan (sign = ['-']), rest)
  | _ => none

/-- A float; one that is written with digits must be finite. -/
def takeFloat? (cs : List Char) : Option (Binary64 × List Char) :=
  match takeFloatText? cs with
  | some (text, rest) =>
    match Binary64.ofText text with
    | .ok x => if x.isInfinite then none else some (x, rest)
    | .error _ => none
  | none => takeSpecialFloat? cs

/-! ## Dates and times -/

/-- A number of exactly `width` digits within limits. -/
def takeFixed? (width low high : Nat) (cs : List Char) : Option (Nat × List Char) :=
  let ds := cs.take width
  if ds.length = width ∧ ds.all isDigit ∧ low ≤ natOfDigits ds ∧ natOfDigits ds ≤ high then
    some (natOfDigits ds, cs.drop width)
  else none

/-- A certain character at the start of a text, taken off it. -/
def dropChar? (c : Char) : List Char → Option (List Char)
  | d :: rest => if c = d then some rest else none
  | [] => none

/-- A date of the calendar with hyphens, taken off a text. -/
def dropDate? (cs : List Char) : Option (List Char) := do
  let (year, cs) ← takeFixed? 4 0 9999 cs
  let cs ← dropChar? '-' cs
  let (month, cs) ← takeFixed? 2 1 12 cs
  let cs ← dropChar? '-' cs
  let (_, cs) ← takeFixed? 2 1 (Calendar.daysInMonth year month) cs
  return cs

/-- A time with seconds and a fraction or none, taken off a text. -/
def dropTime? (cs : List Char) : Option (List Char) := do
  let (_, cs) ← takeFixed? 2 0 23 cs
  let cs ← dropChar? ':' cs
  let (_, cs) ← takeFixed? 2 0 59 cs
  let cs ← dropChar? ':' cs
  let (_, cs) ← takeFixed? 2 0 60 cs
  match cs with
  | '.' :: d :: rest => if isDigit d then some (rest.dropWhile isDigit) else some cs
  | _ => some cs

/-- An offset from UTC or nothing, taken off a text. -/
def dropOffset? : List Char → Option (List Char)
  | c :: rest =>
    if c = 'Z' ∨ c = 'z' then some rest
    else if c = '+' ∨ c = '-' then do
      let (_, cs) ← takeFixed? 2 0 23 rest
      let cs ← dropChar? ':' cs
      let (_, cs) ← takeFixed? 2 0 59 cs
      return cs
    else some (c :: rest)
  | [] => some []

/-- A date, a time, or both with an offset or none, taken off a text. -/
def dropDateTime? (cs : List Char) : Option (List Char) :=
  match dropDate? cs with
  | some rest =>
    match rest with
    | c :: more =>
      if c = 'T' ∨ c = 't' ∨ c = ' ' then
        match dropTime? more with
        | some rest => dropOffset? rest
        | none => some rest
      else some rest
    | [] => some rest
  | none => dropTime? cs

end TableDiff.Toml
