import TableDiff.Text.Digits

/-!
# Written strings of TOML

A string takes the first of these forms that can hold it: a basic string on one line without
escapes, a literal string on one line, the same two over several lines, and last a basic string with
escapes. A string over several lines starts on a new line only if it has a line end in it; up to
two quotes in a row may stand in it as themselves.
-/

namespace TableDiff.Toml

open TableDiff.Text

/-- The length of the longest run of a character; the first two arguments are the length of the
run at the start of the text and the longest run before it. -/
def longestRunFrom (c : Char) (run best : Nat) : List Char → Nat
  | [] => best
  | d :: rest =>
    if d = c then longestRunFrom c (run + 1) (max best (run + 1)) rest
    else longestRunFrom c 0 best rest

/-- The length of the longest run of a character. -/
def longestRun (c : Char) (cs : List Char) : Nat := longestRunFrom c 0 0 cs

/-- Whether a character can only be written with an escape. -/
def needsEscape (c : Char) : Bool :=
  (c.toNat < 32 && c != '\t' && c != '\n') || c.toNat == 127

/-- The upper-case hexadecimal digit with the given value below sixteen. -/
def upperHex (d : Nat) : Char := (hexChar d).toUpper

/-- An escape for a character other than a quote. -/
def escape (c : Char) : List Char :=
  if c = '\x08' then ['\\', 'b']
  else if c = '\t' then ['\\', 't']
  else if c = '\n' then ['\\', 'n']
  else if c = '\x0c' then ['\\', 'f']
  else if c = '\r' then ['\\', 'r']
  else if c = '\\' then ['\\', '\\']
  else if c.toNat < 32 ∨ c.toNat = 127 then
    ['\\', 'u', '0', '0', upperHex (c.toNat / 16), upperHex (c.toNat % 16)]
  else [c]

/-- The inside of a basic string. At most `quotes` quotes in a row stand as themselves, of which
`run` have been written; line ends stand as themselves where `long` says so. -/
def escapeFrom (long : Bool) (quotes run : Nat) : List Char → List Char
  | [] => []
  | c :: rest =>
    if c = '"' then
      if run < quotes then '"' :: escapeFrom long quotes (run + 1) rest
      else '\\' :: '"' :: escapeFrom long quotes 0 rest
    else if c = '\n' ∧ long then '\n' :: escapeFrom long quotes 0 rest
    else escape c ++ escapeFrom long quotes 0 rest

def shortBasic (cs : List Char) : List Char := '"' :: escapeFrom false 0 0 cs ++ ['"']

def shortLiteral (cs : List Char) : List Char := '\x27' :: cs ++ ['\x27']

/-- Three quotes around a text, which starts on a new line if it has a line end in it. -/
def longQuotes (quote : Char) (inside cs : List Char) : List Char :=
  let three := [quote, quote, quote]
  three ++ (if '\n' ∈ cs then ['\n'] else []) ++ inside ++ three

def longBasic (cs : List Char) : List Char := longQuotes '"' (escapeFrom true 2 0 cs) cs

def longLiteral (cs : List Char) : List Char := longQuotes '\x27' cs cs

/-- A text as a string. -/
def quote (s : String) : List Char :=
  let cs := s.toList
  let escapes := cs.any needsEscape
  let backslash := '\\' ∈ cs
  let newline := '\n' ∈ cs
  let double := longestRun '"' cs
  let single := longestRun '\x27' cs
  if ¬escapes ∧ ¬backslash ∧ double = 0 ∧ ¬newline then shortBasic cs
  else if ¬escapes ∧ single = 0 ∧ ¬newline then shortLiteral cs
  else if ¬escapes ∧ ¬backslash ∧ double ≤ 2 then longBasic cs
  else if ¬escapes ∧ single ≤ 2 then longLiteral cs
  else if newline then longBasic cs
  else shortBasic cs

end TableDiff.Toml
