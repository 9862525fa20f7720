import TableDiff.Text.Digits

/-!
# JSON

Values of the JSON data format and their text, on one line (`compact`) or with two blanks of
indentation for each level (`pretty`). Numbers keep their literal text; objects keep the order of
their members, and also members of one name.
-/

namespace TableDiff

open TableDiff.Text

/-- A JSON value. -/
inductive Json where
  | null
  | bool (b : Bool)
  | number (literal : List Char)
  | string (s : String)
  | array (items : List Json)
  | object (members : List (String × Json))

namespace Json

def ofInt (i : Int) : Json := number (intDigits i)

def ofNat (n : Nat) : Json := number (digits n)

def ofStrings (ss : List String) : Json := array (ss.map string)

/-- The last member of a name in an object. -/
def get? (j : Json) (name : String) : Option Json :=
  match j with
  | object members => members.reverse.lookup name
  | _ => none

/-! ## Strings -/

/-- One character inside a JSON string. -/
def escapeChar (c : Char) : List Char :=
  if c = '"' then ['\\', '"']
  else if c = '\\' then ['\\', '\\']
  else if c = '\n' then ['\\', 'n']
  else if c = '\r' then ['\\', 'r']
  else if c = '\t' then ['\\', 't']
  else if c = '\x08' then ['\\', 'b']
  else if c = '\x0c' then ['\\', 'f']
  else if c.toNat < 32 then
    ['\\', 'u', '0', '0', hexChar (c.toNat / 16), hexChar (c.toNat % 16)]
  else [c]

/-- A text as a JSON string. -/
def quote (s : String) : List Char := '"' :: s.toList.flatMap escapeChar ++ ['"']

/-! ## The compact form -/

mutual

/-- The text on one line without blanks. -/
def compactChars : Json → List Char
  | null => "null".toList
  | bool true => "true".toList
  | bool false => "false".toList
  | number literal => literal
  | string s => quote s
  | array items => '[' :: compactItems items ++ [']']
  | object members => '\x7b' :: compactMembers members ++ ['\x7d']

/-- Items with commas between them. -/
def compactItems : List Json → List Char
  | [] => []
  | [j] => compactChars j
  | j :: js => compactChars j ++ ',' :: compactItems js

/-- Members with commas between them. -/
def compactMembers : List (String × Json) → List Char
  | [] => []
  | [(name, j)] => quote name ++ ':' :: compactChars j
  | (name, j) :: ms => quote name ++ ':' :: compactChars j ++ ',' :: compactMembers ms

end

def compact (j : Json) : String := String.ofList (compactChars j)

/-! ## The indented form -/

/-- A new line with the indentation of a level. -/
def newline (level : Nat) : List Char := '\n' :: List.replicate (2 * level) ' '

mutual

/-- The text over several lines; its first line is already indented. -/
def prettyChars (level : Nat) : Json → List Char
  | null => "null".toList
  | bool true => "true".toList
  | bool false => "false".toList
  | number literal => literal
  | string s => quote s
  | array [] => "[]".toList
  | array items => '[' :: prettyItems (level + 1) items ++ newline level ++ [']']
  | object [] => "\x7b\x7d".toList
  | object members => '\x7b' :: prettyMembers (level + 1) members ++ newline level ++ ['\x7d']

/-- Items, each on a line of its own, with commas between them. -/
def prettyItems (level : Nat) : List Json → List Char
  | [] => []
  | [j] => newline level ++ prettyChars level j
  | j :: js => newline level ++ prettyChars level j ++ ',' :: prettyItems level js

/-- Members, each on a line of its own, with commas between them. -/
def prettyMembers (level : Nat) : List (String × Json) → List Char
  | [] => []
  | [(name, j)] => newline level ++ quote name ++ ':' :: ' ' :: prettyChars level j
  | (name, j) :: ms =>
    newline level ++ quote name ++ ':' :: ' ' :: prettyChars level j ++ ',' ::
      prettyMembers level ms

end

def pretty (j : Json) : String := String.ofList (prettyChars 0 j)

end Json

end TableDiff
