import TableDiff.Toml.Scalar
import TableDiff.Toml.Tree

/-!
# Reading TOML

A document is cut into statements, one to a line except for values that go over several lines: a
key with its value, a table header or a repeated table header. The statements are then carried
out in their order.
-/

namespace TableDiff.Toml

open TableDiff.Text

/-! ## Between the tokens -/

def skipWhite (cs : List Char) : List Char := cs.dropWhile isWhite

/-- A comment without its line end, or nothing, taken off a text. -/
def skipComment : List Char → List Char
  | '#' :: rest => rest.dropWhile fun c => isPlain c
  | cs => cs

/-- Blanks, a comment and a line end taken off a text. -/
def skipLine? (cs : List Char) : Option (List Char) :=
  match skipComment (skipWhite cs) with
  | [] => some []
  | cs => dropNewline? cs

/-- Blanks, comments and line ends at the start of a text taken off it. -/
def skipLines : Nat → List Char → List Char
  | 0, cs => cs
  | fuel + 1, cs =>
    let cs := skipComment (skipWhite cs)
    match dropNewline? cs with
    | some rest => skipLines fuel rest
    | none => cs

/-! ## Keys -/

def isKeyChar (c : Char) : Bool := c.isAlphanum || c = '_' || c = '-'

/-- One part of a key, bare or in quotes. -/
def takeKeyPart? (cs : List Char) : Option (String × List Char) :=
  match cs.span isKeyChar with
  | ([], _) => (takeShortString? cs).map fun p => (String.ofList p.1, p.2)
  | (key, rest) => some (String.ofList key, rest)

/-- A key with its parts between dots: the parts before the last one, and the last one. -/
def takeKey? : Nat → List Char → Option ((List String × String) × List Char)
  | 0, _ => none
  | fuel + 1, cs => do
    let (part, rest) ← takeKeyPart? (skipWhite cs)
    match skipWhite rest with
    | '.' :: rest => do
      let ((path, key), rest) ← takeKey? fuel rest
      return ((part :: path, key), rest)
    | rest => return (([], part), rest)

/-- A key, the equals sign after it and the blanks around the sign. -/
def takeKeyEquals? (cs : List Char) : Option ((List String × String) × List Char) := do
  let (key, rest) ← takeKey? cs.length cs
  let rest ← dropChar? '=' rest
  return (key, skipWhite rest)

/-! ## Values -/

/-- A value that is no array and no table. -/
def takeScalar? (cs : List Char) : Option (Toml × List Char) :=
  match cs with
  | [] => none
  | c :: _ =>
    if c = '"' ∨ c = '\x27' then (takeString? cs).map fun p => (.string (String.ofList p.1), p.2)
    else if cs.take 4 = "true".toList then some (.bool true, cs.drop 4)
    else if cs.take 5 = "false".toList then some (.bool false, cs.drop 5)
    else match dropDateTime? cs with
      | some rest => some (.dateTime, rest)
      | none =>
        match takeFloat? cs with
        | some (x, rest) => some (.float x, rest)
        | none => (takeInteger? cs).map fun p => (.integer p.1, p.2)

mutual

/-- A value at the start of a text, and what follows it. -/
def takeValue? : Nat → List Char → Option (Toml × List Char)
  | 0, _ => none
  | fuel + 1, cs =>
    match cs with
    | '[' :: rest => (takeItems? fuel rest).map fun p => (.array p.1, p.2)
    | '\x7b' :: rest =>
      match skipWhite rest with
      | '\x7d' :: rest => some (.table [], rest)
      | rest => do
        let (pairs, rest) ← takePairs? fuel rest
        return (← inlineTable? pairs, rest)
    | _ => takeScalar? cs

/-- The rest of an array; its items may stand on several lines, and a comma may follow the last. -/
def takeItems? : Nat → List Char → Option (List Toml × List Char)
  | 0, _ => none
  | fuel + 1, cs =>
    match skipLines cs.length cs with
    | ']' :: rest => some ([], rest)
    | cs => do
      let (v, rest) ← takeValue? fuel cs
      match skipLines rest.length rest with
      | ',' :: rest => do
        let (vs, rest) ← takeItems? fuel rest
        return (v :: vs, rest)
      | ']' :: rest => return ([v], rest)
      | _ => none

/-- The rest of an inline table with at least one key; it stands on one line. -/
def takePairs? : Nat → List Char → Option (List (List String × String × Toml) × List Char)
  | 0, _ => none
  | fuel + 1, cs => do
    let ((path, key), rest) ← takeKeyEquals? cs
    let (v, rest) ← takeValue? fuel rest
    match skipWhite rest with
    | ',' :: rest => do
      let (pairs, rest) ← takePairs? fuel rest
      return ((path, key, v) :: pairs, rest)
    | '\x7d' :: rest => return ([(path, key, v)], rest)
    | _ => none

end

/-! ## Statements -/

/-- A line of a document. -/
inductive Statement where
  | pair (path : List String) (key : String) (v : Toml)
  | header (path : List String) (key : String)
  | repeatedHeader (path : List String) (key : String)

/-- A header after its opening bracket. -/
def takeHeader? (cs : List Char) : Option (Statement × List Char) :=
  match cs with
  | '[' :: rest => do
    let ((path, key), rest) ← takeKey? rest.length rest
    match rest with
    | ']' :: ']' :: rest => some (.repeatedHeader path key, rest)
    | _ => none
  | _ => do
    let ((path, key), rest) ← takeKey? cs.length cs
    let rest ← dropChar? ']' rest
    return (.header path key, rest)

/-- A statement at the start of a text. -/
def takeStatement? (cs : List Char) : Option (Statement × List Char) :=
  match cs with
  | '[' :: rest => takeHeader? rest
  | _ => do
    let ((path, key), rest) ← takeKeyEquals? cs
    let (v, rest) ← takeValue? (2 * rest.length) rest
    return (.pair path key v, rest)

/-- The statements of a text, each of which ends its line. -/
def statements? : Nat → List Char → Option (List Statement)
  | 0, cs => if cs.isEmpty then some [] else none
  | fuel + 1, cs =>
    match skipLines cs.length cs with
    | [] => some []
    | cs => do
      let (s, rest) ← takeStatement? cs
      let rest ← skipLine? rest
      return s :: (← statements? fuel rest)

/-- A document under construction: its tables and the path of the last header. -/
structure Draft where
  entries : Entries := []
  current : List String := []

/-- Carries out a statement. -/
def Draft.apply (d : Draft) : Statement → Option Draft
  | .pair path key v =>
    (Entries.changeAt false (Entries.addDotted path key v) .header d.entries d.current).map
      fun entries => { d with entries }
  | .header path key =>
    (Entries.changeAt false (Entries.addHeader key) .header d.entries path).map
      fun entries => ⟨entries, path ++ [key]⟩
  | .repeatedHeader path key =>
    (Entries.changeAt false (Entries.addRepeated key) .header d.entries path).map
      fun entries => ⟨entries, path ++ [key]⟩

/-- The text without a byte order mark. -/
def dropMark : List Char → List Char
  | '\ufeff' :: rest => rest
  | cs => cs

/-- The table that a document denotes. -/
def ofText? (text : String) : Option Toml := do
  let cs := dropMark text.toList
  let draft ← (← statements? cs.length cs).foldlM Draft.apply {}
  return .table (finishEntries draft.entries)

end TableDiff.Toml
