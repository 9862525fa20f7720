import TableDiff.Json
import TableDiff.Json.Token

/-!
# Reading JSON

The value that a JSON text denotes; nothing but blanks may follow it.
-/

namespace TableDiff.Json

mutual

/-- A value at the start of the tokens, and what follows it. -/
def takeValue? : Nat → List Token → Option (Json × List Token)
  | 0, _ => none
  | fuel + 1, tokens =>
    match tokens with
    | .null :: rest => some (null, rest)
    | .bool b :: rest => some (bool b, rest)
    | .string s :: rest => some (string s, rest)
    | .number literal :: rest => some (number literal, rest)
    | .openBracket :: .closeBracket :: rest => some (array [], rest)
    | .openBracket :: rest => (takeItems? fuel rest).map fun p => (array p.1, p.2)
    | .openBrace :: .closeBrace :: rest => some (object [], rest)
    | .openBrace :: rest => (takeMembers? fuel rest).map fun p => (object p.1, p.2)
    | _ => none

/-- The items of an array after its bracket, at least one, and what follows the array. -/
def takeItems? : Nat → List Token → Option (List Json × List Token)
  | 0, _ => none
  | fuel + 1, tokens =>
    match takeValue? fuel tokens with
    | some (j, .comma :: rest) => (takeItems? fuel rest).map fun p => (j :: p.1, p.2)
    | some (j, .closeBracket :: rest) => some ([j], rest)
    | _ => none

/-- The members of an object after its brace, at least one, and what follows the object. -/
def takeMembers? : Nat → List Token → Option (List (String × Json) × List Token)
  | 0, _ => none
  | fuel + 1, tokens =>
    match tokens with
    | .string name :: .colon :: rest =>
      match takeValue? fuel rest with
      | some (j, .comma :: rest) => (takeMembers? fuel rest).map fun p => ((name, j) :: p.1, p.2)
      | some (j, .closeBrace :: rest) => some ([(name, j)], rest)
      | _ => none
    | _ => none

end

/-- The value that a text denotes. Every value takes at least one token and so does every item, so
twice the number of tokens is deep enough. -/
def ofChars? (cs : List Char) : Option Json :=
  match tokens? cs with
  | none => none
  | some tokens =>
    match takeValue? (2 * tokens.length) tokens with
    | some (j, []) => some j
    | _ => none

/-- The value that a text denotes. -/
def ofText? (text : String) : Option Json := ofChars? text.toList

mutual

/-- The value in which of several members of one name only the last is left, in its place. -/
def dropRepeated : Json → Json
  | array items => array (dropRepeatedItems items)
  | object members => object (dropRepeatedMembers members)
  | j => j

def dropRepeatedItems : List Json → List Json
  | [] => []
  | j :: js => dropRepeated j :: dropRepeatedItems js

def dropRepeatedMembers : List (String × Json) → List (String × Json)
  | [] => []
  | (name, j) :: ms =>
    if ms.any (·.1 == name) then dropRepeatedMembers ms
    else (name, dropRepeated j) :: dropRepeatedMembers ms

end

end TableDiff.Json
