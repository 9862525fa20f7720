import TableDiff.Numeric.Binary64

/-!
# TOML

Values of the TOML configuration format. Of dates and times it is only kept that there is one.
-/

namespace TableDiff

open TableDiff.Numeric

/-- A TOML value. -/
inductive Toml where
  | string (s : String)
  | integer (i : Int)
  | float (x : Binary64)
  | bool (b : Bool)
  | dateTime
  | array (items : List Toml)
  | table (entries : List (String × Toml))

namespace Toml

/-! ## Reading records -/

/-- The fields of a record: the entries of a table, or the items of an array in the order of the
field names. A date or time is a record without fields. -/
def fields? (names : List String) : Toml → Option (List (String × Toml))
  | table entries => some entries
  | array items => some (names.zip items)
  | dateTime => some []
  | _ => none

/-- A field that must be there. -/
def required {α : Type} (fields : List (String × Toml)) (name : String) (read : Toml → Option α) :
    Option α :=
  (fields.lookup name).bind read

/-- A field that may be missing. -/
def optional {α : Type} (fields : List (String × Toml)) (name : String) (missing : α)
    (read : Toml → Option α) : Option α :=
  match fields.lookup name with
  | some v => read v
  | none => some missing

def string? : Toml → Option String
  | string s => some s
  | _ => none

/-- An array with items of one sort. -/
def list? {α : Type} (read : Toml → Option α) : Toml → Option (List α)
  | array items => items.mapM read
  | _ => none

/-- One of the given words: a string, or the only key of a table, with an empty array or table. -/
def word? {α : Type} (words : List (String × α)) : Toml → Option α
  | string s => words.lookup s
  | table [(s, array [])] => words.lookup s
  | table [(s, table [])] => words.lookup s
  | _ => none

end Toml

end TableDiff
