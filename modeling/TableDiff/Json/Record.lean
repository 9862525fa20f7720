import TableDiff.Json

/-!
# Records in JSON

A record is written as an object and read from an object, whose further members do not count, or
from an array with the fields in their order. A word from a fixed list is written as a string and
read from a string or from an object with that word as its only member and null in it.
-/

namespace TableDiff.Json

/-- The fields of a record that were found. -/
structure Record where
  fields : List (String × Json)
  /-- The fields were given in their order, not by name. -/
  positional : Bool

/-- The fields of a record with the given field names. No field may be given twice, and an array
may not have more items than there are fields. -/
def record? (names : List String) (j : Json) : Option Record :=
  match j with
  | object members =>
    let known := members.filter fun m => m.1 ∈ names
    if (known.map (·.1)).Nodup then some ⟨known, false⟩ else none
  | array items =>
    if items.length ≤ names.length then some ⟨names.zip items, true⟩ else none
  | _ => none

namespace Record

def get? (r : Record) (name : String) : Option Json := r.fields.lookup name

/-- A field that must be there. -/
def required {α : Type} (r : Record) (name : String) (read : Json → Option α) : Option α :=
  (r.get? name).bind read

/-- A field that may be missing. -/
def optional {α : Type} (r : Record) (name : String) (missing : α) (read : Json → Option α) :
    Option α :=
  match r.get? name with
  | some j => read j
  | none => some missing

/-- A field that may hold null, and may be missing if the fields are given by name. -/
def nullable {α : Type} (r : Record) (name : String) (read : Json → Option α) :
    Option (Option α) :=
  match r.get? name with
  | some null => some none
  | some j => (read j).map some
  | none => if r.positional then none else some none

end Record

def string? : Json → Option String
  | string s => some s
  | _ => none

/-- An array with items of one sort. -/
def list? {α : Type} (read : Json → Option α) : Json → Option (List α)
  | array items => items.mapM read
  | _ => none

def strings? (j : Json) : Option (List String) := j.list? string?

/-- One of the given words. -/
def word? {α : Type} (words : List (String × α)) (j : Json) : Option α :=
  match j with
  | string s => words.lookup s
  | object [(s, null)] => words.lookup s
  | _ => none

end TableDiff.Json
