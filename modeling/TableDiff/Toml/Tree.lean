import TableDiff.Toml

/-!
# Trees of TOML tables under construction

The statements of a document fill in tables step by step. A table remembers how it came about, for
that decides what may still be added to it: a table that has a header of its own is not extended
by dotted keys, one that dotted keys made gets no header, and no key is given a value twice.
-/

namespace TableDiff.Toml

/-- How a table came about. -/
inductive Origin where
  /-- It has a header of its own, or is the whole document. -/
  | header
  /-- A longer header passes through it. -/
  | implied
  /-- A dotted key passes through it. -/
  | dotted
  deriving DecidableEq, Repr

/-- A part of a document under construction. -/
inductive Node where
  | value (v : Toml)
  | table (origin : Origin) (entries : List (String × Node))
  /-- The tables under repeated double headers. -/
  | tables (all : List (List (String × Node)))

/-- The content of a table under construction. -/
abbrev Entries := List (String × Node)

namespace Entries

/-- Gives a key a new node in place of the old one, or adds the key at the end. -/
def put (entries : Entries) (key : String) (node : Node) : Entries :=
  match entries with
  | [] => [(key, node)]
  | (k, n) :: rest => if k = key then (key, node) :: rest else (k, n) :: Entries.put rest key node

/-- What a change does to a table that came about in a certain way; none if it is not allowed. -/
abbrev Change := Origin → Entries → Option Entries

/-- Changes the table at the end of a path, making the tables on the way. A path leads through the
last of repeated tables, and a dotted key not through a table with a header. -/
def changeAt (dotted : Bool) (change : Change) (origin : Origin) (entries : Entries) :
    List String → Option Entries
  | [] => change origin entries
  | key :: path =>
    match entries.lookup key with
    | none =>
      let made := if dotted then .dotted else .implied
      (changeAt dotted change made [] path).map fun sub => put entries key (.table made sub)
    | some (.value _) => none
    | some (.table origin sub) =>
      if dotted ∧ origin = .header then none
      else (changeAt dotted change origin sub path).map fun sub =>
        put entries key (.table origin sub)
    | some (.tables all) =>
      match all.getLast? with
      | none => none
      | some last =>
        (changeAt dotted change .header last path).map fun last =>
          put entries key (.tables (all.dropLast ++ [last]))

/-- Gives a value to a key of a table; a key after dots belongs to a table that dots made. -/
def addValue (afterDots : Bool) (key : String) (v : Toml) : Change := fun origin entries =>
  if (origin = .dotted) ≠ afterDots ∨ (entries.lookup key).isSome then none
  else some (put entries key (.value v))

/-- Gives a value to a dotted key below a table. -/
def addDotted (path : List String) (key : String) (v : Toml) : Change := fun origin entries =>
  changeAt true (addValue (!path.isEmpty) key v) origin entries path

/-- Gives a table of a key its header. -/
def addHeader (key : String) : Change := fun _ entries =>
  match entries.lookup key with
  | none => some (put entries key (.table .header []))
  | some (.table .implied sub) => some (put entries key (.table .header sub))
  | _ => none

/-- Adds one more to the repeated tables of a key. -/
def addRepeated (key : String) : Change := fun _ entries =>
  match entries.lookup key with
  | none => some (put entries key (.tables [[]]))
  | some (.tables all) => some (put entries key (.tables (all ++ [[]])))
  | _ => none

end Entries

/-! ## Finished values -/

mutual

/-- The value of a finished node. -/
def Node.finish : Node → Toml
  | .value v => v
  | .table _ entries => .table (finishEntries entries)
  | .tables all => .array (finishTables all)

def finishEntries : List (String × Node) → List (String × Toml)
  | [] => []
  | (key, node) :: rest => (key, node.finish) :: finishEntries rest

def finishTables : List (List (String × Node)) → List Toml
  | [] => []
  | entries :: rest => .table (finishEntries entries) :: finishTables rest

end

/-- The table of dotted keys with values, as an inline table has them. -/
def inlineTable? (pairs : List (List String × String × Toml)) : Option Toml :=
  (pairs.foldlM (fun entries p => Entries.addDotted p.1 p.2.1 p.2.2 .header entries) []).map
    fun entries => .table (finishEntries entries)

end TableDiff.Toml
