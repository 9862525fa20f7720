import TableDiff.Schema
import TableDiff.Search
import TableDiff.Text.CaseMap
import TableDiff.Text.Quoted

/-!
# Dependency order of tables

Tables in an order in which rows can be inserted: a table comes after the tables that its foreign
keys refer to. The reverse order is one in which rows can be deleted. Tables are told apart by the
upper-case form of their names, the first table of a name being kept. References to tables outside
the set and of a table to itself do not count; a reference to a table without a primary key is an
error.
-/

namespace TableDiff

/-- Why the references of a table cannot be followed. A search knows of its visitor's errors no
more than their messages, so there may be others than those about tables. -/
inductive ReferenceError where
  /-- A table that another one refers to has no primary key. -/
  | noPrimaryKey (table : String)
  | other (message : String)
  deriving DecidableEq, Repr

def ReferenceError.message : ReferenceError → String
  | noPrimaryKey table => s!"Table '{table}' is referenced by a foreign key but has no primary key"
  | other message => message

/-- Why tables cannot be ordered. -/
inductive DependencyError where
  /-- A table that another one refers to has no primary key. -/
  | noPrimaryKey (table : String)
  /-- The search failed for another reason. -/
  | search (failure : Search.Failure String ReferenceError)
  /-- The search entered more nodes than there are tables. -/
  | unfinished
  deriving DecidableEq, Repr

namespace DependencyError

/-- The error of a search that failed: a missing primary key is reported as such. -/
def ofFailure (failure : Search.Failure String ReferenceError) : DependencyError :=
  match failure.cause with
  | .noPrimaryKey table => noPrimaryKey table
  | .other _ => search failure

def message : DependencyError → String
  | noPrimaryKey table => (ReferenceError.noPrimaryKey table).message
  | search failure => failure.message Text.quoted ReferenceError.message
  | unfinished => "The search for an order did not end"

end DependencyError

/-- Tables with pairwise different names in upper case. -/
structure TableSet where
  tables : List Metadata := []

namespace TableSet

/-- The table of a name, whatever the case of its letters. -/
def lookup? (s : TableSet) (name : String) : Option Metadata :=
  s.tables.find? fun t => Text.upperName t.name = Text.upperName name

/-- The set with one more table, unless it has a table of that name. -/
def insert (s : TableSet) (t : Metadata) : TableSet :=
  if (s.lookup? t.name).isSome then s else ⟨s.tables ++ [t]⟩

/-- The set of the given tables; of several tables of one name the first is kept. -/
def ofList (tables : List Metadata) : TableSet := tables.foldl insert {}

/-- The edge for one foreign key of a table, if the key counts. -/
def edgeFor? (s : TableSet) (t : Metadata) (key : ForeignKey) :
    Except ReferenceError (Option (Edge String)) :=
  match s.lookup? key.referencedTable with
  | none => .ok none
  | some referenced =>
    if referenced.hasName t.name then .ok none
    else if referenced.hasPrimaryKey then .ok (some ⟨t.name, referenced.name⟩)
    else .error (.noPrimaryKey referenced.name)

/-- The edges from the table of a name to the tables that it refers to. -/
def edgesFrom (s : TableSet) (name : String) : Except ReferenceError (List (Edge String)) :=
  match s.lookup? name with
  | none => .ok []
  | some t => do return (← t.foreignKeys.mapM (s.edgeFor? t)).filterMap id

/-- The names of the tables that the table of a name refers to, in ascending order. -/
def dependenciesOf (s : TableSet) (name : String) : Except DependencyError (List String) := do
  let edges ← (s.edgesFrom name).mapError fun cause => .ofFailure ⟨.edgesFrom, name, cause⟩
  return Search.targets edges

/-- The tables as a graph to be searched. -/
def visitor (s : TableSet) : Search.Visitor Unit ReferenceError String where
  edgesFrom name w := (s.edgesFrom name, w)

/-- The names of the tables, each after those that it refers to. -/
def insertOrder (s : TableSet) : Except DependencyError (List String) :=
  match Search.search s.visitor s.tables.length (s.tables.map (·.name)) () with
  | none => .error .unfinished
  | some (.error failure, _) => .error (.ofFailure failure)
  | some (.ok order, _) => .ok order

/-- The names of the tables, each before those that it refers to. -/
def deleteOrder (s : TableSet) : Except DependencyError (List String) :=
  s.insertOrder.map List.reverse

end TableSet

end TableDiff
