import TableDiff.Table

/-!
# Data sets

A data set is a list of tables, found by name without regard to the case of ASCII letters; it is
made of tables of pairwise different names (`exists_ofTables`). Several data sets are merged into
one either by keeping the first table of each name or by laying all tables of a name end to end.
-/

namespace TableDiff

/-- What becomes of tables of one name in several data sets. -/
inductive MergePolicy where
  | firstWins
  | combine
  deriving DecidableEq, Repr

/-- Tables in the order in which they were added. -/
structure DataSet where
  tables : List Table := []

namespace DataSet

def names (d : DataSet) : List String := d.tables.map (·.name)

/-- The first table of a name. -/
def table? (d : DataSet) (name : String) : Option Table :=
  d.tables.find? fun t => t.metadata.hasName name

/-- The first table of a name, which must exist. -/
def require (d : DataSet) (name : String) : Except DataSetError Table :=
  match d.table? name with
  | some t => .ok t
  | none => .error (.noSuchTable name)

def contains (d : DataSet) (name : String) : Bool := (d.table? name).isSome

/-- The data set with one more table, whose name must be new. -/
def add (d : DataSet) (t : Table) : Except DataSetError DataSet :=
  if d.contains t.name then .error (.duplicateTable t.name) else .ok ⟨d.tables ++ [t]⟩

/-- Adds a table to the data set at hand, or refuses to. -/
def addTable (t : Table) : ExceptT DataSetError (StateM DataSet) Unit := do
  if (← get).contains t.name then
    throw (.duplicateTable t.name)
  modify fun d => ⟨d.tables ++ [t]⟩

/-- The data set with further tables added in order. -/
def addAll (d : DataSet) : List Table → Except DataSetError DataSet
  | [] => .ok d
  | t :: ts => do (← d.add t).addAll ts

/-- The data set of the given tables, whose names must differ. -/
def ofTables (tables : List Table) : Except DataSetError DataSet := addAll {} tables

theorem contains_eq_false {d : DataSet} {name : String} :
    d.contains name = false ↔ ∀ t ∈ d.tables, t.metadata.hasName name = false := by
  simp [contains, table?]

/-- A data set takes tables of new and pairwise different names. -/
theorem exists_addAll {d : DataSet} {ts : List Table} : (∃ d', d.addAll ts = .ok d') ↔
    (∀ t ∈ ts, d.contains t.name = false) ∧
      ts.Pairwise fun a b => a.metadata.hasName b.metadata.name = false := by
  induction ts generalizing d with
  | nil => simp [addAll]
  | cons t ts ih =>
    have hlater : ∀ u : Table, contains ⟨d.tables ++ [t]⟩ u.name = false ↔
        d.contains u.name = false ∧ t.metadata.hasName u.metadata.name = false := by
      intro u
      simp only [contains_eq_false, List.forall_mem_append, List.forall_mem_singleton]
      rfl
    rw [List.forall_mem_cons, List.pairwise_cons, addAll]
    cases ht : d.contains t.name with
    | true => simp [add, ht, bind, Except.bind]
    | false =>
      have hstep : (do (← d.add t).addAll ts) = addAll ⟨d.tables ++ [t]⟩ ts := by
        simp [add, ht, bind, Except.bind]
      rw [hstep, ih]
      simp only [hlater, forall_and, true_and, and_assoc]

theorem exists_ofTables {ts : List Table} : (∃ d, ofTables ts = .ok d) ↔
    ts.Pairwise fun a b => a.metadata.hasName b.metadata.name = false := by
  rw [ofTables, exists_addAll]
  exact and_iff_right fun t _ => rfl

/-! ## Merging -/

/-- Tables of one name, at least one. -/
structure Group where
  first : Table
  others : List Table := []

/-- Adds a table to the group of its name, or as a new group at the end. -/
def insertGroup (t : Table) : List Group → List Group
  | [] => [⟨t, []⟩]
  | g :: gs =>
    if g.first.metadata.hasName t.name then { g with others := g.others ++ [t] } :: gs
    else g :: insertGroup t gs

/-- Tables grouped by name, in the order of first occurrence. -/
def groupByName (tables : List Table) : List Group :=
  tables.foldl (fun gs t => insertGroup t gs) []

/-- The one table that a group becomes. -/
def Group.merge (policy : MergePolicy) (g : Group) : Except DataSetError Table :=
  match policy with
  | .firstWins => .ok g.first
  | .combine => if g.others.isEmpty then .ok g.first else Table.concat (g.first :: g.others)

/-- Several data sets merged into one. -/
def merge (policy : MergePolicy) (datasets : List DataSet) : Except DataSetError DataSet := do
  return ⟨← (groupByName (datasets.flatMap (·.tables))).mapM (·.merge policy)⟩

end DataSet

end TableDiff
