import TableDiff.LogicalType
import TableDiff.Text.AsciiCase

/-!
# Table metadata

Columns with their types, primary keys and foreign keys. Columns and tables are found by name
without regard to the case of ASCII letters; the first column of a name counts.
-/

namespace TableDiff

open TableDiff.Text

/-- Whether a column may hold null. -/
inductive Nullability where
  | yes
  | no
  | unknown
  deriving DecidableEq, Repr

/-- A column of a table. -/
structure Column where
  name : String
  type : LogicalType
  nullable : Nullability := .unknown
  deriving DecidableEq

namespace Column

/-- A column without a known type. -/
def untyped (name : String) : Column := { name, type := .unknown }

def hasName (c : Column) (name : String) : Bool := sameName c.name name

end Column

/-- A reference from columns of one table to columns of another. -/
structure ForeignKey where
  name : Option String := none
  columns : List String
  referencedTable : String
  referencedColumns : List String
  deriving DecidableEq

/-- The name, columns and keys of a table. -/
structure Metadata where
  name : String
  columns : List Column
  primaryKey : List String := []
  foreignKeys : List ForeignKey := []
  deriving DecidableEq

namespace Metadata

def hasName (m : Metadata) (name : String) : Bool := sameName m.name name

def hasPrimaryKey (m : Metadata) : Bool := !m.primaryKey.isEmpty

/-- The metadata with the given primary key in place of the old one. -/
def withPrimaryKey (m : Metadata) (columns : List String) : Metadata :=
  { m with primaryKey := columns }

/-- The metadata with one more foreign key. -/
def withForeignKey (m : Metadata) (key : ForeignKey) : Metadata :=
  { m with foreignKeys := m.foreignKeys ++ [key] }

/-- The first column of a name. -/
def findColumn? (m : Metadata) (name : String) : Option Column :=
  m.columns.find? (·.hasName name)

/-- The position of the first column of a name. -/
def columnIndex? (m : Metadata) (name : String) : Option Nat :=
  m.columns.findIdx? (·.hasName name)

def columnNames (m : Metadata) : List String := m.columns.map (·.name)

/-- The columns of the primary key in the key's order; names of no column are left out. -/
def primaryKeyColumns (m : Metadata) : List Column := m.primaryKey.filterMap m.findColumn?

end Metadata

end TableDiff
