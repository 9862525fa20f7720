import TableDiff.Config
import TableDiff.Text.AsciiCase
import TableDiff.Text.Blank

/-!
# Numeric tolerances

Tolerated differences of columns in the order of their registration. An entry for one table comes
before an entry for any table, and of several that fit the first registered counts.
-/

namespace TableDiff

open TableDiff.Numeric TableDiff.Text

/-- Why a registry cannot be set up. -/
inductive ConfigurationError where
  | negativeDelta (table column : String) (delta : Decimal)
  | emptyColumn (table : String)
  | adapterUnavailable (adapter reason : String)
  deriving DecidableEq

def ConfigurationError.message : ConfigurationError → String
  | negativeDelta table column delta =>
    s!"Tolerated delta for {table}.{column} must not be negative: {String.ofList delta.text}"
  | emptyColumn table => s!"Tolerance for table {table} has an empty column name"
  | adapterUnavailable adapter reason => s!"Driver adapter '{adapter}' is unavailable: {reason}"

namespace ToleranceRule

/-- Whether the rule is for any table. -/
def isForAnyTable (r : ToleranceRule) : Bool := r.table == "*"

/-- Whether the rule is for this table by name. -/
def isForTable (r : ToleranceRule) (table : String) : Bool :=
  !r.isForAnyTable && sameName r.table table

def isForColumn (r : ToleranceRule) (column : String) : Bool := sameName r.column column

/-- What is wrong with a rule: a blank column name before a negative difference. -/
def fault? (r : ToleranceRule) : Option ConfigurationError :=
  if trim r.column.toList = [] then some (.emptyColumn r.table)
  else if r.delta.unscaled < 0 then some (.negativeDelta r.table r.column r.delta)
  else none

end ToleranceRule

/-- The registered tolerances, the first one first. -/
structure ToleranceTable where
  rules : List ToleranceRule := []

namespace ToleranceTable

/-- The table with one more rule at its end. -/
def add (t : ToleranceTable) (rule : ToleranceRule) : Except ConfigurationError ToleranceTable :=
  match rule.fault? with
  | some fault => .error fault
  | none => .ok ⟨t.rules ++ [rule]⟩

/-- The table with further rules added in order, up to the first that is refused. -/
def addAll (t : ToleranceTable) : List ToleranceRule → Except ConfigurationError ToleranceTable
  | [] => .ok t
  | rule :: rules => do (← t.add rule).addAll rules

/-- The rule for a column of a table. -/
def find? (t : ToleranceTable) (table column : String) : Option ToleranceRule :=
  (t.rules.find? fun r => r.isForTable table && r.isForColumn column).or
    (t.rules.find? fun r => r.isForAnyTable && r.isForColumn column)

/-- The tolerated difference for a column of a table. -/
def delta? (t : ToleranceTable) (table column : String) : Option Decimal :=
  (t.find? table column).map (·.delta)

end ToleranceTable

end TableDiff
