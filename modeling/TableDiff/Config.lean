import TableDiff.DataSet
import TableDiff.Numeric.Decimal

/-!
# Configuration

The settings of a comparison: the database vendor, what extra tables and columns mean, how data
sets are merged, which columns take part, and the numeric tolerances.
-/

namespace TableDiff

open TableDiff.Numeric

/-- The database vendors with a type mapping of their own, and the default mapping. -/
inductive Vendor where
  | default
  | mssql
  | h2
  | postgres
  deriving DecidableEq, Repr

/-- The name of a vendor in configurations. -/
def Vendor.name : Vendor → String
  | default => "default"
  | mssql => "mssql"
  | h2 => "h2"
  | postgres => "postgres"

/-- Whether columns and tables that are not expected are reported or ignored. -/
inductive ComparisonMode where
  | nonStrict
  | strict
  deriving DecidableEq, Repr

/-- A tolerated difference for a column of one table, or of any table if its name is `*`. -/
structure ToleranceRule where
  table : String := "*"
  column : String
  delta : Decimal
  deriving DecidableEq

/-- Patterns of the columns that take part in a comparison. -/
structure ColumnRules where
  /-- Only columns that one of these describes take part, all columns if there are none. -/
  included : List String := []
  /-- Columns that one of these describes take no part. -/
  excluded : List String := []
  deriving DecidableEq

def ColumnRules.isEmpty (r : ColumnRules) : Bool := r.included.isEmpty && r.excluded.isEmpty

/-- The settings of a comparison. -/
structure Config where
  vendor : Vendor := .default
  mode : ComparisonMode := .nonStrict
  mergePolicy : MergePolicy := .firstWins
  ignoredColumns : List String := []
  columns : ColumnRules := {}
  tolerances : List ToleranceRule := []
  deriving DecidableEq

/-- Whether two rules are the same, the tolerated differences being compared as numbers. -/
def ToleranceRule.same (a b : ToleranceRule) : Bool :=
  a.table == b.table && a.column == b.column && a.delta.same b.delta

/-- Whether two configurations are the same, tolerated differences being compared as numbers. -/
def Config.same (a b : Config) : Bool :=
  a.vendor == b.vendor && a.mode == b.mode && a.mergePolicy == b.mergePolicy &&
    a.ignoredColumns == b.ignoredColumns && a.columns == b.columns &&
    a.tolerances.length == b.tolerances.length &&
    (a.tolerances.zip b.tolerances).all fun p => p.1.same p.2

/-- Why a configuration cannot be loaded. -/
inductive ConfigError where
  /-- The file cannot be read, for the given reason. -/
  | io (reason : String)
  /-- The text is no configuration. -/
  | parse
  deriving DecidableEq, Repr

end TableDiff
