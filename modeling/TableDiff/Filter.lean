import TableDiff.Config
import TableDiff.Filter.Wildcard

/-!
# Column filters

A filter decides which columns take part in a comparison. A pattern filter has patterns of columns
to include and to exclude; an exclusion wins, and without a pattern to include every column that is
not excluded takes part. A pattern with a dot describes the table and the column, any other the
column alone.
-/

namespace TableDiff

/-- Whether the column of a table takes part, given the names of both. -/
abbrev ColumnFilter := String → String → Bool

namespace ColumnRules

/-- The text that a pattern is matched with. -/
def subject (pattern table column : String) : String :=
  if '.' ∈ pattern.toList then table ++ "." ++ column else column

/-- Whether a pattern describes the column of a table. -/
def describes (pattern table column : String) : Bool :=
  Wildcard.fits pattern (subject pattern table column)

/-- Whether the column of a table takes part. -/
def accepts (r : ColumnRules) (table column : String) : Bool :=
  !(r.excluded.any (describes · table column)) &&
    (r.included.isEmpty || r.included.any (describes · table column))

end ColumnRules

end TableDiff
