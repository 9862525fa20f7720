import TableDiff.Comparison

/-!
# Configured assertions

A comparer together with the column rules, ignored columns and merge policy of one configuration.
-/

namespace TableDiff

/-- What one configuration asks of a comparison. -/
structure Assertion where
  comparer : Comparer
  rules : ColumnRules := {}
  ignored : List String := []
  mergePolicy : MergePolicy := .firstWins

namespace Assertion

/-- The assertion of a configuration. -/
def ofConfig (c : Config) : Except DiffError Assertion := do
  let comparer ← (Comparer.ofConfig c).mapError .configuration
  return {
    comparer
    rules := c.columns
    ignored := c.ignoredColumns
    mergePolicy := c.mergePolicy }

/-- The columns that take no part. -/
def exclusions (a : Assertion) : Exclusions where
  filters := if a.rules.isEmpty then [] else [a.rules.accepts]
  ignored := a.ignored

def compareTables (a : Assertion) (expected actual : Table) : Except DiffError Report :=
  a.comparer.compareTables a.exclusions expected actual

def compareDataSets (a : Assertion) (expected actual : DataSet) : Except DiffError Report :=
  a.comparer.compareDataSets a.exclusions expected actual

/-- The comparison with several expected data sets merged into one. -/
def compareMerged (a : Assertion) (expected : List DataSet) (actual : DataSet) :
    Except DiffError Report := do
  let merged ← (DataSet.merge a.mergePolicy expected).mapError .dataSet
  a.compareDataSets merged actual

/-- Nothing if the data sets agree, else the failed report. -/
def assertEqual (a : Assertion) (expected actual : DataSet) : Except DiffError Unit := do
  let report ← a.compareDataSets expected actual
  report.toResult.mapError .assertion

end Assertion

end TableDiff
