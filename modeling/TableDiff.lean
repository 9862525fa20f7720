import TableDiff.Text.Blank
import TableDiff.Text.AsciiCase
import TableDiff.Text.CaseMap
import TableDiff.Text.Digits
import TableDiff.Text.Quoted
import TableDiff.Text.Base64
import TableDiff.Numeric.Binary64.Reader
import TableDiff.Numeric.Binary64.Shortest
import TableDiff.Numeric.Decimal.Approximation
import TableDiff.Numeric.ExactDecimal
import TableDiff.Calendar.Timestamp
import TableDiff.Calendar.Reading
import TableDiff.Calendar.Writing
import TableDiff.Uuid
import TableDiff.Value
import TableDiff.DataType
import TableDiff.LogicalType
import TableDiff.Table.Sorted
import TableDiff.Table.View
import TableDiff.DataSet
import TableDiff.Report
import TableDiff.Config
import TableDiff.Dependency
import TableDiff.Registry
import TableDiff.Filter.Wildcard
import TableDiff.Assertion
import TableDiff.Json.Reader
import TableDiff.Json.Number
import TableDiff.Interchange.Schema
import TableDiff.Interchange.Report
import TableDiff.Interchange.Config
import TableDiff.Toml.Scalar
import TableDiff.Toml.Reader
import TableDiff.Interchange.ConfigText
import TableDiff.Proofs.Text.Digits
import TableDiff.Proofs.Numeric.ExactValue
import TableDiff.Proofs.Numeric.DecimalText
import TableDiff.Proofs.Numeric.ExactText
import TableDiff.Proofs.Conversion.Number
import TableDiff.Proofs.Conversion.Verdict
import TableDiff.Proofs.Search.Moves
import TableDiff.Proofs.Search.Postorder
import TableDiff.Proofs.Report.Summary
import TableDiff.Proofs.Report.Building
import TableDiff.Proofs.Comparison.Tables
import TableDiff.Proofs.Comparison.DataSets
import TableDiff.Proofs.Value.Order
import TableDiff.Proofs.Conversion.Key
import TableDiff.Proofs.Comparison.Passing
import TableDiff.Proofs.Table.Sorting
import TableDiff.Proofs.Comparison.SortedViews
import TableDiff.Proofs.Comparison.CanonicalKeys
import TableDiff.Proofs.Search.Fallible
import TableDiff.Proofs.Search.Recursion
import TableDiff.Proofs.Search.Sorted
import TableDiff.Proofs.Search.Alike
import TableDiff.Proofs.Search.Calls
import TableDiff.Proofs.Search.Termination
import TableDiff.Proofs.Search.Bookkeeping
import TableDiff.Proofs.Text.Case
import TableDiff.Proofs.Dependency.Order
import TableDiff.Proofs.Dependency.Failure
import TableDiff.Proofs.Dependency.FixedPoint
import TableDiff.Proofs.Dependency.References
import TableDiff.Proofs.Conversion.ExactComparison
import TableDiff.Proofs.Comparison.Exclusion
import TableDiff.Proofs.DataSet.Lookup
import TableDiff.Proofs.Registry.Tolerances
import TableDiff.Proofs.Registry.History
import TableDiff.Proofs.Registry.Spelling
import TableDiff.Proofs.Registry.Binding
import TableDiff.Proofs.Value.Equality
import TableDiff.Proofs.Comparison.Failing
import TableDiff.Proofs.Comparison.OwnColumns
import TableDiff.Proofs.Comparison.SelfComparison
import TableDiff.Proofs.Comparison.RowOrder
import TableDiff.Proofs.Comparison.ActualColumns
import TableDiff.Proofs.Comparison.StrictMode
import TableDiff.Proofs.Comparison.FirstFailure
import TableDiff.Proofs.Comparison.AddedTolerance
import TableDiff.Proofs.Conversion.TypeOrder
import TableDiff.Proofs.DataSet.Merging
import TableDiff.Proofs.Table.Concatenation
import TableDiff.Proofs.DataSet.Stepwise
import TableDiff.Proofs.Calendar.WrittenForms
import TableDiff.Proofs.Numeric.WrittenDecimal
import TableDiff.Proofs.Text.Base64
import TableDiff.Proofs.Text.WrittenUuid
import TableDiff.Proofs.Conversion.WrittenValue
import TableDiff.Proofs.Json.RoundTrip
import TableDiff.Proofs.Interchange.Value
import TableDiff.Proofs.Interchange.Report
import TableDiff.Proofs.Table.StableSort
import TableDiff.Proofs.Conversion.Coherence
import TableDiff.Proofs.Conversion.Idempotence
import TableDiff.Proofs.Comparison.TypeOrderedViews
import TableDiff.Proofs.Conversion.Symmetry
import TableDiff.Proofs.Value.TotalPreorder
import TableDiff.Proofs.Calendar.OneForm
import TableDiff.Proofs.Conversion.Temporal
import TableDiff.Proofs.Numeric.WholePart
import TableDiff.Proofs.Numeric.WholeFloat
import TableDiff.Proofs.Numeric.PlainLiteral
import TableDiff.Proofs.Conversion.WholeNumber
import TableDiff.Proofs.Filter.Expansion
import TableDiff.Proofs.Filter.Indices
import TableDiff.Proofs.Table.NestedViews
import TableDiff.Proofs.Toml.Quoted
import TableDiff.Proofs.Toml.Lines
import TableDiff.Proofs.Toml.Drafts
import TableDiff.Proofs.Interchange.ConfigText
