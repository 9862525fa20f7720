import TableDiff.Config
import TableDiff.Interchange.Value

/-!
# Configurations as JSON

All members of a configuration are written; when one is read, missing members have their defaults.
-/

namespace TableDiff

open TableDiff.Numeric

namespace Vendor

def all : List Vendor := [default, mssql, h2, postgres]

def tags : List (String × Vendor) := all.map fun v => (v.name, v)

end Vendor

namespace ComparisonMode

def tag : ComparisonMode → String
  | nonStrict => "non_strict"
  | strict => "strict"

def tags : List (String × ComparisonMode) := [nonStrict, strict].map fun m => (m.tag, m)

end ComparisonMode

namespace MergePolicy

def tag : MergePolicy → String
  | firstWins => "first_wins"
  | combine => "combine"

def tags : List (String × MergePolicy) := [firstWins, combine].map fun p => (p.tag, p)

end MergePolicy

namespace ToleranceRule

def toJson (r : ToleranceRule) : Json :=
  .object [("table", .string r.table), ("column", .string r.column), ("delta", r.delta.toJson)]

def ofJson? (j : Json) : Option ToleranceRule := do
  let r ← j.record? ["table", "column", "delta"]
  return {
    table := ← r.optional "table" "*" Json.string?
    column := ← r.required "column" Json.string?
    delta := ← r.required "delta" Decimal.ofJson? }

end ToleranceRule

namespace ColumnRules

def toJson (r : ColumnRules) : Json :=
  .object [("include", .ofStrings r.included), ("exclude", .ofStrings r.excluded)]

def ofJson? (j : Json) : Option ColumnRules := do
  let r ← j.record? ["include", "exclude"]
  return {
    included := ← r.optional "include" [] Json.strings?
    excluded := ← r.optional "exclude" [] Json.strings? }

end ColumnRules

namespace Config

def toJson (c : Config) : Json :=
  .object [("vendor", .string c.vendor.name), ("mode", .string c.mode.tag),
    ("merge_policy", .string c.mergePolicy.tag),
    ("ignored_columns", .ofStrings c.ignoredColumns), ("columns", c.columns.toJson),
    ("tolerances", .array (c.tolerances.map ToleranceRule.toJson))]

def ofJson? (j : Json) : Option Config := do
  let r ← j.record?
    ["vendor", "mode", "merge_policy", "ignored_columns", "columns", "tolerances"]
  return {
    vendor := ← r.optional "vendor" .default (Json.word? Vendor.tags)
    mode := ← r.optional "mode" .nonStrict (Json.word? ComparisonMode.tags)
    mergePolicy := ← r.optional "merge_policy" .firstWins (Json.word? MergePolicy.tags)
    ignoredColumns := ← r.optional "ignored_columns" [] Json.strings?
    columns := ← r.optional "columns" {} ColumnRules.ofJson?
    tolerances := ← r.optional "tolerances" [] (Json.list? ToleranceRule.ofJson?) }

end Config

end TableDiff
