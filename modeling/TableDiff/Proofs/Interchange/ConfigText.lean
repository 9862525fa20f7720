import TableDiff.Interchange.ConfigText
import TableDiff.Proofs.Numeric.WrittenDecimal
import TableDiff.Proofs.Toml.Drafts
import TableDiff.Proofs.Toml.Lines

/-!
# A saved configuration loads as itself

The text of a configuration file has a line for each key (`Config.lists_text`), and the document is
the record of the configuration's fields (`Config.toml_ofText?_text`). Reading the record gives the
configuration back (`Config.ofToml?_table`), whatever strings are in it and however many; decimals
keep their scale, and only a decimal zero loses its sign. So a configuration that was saved loads as
the same one (`Config.load_saved`).
-/

namespace TableDiff

open TableDiff.Numeric TableDiff.Toml

/-! ## Written fields -/

theorem Toml.list?_array {α β : Type} {read : Toml → Option β} {write : α → Toml} {back : α → β}
    (h : ∀ x, read (write x) = some (back x)) (xs : List α) :
    (array (xs.map write)).list? read = some (xs.map back) := by
  have hread : read ∘ write = fun x => some (back x) := funext h
  rw [list?, List.mapM_map, hread]
  exact List.mapM_pure

theorem tomlStrings?_array (ss : List String) :
    tomlStrings? (.array (ss.map .string)) = some ss := by
  have hback := @list?_array String String string? .string id (fun _ => rfl) ss
  rwa [List.map_id] at hback

theorem Vendor.word?_name (v : Vendor) : word? tags (.string v.name) = some v := by
  cases v <;> decide

theorem ComparisonMode.word?_tag (m : ComparisonMode) : word? tags (.string m.tag) = some m := by
  cases m <;> decide

theorem MergePolicy.word?_tag (p : MergePolicy) : word? tags (.string p.tag) = some p := by
  cases p <;> decide

theorem Config.writes_listChars (ss : List String) :
    Writes (listChars ss) (.array (ss.map .string)) := by
  unfold listChars
  split
  next => exact writes_empty
  next s => exact writes_single s
  next => exact writes_itemLines ss

theorem Config.lists_lineChars {key : String} {cs : List Char} {v : Toml} (hkey : IsBare key)
    (h : Writes cs v) : Lists (lineChars key cs) [.pair [] key v] := lists_pair hkey h

/-! ## Tolerances -/

namespace ToleranceRule

/-- The keys of a tolerance with their values. -/
def entries (r : ToleranceRule) : List (String × Toml) :=
  [("table", .string r.table), ("column", .string r.column),
    ("delta", .string (String.ofList r.delta.text))]

/-- The tolerance, a zero without its sign. -/
def plain (r : ToleranceRule) : ToleranceRule := { r with delta := r.delta.plainZero }

theorem same_plain (r : ToleranceRule) : r.plain.same r = true := by
  simp [same, plain, Decimal.same_plainZero]

theorem ofToml?_table (r : ToleranceRule) : ofToml? (.table r.entries) = some r.plain := by
  have htable : Toml.optional r.entries "table" "*" string? = some r.table := rfl
  have hcolumn : required r.entries "column" string? = some r.column := rfl
  have hdelta : required r.entries "delta" Decimal.ofToml? = some r.delta.plainZero := by
    change Decimal.ofToml? (.string (String.ofList r.delta.text)) = _
    rw [Decimal.ofToml?, String.toList_ofList, Decimal.ofText?_text, Option.some_or]
  simp only [ofToml?, fields?, htable, hcolumn, hdelta, Option.bind_eq_bind, Option.bind_some]
  rfl

theorem lists_toleranceChars (r : ToleranceRule) :
    Lists (Config.toleranceChars r) (.repeatedHeader [] "tolerances" :: pairLines r.entries) := by
  have hbare : IsBare "tolerances" := by decide
  have hheader : Lists "\n[[tolerances]]\n".toList [.repeatedHeader [] "tolerances"] :=
    lists_repeatedHeader hbare
  exact ((hheader.append (Config.lists_lineChars (by decide) (writes_quote r.table))).append
    (Config.lists_lineChars (by decide) (writes_quote r.column))).append
      (Config.lists_lineChars (by decide) (writes_quote _))

end ToleranceRule

/-! ## Column rules -/

namespace ColumnRules

/-- The keys of column rules with their values. -/
def entries (r : ColumnRules) : List (String × Toml) :=
  [("include", .array (r.included.map .string)), ("exclude", .array (r.excluded.map .string))]

theorem ofToml?_table (r : ColumnRules) : ofToml? (.table r.entries) = some r := by
  have hinclude : Toml.optional r.entries "include" [] tomlStrings? = some r.included :=
    tomlStrings?_array r.included
  have hexclude : Toml.optional r.entries "exclude" [] tomlStrings? = some r.excluded :=
    tomlStrings?_array r.excluded
  simp only [ofToml?, fields?, hinclude, hexclude, Option.bind_eq_bind, Option.bind_some]
  rfl

theorem lists_columnsChars (r : ColumnRules) :
    Lists ("\n[columns]\n".toList ++ Config.lineChars "include" (Config.listChars r.included) ++
      Config.lineChars "exclude" (Config.listChars r.excluded))
      (.header [] "columns" :: pairLines r.entries) := by
  have hbare : IsBare "columns" := by decide
  have hheader : Lists "\n[columns]\n".toList [.header [] "columns"] := lists_header hbare
  exact (hheader.append (Config.lists_lineChars (by decide) (Config.writes_listChars _))).append
    (Config.lists_lineChars (by decide) (Config.writes_listChars _))

end ColumnRules

/-! ## Configurations -/

namespace Config

/-- The keys in front of the first header with their values; an empty list of tolerances is one of
them. -/
def rootEntries (c : Config) : List (String × Toml) :=
  [("vendor", .string c.vendor.name), ("mode", .string c.mode.tag),
    ("merge_policy", .string c.mergePolicy.tag),
    ("ignored_columns", .array (c.ignoredColumns.map .string))] ++
    if c.tolerances.isEmpty then [("tolerances", .array [])] else []

/-- The lines of the file. -/
def statements (c : Config) : List Statement :=
  pairLines c.rootEntries ++ .header [] "columns" :: pairLines c.columns.entries ++
    tableLines "tolerances" (c.tolerances.map ToleranceRule.entries)

/-- The keys of the document with their values. -/
def entries (c : Config) : List (String × Toml) :=
  c.rootEntries ++ ("columns", .table c.columns.entries) ::
    if c.tolerances.isEmpty then []
    else [("tolerances", .array (c.tolerances.map fun r => .table r.entries))]

/-- The configuration, zeros among the tolerated differences without their sign. -/
def plain (c : Config) : Config := { c with tolerances := c.tolerances.map ToleranceRule.plain }

theorem same_plain (c : Config) : c.plain.same c = true := by
  have hrules : ∀ rules : List ToleranceRule,
      ((rules.map ToleranceRule.plain).zip rules).all (fun p => p.1.same p.2) = true := by
    intro rules
    induction rules with
    | nil => rfl
    | cons r rules ih => simp [r.same_plain, ih]
  simp [same, plain, hrules]

theorem lists_rootChars (c : Config) :
    Lists (lineChars "vendor" (quote c.vendor.name) ++ lineChars "mode" (quote c.mode.tag) ++
      lineChars "merge_policy" (quote c.mergePolicy.tag) ++
      lineChars "ignored_columns" (listChars c.ignoredColumns) ++
      (if c.tolerances.isEmpty then lineChars "tolerances" ['[', ']'] else []))
      (pairLines c.rootEntries) := by
  have hnone : Lists (if c.tolerances.isEmpty then lineChars "tolerances" ['[', ']'] else [])
      (pairLines (if c.tolerances.isEmpty then [("tolerances", .array [])] else [])) := by
    split
    · exact lists_lineChars (by decide) writes_empty
    · exact lists_nil
  rw [rootEntries, pairLines, List.map_append]
  exact ((((lists_lineChars (by decide) (writes_quote _)).append
    (lists_lineChars (by decide) (writes_quote _))).append
    (lists_lineChars (by decide) (writes_quote _))).append
    (lists_lineChars (by decide) (writes_listChars _))).append hnone

/-- The lines of the file are the statements, in their order. -/
theorem lists_text (c : Config) : Lists c.text.toList c.statements := by
  have htolerances : Lists (c.tolerances.flatMap toleranceChars)
      (tableLines "tolerances" (c.tolerances.map ToleranceRule.entries)) := by
    rw [tableLines, List.flatMap_map]
    exact lists_flatMap ToleranceRule.lists_toleranceChars c.tolerances
  have hall := (c.lists_rootChars.append c.columns.lists_columnsChars).append htolerances
  rw [text, String.toList_ofList]
  simpa only [statements, List.append_assoc] using hall

/-- Carrying out the statements gives the keys of the document their values. -/
theorem finish_statements (c : Config) :
    (c.statements.foldlM Draft.apply {}).map (fun d => finishEntries d.entries) =
      some c.entries := by
  have hkeys : ("columns" :: c.rootEntries.map Prod.fst).Nodup := by
    rw [rootEntries]
    split <;> simp
  have hnone : c.tolerances.map ToleranceRule.entries = [] ∨
      "tolerances" ∉ "columns" :: c.rootEntries.map Prod.fst := by
    -- only without tolerances does their key stand in front of the first header
    cases h : c.tolerances with
    | nil => exact .inl rfl
    | cons r rules =>
      right
      simp [rootEntries, h]
  have htables : ∀ t ∈ c.tolerances.map ToleranceRule.entries, (t.map Prod.fst).Nodup := by
    rintro t ht
    obtain ⟨r, -, rfl⟩ := List.mem_map.1 ht
    simp [ToleranceRule.entries]
  have hcolumns : (c.columns.entries.map Prod.fst).Nodup := by simp [ColumnRules.entries]
  have hdocument := finish_document hkeys hcolumns htables hnone
  rw [List.isEmpty_map, List.map_map] at hdocument
  exact hdocument

/-- The document has the keys of the configuration with their values. -/
theorem toml_ofText?_text (c : Config) : Toml.ofText? c.text = some (.table c.entries) := by
  have hmark : dropMark c.text.toList = c.text.toList := by
    rw [text, String.toList_ofList]
    rfl
  obtain ⟨d, hrun, hfinish⟩ := Option.map_eq_some_iff.1 c.finish_statements
  simp only [Toml.ofText?, hmark, c.lists_text.statements?_eq, hrun, hfinish, Option.bind_eq_bind,
    Option.bind_some]
  rfl

theorem optional_columns (c : Config) :
    Toml.optional c.entries "columns" {} ColumnRules.ofToml? = some c.columns := by
  have hread := c.columns.ofToml?_table
  rw [entries, rootEntries]
  cases c.tolerances.isEmpty with
  | true => exact hread
  | false => exact hread

theorem optional_tolerances (c : Config) :
    Toml.optional c.entries "tolerances" [] (Toml.list? ToleranceRule.ofToml?) =
      some (c.tolerances.map ToleranceRule.plain) := by
  have hread := list?_array ToleranceRule.ofToml?_table c.tolerances
  cases h : c.tolerances with
  | nil =>
    rw [entries, rootEntries, h]
    rfl
  | cons r rules =>
    rw [h] at hread
    rw [entries, rootEntries, h]
    exact hread

theorem ofToml?_table (c : Config) : ofToml? (.table c.entries) = some c.plain := by
  have hvendor : Toml.optional c.entries "vendor" .default (word? Vendor.tags) = some c.vendor :=
    c.vendor.word?_name
  have hmode : Toml.optional c.entries "mode" .nonStrict (word? ComparisonMode.tags) =
      some c.mode := c.mode.word?_tag
  have hpolicy : Toml.optional c.entries "merge_policy" .firstWins (word? MergePolicy.tags) =
      some c.mergePolicy := c.mergePolicy.word?_tag
  have hignored : Toml.optional c.entries "ignored_columns" [] tomlStrings? =
      some c.ignoredColumns := tomlStrings?_array c.ignoredColumns
  simp only [ofToml?, fields?, hvendor, hmode, hpolicy, hignored, c.optional_columns,
    c.optional_tolerances, Option.bind_eq_bind, Option.bind_some]
  rfl

/-- **A saved configuration loads as itself**: writing it to a file that can be written does not
fail, and reading the file gives the same configuration. -/
theorem load_saved (c : Config) :
    ∃ file, c.save (.ok ()) = .ok file ∧
      ∃ read, ofFile (.ok file) = .ok read ∧ read.same c = true := by
  refine ⟨c.text, rfl, c.plain, ?_, c.same_plain⟩
  rw [ofFile, ofText, toml_ofText?_text, Option.bind_some, ofToml?_table]

end Config

end TableDiff
