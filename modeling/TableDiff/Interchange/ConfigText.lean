import TableDiff.Interchange.Config
import TableDiff.Toml.Quoted
import TableDiff.Toml.Reader

/-!
# Configuration files

A configuration is kept as a TOML document. Missing keys have their defaults and unknown keys do not
count. When a configuration is written, all keys are, lists of several items with an item to a line.
-/

namespace TableDiff

open TableDiff.Numeric

/-! ## Reading -/

/-- A decimal from text, with or without an exponent, or from a number. -/
def Numeric.Decimal.ofToml? : Toml → Option Decimal
  | .string s => (Decimal.ofText? s.toList).or (Decimal.ofScientific? s.toList)
  | .integer i => Decimal.ofParts? (i < 0) i.natAbs 0
  | .float x => Decimal.ofText? x.text
  | _ => none

def tomlStrings? (v : Toml) : Option (List String) := v.list? Toml.string?

def ToleranceRule.ofToml? (v : Toml) : Option ToleranceRule := do
  let fields ← v.fields? ["table", "column", "delta"]
  return {
    table := ← Toml.optional fields "table" "*" Toml.string?
    column := ← Toml.required fields "column" Toml.string?
    delta := ← Toml.required fields "delta" Decimal.ofToml? }

def ColumnRules.ofToml? (v : Toml) : Option ColumnRules := do
  let fields ← v.fields? ["include", "exclude"]
  return {
    included := ← Toml.optional fields "include" [] tomlStrings?
    excluded := ← Toml.optional fields "exclude" [] tomlStrings? }

namespace Config

def ofToml? (v : Toml) : Option Config := do
  let fields ← v.fields?
    ["vendor", "mode", "merge_policy", "ignored_columns", "columns", "tolerances"]
  return {
    vendor := ← Toml.optional fields "vendor" .default (Toml.word? Vendor.tags)
    mode := ← Toml.optional fields "mode" .nonStrict (Toml.word? ComparisonMode.tags)
    mergePolicy := ← Toml.optional fields "merge_policy" .firstWins (Toml.word? MergePolicy.tags)
    ignoredColumns := ← Toml.optional fields "ignored_columns" [] tomlStrings?
    columns := ← Toml.optional fields "columns" {} ColumnRules.ofToml?
    tolerances := ← Toml.optional fields "tolerances" [] (Toml.list? ToleranceRule.ofToml?) }

/-- The configuration that a document holds. -/
def ofText (text : String) : Except ConfigError Config :=
  match (Toml.ofText? text).bind ofToml? with
  | some c => .ok c
  | none => .error .parse

/-- The configuration in a file, given the file's text or the reason why it cannot be read. -/
def ofFile (file : Except String String) : Except ConfigError Config :=
  match file with
  | .ok text => ofText text
  | .error reason => .error (.io reason)

/-! ## Writing -/

/-- A list of strings; more than one are written on lines of their own. -/
def listChars (ss : List String) : List Char :=
  match ss with
  | [] => ['[', ']']
  | [s] => '[' :: Toml.quote s ++ [']']
  | _ =>
    '[' :: '\n' :: ss.flatMap (fun s => "    ".toList ++ Toml.quote s ++ [',', '\n']) ++ [']']

/-- A line with a key and its value. -/
def lineChars (key : String) (value : List Char) : List Char :=
  key.toList ++ " = ".toList ++ value ++ ['\n']

/-- A repeated table for a tolerance. -/
def toleranceChars (r : ToleranceRule) : List Char :=
  "\n[[tolerances]]\n".toList ++ lineChars "table" (Toml.quote r.table) ++
    lineChars "column" (Toml.quote r.column) ++
    lineChars "delta" (Toml.quote (String.ofList r.delta.text))

/-- The text of a configuration file. -/
def text (c : Config) : String :=
  String.ofList <|
    lineChars "vendor" (Toml.quote c.vendor.name) ++ lineChars "mode" (Toml.quote c.mode.tag) ++
      lineChars "merge_policy" (Toml.quote c.mergePolicy.tag) ++
      lineChars "ignored_columns" (listChars c.ignoredColumns) ++
      (if c.tolerances.isEmpty then lineChars "tolerances" ['[', ']'] else []) ++
      "\n[columns]\n".toList ++ lineChars "include" (listChars c.columns.included) ++
      lineChars "exclude" (listChars c.columns.excluded) ++
      c.tolerances.flatMap toleranceChars

/-- What a file holds once a configuration is saved to it, given the reason why the file cannot be
written if there is one. -/
def save (c : Config) (file : Except String Unit) : Except ConfigError String :=
  match file with
  | .ok () => .ok c.text
  | .error reason => .error (.io reason)

end Config

/-- The message of an error of a configuration file that cannot be read. -/
def ConfigError.ioMessage (reason : String) : String := s!"IO error: {reason}"

end TableDiff
