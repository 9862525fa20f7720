import TableDiff.Config
import TableDiff.Text.CaseMap

/-!
# Type mappings of database vendors

A driver reports the type of a column as a code and a name. Each vendor has a mapping of its own
spellings to data types; what it does not know is left to the default mapping, which goes by the
standard codes. Names count without blanks around them and without regard to the case of letters.
-/

namespace TableDiff.Vendor

open TableDiff.Text

/-- A reported name in lower case without blanks around it. -/
def lowerTrimmed (name : String) : String := String.ofList (toLower (trim name.toList))

/-- A reported name in upper case without blanks around it. -/
def upperTrimmed (name : String) : String := String.ofList (toUpper (trim name.toList))

/-- The names under which database products of the vendor report themselves. -/
def products : Vendor → List String
  | default => ["default", "derby", "apache derby"]
  | mssql => ["mssql", "microsoft sql server", "sql server"]
  | h2 => ["h2"]
  | postgres => ["postgresql", "postgres"]

def servesProduct (v : Vendor) (product : String) : Bool := lowerTrimmed product ∈ v.products

/-- The vendor of a product; the default one if the product is not known. -/
def ofProduct (product : String) : Vendor :=
  ([mssql, h2, postgres].find? (·.servesProduct product)).getD default

/-! ## The mappings -/

/-- The default mapping: standard codes, and large objects that are reported by name only. -/
def defaultType? (code : Int) (name : String) : Option DataType :=
  if code = TypeCode.other then
    match upperTrimmed name with
    | "BLOB" => some .blob
    | "CLOB" => some .clob
    | _ => none
  else DataType.ofCode? code

/-- The mapping of SQL Server: codes of its own, and unique identifiers reported as characters. -/
def mssqlType? (code : Int) (name : String) : Option DataType :=
  match code with
  | -8 => some .char
  | -9 => some .varchar
  | -10 | -16 => some .longVarchar
  | -155 => some .timestampWithTimeZone
  | _ =>
    if code = TypeCode.char ∧ sameName (String.ofList (trim name.toList)) "uniqueidentifier" then
      some .uuid
    else none

/-- The mapping of H2, by name alone; its UUIDs are kept as text. -/
def h2Type? (name : String) : Option DataType :=
  match upperTrimmed name with
  | "BOOLEAN" => some .boolean
  | "UUID" => some .nVarchar
  | _ => none

/-- The type of a PostgreSQL type name; what stands in parentheses after it does not count. -/
def postgresNamedType? (name : String) : Option DataType :=
  match String.ofList (toLower (trim (name.toList.takeWhile (· ≠ '(')))) with
  | "uuid" => some .uuid
  | "citext" => some .citext
  | "bool" | "boolean" => some .boolean
  | "json" | "jsonb" | "xml" => some .longVarchar
  | "bytea" => some .varBinary
  | "timestamptz" => some .timestampWithTimeZone
  | _ => none

/-- The mapping of PostgreSQL, by name under the few codes that it reports many types as. -/
def postgresType? (code : Int) (name : String) : Option DataType :=
  if code ∈ [TypeCode.other, TypeCode.bit, TypeCode.timestamp, TypeCode.binary] then
    postgresNamedType? name
  else none

/-- The type that a vendor's own mapping gives. -/
def lookup? (v : Vendor) (code : Int) (name : String) : Option DataType :=
  match v with
  | default => defaultType? code name
  | mssql => mssqlType? code name
  | h2 => h2Type? name
  | postgres => postgresType? code name

end TableDiff.Vendor
