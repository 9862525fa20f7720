import TableDiff.LogicalType

/-!
# Driver adapters

An adapter turns values in the form of a type into the form in which a driver wants to write them.
-/

namespace TableDiff

/-- How values of some types are bound for a driver. -/
structure DriverAdapter where
  name : String
  supports : DataType → Bool
  /-- Why the adapter cannot be used, if it cannot. -/
  unavailable? : Option String := none
  bind : DataType → Value → Except ConversionError Value

namespace DriverAdapter

/-- Writes UUIDs and case-insensitive text as text, as the PostgreSQL driver wants them. -/
def postgresObject : DriverAdapter where
  name := "pg-object"
  supports t := t == .uuid || t == .citext
  bind t v :=
    match v with
    | .null => .ok .null
    | .uuid u => .ok (.text (String.ofList u.text))
    | .text s => .ok (.text s)
    | _ => .error ⟨v, t.name, .notBindable⟩

/-- An adapter whose driver is not there, which no registry takes. -/
def missing : DriverAdapter where
  name := "missing"
  supports _ := false
  unavailable? := some "driver library not loaded"
  bind _ v := .ok v

end DriverAdapter

end TableDiff
