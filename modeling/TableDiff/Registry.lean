import TableDiff.Registry.Adapter
import TableDiff.Registry.Tolerance
import TableDiff.Registry.VendorTypes

/-!
# Type registries

A registry resolves the types that a driver reports, applies the registered tolerances to numeric
columns and routes values to the adapters of the driver.
-/

namespace TableDiff

/-- A vendor mapping, if there is one, with tolerances and adapters. -/
structure Registry where
  vendor? : Option Vendor := none
  tolerances : ToleranceTable := {}
  adapters : List DriverAdapter := []

namespace Registry

/-- The registry for a database product. -/
def forProduct (product : String) : Registry := { vendor? := some (.ofProduct product) }

/-- The registry with one more tolerance. -/
def addTolerance (r : Registry) (rule : ToleranceRule) : Except ConfigurationError Registry := do
  return { r with tolerances := ← r.tolerances.add rule }

/-- The registry of a configuration: its vendor and its tolerances. -/
def ofConfig (c : Config) : Except ConfigurationError Registry := do
  return { vendor? := some c.vendor, tolerances := ← ToleranceTable.addAll {} c.tolerances }

/-- The name of the vendor whose mapping comes first. -/
def vendorName (r : Registry) : String := (r.vendor?.getD .default).name

/-- The registry with one more adapter, which must be available. -/
def registerAdapter (r : Registry) (a : DriverAdapter) : Except ConfigurationError Registry :=
  match a.unavailable? with
  | some reason => .error (.adapterUnavailable a.name reason)
  | none => .ok { r with adapters := r.adapters ++ [a] }

/-! ## Types -/

/-- The type that a driver reports: by the vendor's mapping, else by the default one, else
unknown. -/
def resolve (r : Registry) (code : Int) (name : String) : LogicalType :=
  match (r.vendor?.bind (·.lookup? code name)).or (Vendor.default.lookup? code name) with
  | some t => .plain t
  | none => .unknown

/-- A type with the tolerance that is registered for a column, if the type accepts one. -/
def withTolerance (r : Registry) (table column : String) (t : LogicalType) : LogicalType :=
  match t with
  | .tolerant _ _ => t
  | .plain d =>
    if d.acceptsTolerance then
      match r.tolerances.delta? table column with
      | some delta => .tolerant d delta
      | none => t
    else t

/-- The type that a driver reports for a column, with the tolerance registered for the column. -/
def resolveForColumn (r : Registry) (code : Int) (name table column : String) : LogicalType :=
  r.withTolerance table column (r.resolve code name)

/-! ## Values -/

/-- The first adapter that supports a type. -/
def adapterFor? (r : Registry) (t : DataType) : Option DriverAdapter :=
  r.adapters.find? (·.supports t)

/-- A value in the form of a type, bound for the driver if an adapter supports the type. -/
def bindValue (r : Registry) (t : LogicalType) (v : Value) : Except ConversionError Value := do
  let w ← t.convert v
  match r.adapterFor? t.dataType with
  | some a => a.bind t.dataType w
  | none => return w

end Registry

end TableDiff
