/-!
# Data types

The canonical types of columns, their names, the standard codes under which database drivers
report them, and the families of types that hold the same kind of values.
-/

namespace TableDiff

/-- The value domains of data types. -/
inductive TypeFamily where
  | text
  | exactNumeric
  | integer
  | floating
  | boolean
  | date
  | time
  | timestamp
  | zoned
  | binary
  | uuid
  | unknown
  deriving DecidableEq, Repr

/-- A canonical data type. -/
inductive DataType where
  | unknown
  | char
  | varchar
  | longVarchar
  | nChar
  | nVarchar
  | longNVarchar
  | clob
  | nClob
  /-- Text that ignores the case of letters. -/
  | citext
  | numeric
  | decimal
  | boolean
  | bit
  | tinyInt
  | smallInt
  | integer
  | bigInt
  | real
  | float
  | double
  | date
  | time
  | timestamp
  | timestampWithTimeZone
  | binary
  | varBinary
  | longVarBinary
  | blob
  | uuid
  deriving DecidableEq, Repr

/-! ## Standard type codes -/

namespace TypeCode

/-- The code for all types that have none of their own. -/
def other : Int := 1111
def char : Int := 1
def bit : Int := -7
def timestamp : Int := 93
def binary : Int := -2

end TypeCode

namespace DataType

/-- All data types. -/
def all : List DataType :=
  [unknown, char, varchar, longVarchar, nChar, nVarchar, longNVarchar, clob, nClob, citext, numeric,
    decimal, boolean, bit, tinyInt, smallInt, integer, bigInt, real, float, double, date, time,
    timestamp, timestampWithTimeZone, binary, varBinary, longVarBinary, blob, uuid]

/-- The standard code of a type. -/
def code : DataType → Int
  | unknown | citext | uuid => TypeCode.other
  | char => TypeCode.char
  | varchar => 12
  | longVarchar => -1
  | nChar => -15
  | nVarchar => -9
  | longNVarchar => -16
  | clob => 2005
  | nClob => 2011
  | numeric => 2
  | decimal => 3
  | boolean => 16
  | bit => TypeCode.bit
  | tinyInt => -6
  | smallInt => 5
  | integer => 4
  | bigInt => -5
  | real => 7
  | float => 6
  | double => 8
  | date => 91
  | time => 92
  | timestamp => TypeCode.timestamp
  | timestampWithTimeZone => 2014
  | binary => TypeCode.binary
  | varBinary => -3
  | longVarBinary => -4
  | blob => 2004

/-- The type with a standard code of its own. -/
def ofCode? (n : Int) : Option DataType :=
  if n = TypeCode.other then none else all.find? fun t => t.code = n

/-- The name of a type in messages and reports. -/
def name : DataType → String
  | unknown => "UNKNOWN"
  | char => "CHAR"
  | varchar => "VARCHAR"
  | longVarchar => "LONGVARCHAR"
  | nChar => "NCHAR"
  | nVarchar => "NVARCHAR"
  | longNVarchar => "LONGNVARCHAR"
  | clob => "CLOB"
  | nClob => "NCLOB"
  | citext => "CITEXT"
  | numeric => "NUMERIC"
  | decimal => "DECIMAL"
  | boolean => "BOOLEAN"
  | bit => "BIT"
  | tinyInt => "TINYINT"
  | smallInt => "SMALLINT"
  | integer => "INTEGER"
  | bigInt => "BIGINT"
  | real => "REAL"
  | float => "FLOAT"
  | double => "DOUBLE"
  | date => "DATE"
  | time => "TIME"
  | timestamp => "TIMESTAMP"
  | timestampWithTimeZone => "TIMESTAMP_WITH_TIMEZONE"
  | binary => "BINARY"
  | varBinary => "VARBINARY"
  | longVarBinary => "LONGVARBINARY"
  | blob => "BLOB"
  | uuid => "UUID"

/-- The value domain of a type. -/
def family : DataType → TypeFamily
  | char | varchar | longVarchar | nChar | nVarchar | longNVarchar | clob | nClob | citext => .text
  | numeric | decimal => .exactNumeric
  | tinyInt | smallInt | integer | bigInt => .integer
  | real | float | double => .floating
  | boolean | bit => .boolean
  | date => .date
  | time => .time
  | timestamp => .timestamp
  | timestampWithTimeZone => .zoned
  | binary | varBinary | longVarBinary | blob => .binary
  | uuid => .uuid
  | unknown => .unknown

/-- Whether values that are written differently may be equal: trailing blanks do not count in the
character types of fixed length, nor the case of letters in `citext`. -/
def isFormatInsensitive (t : DataType) : Bool := t == char || t == nChar || t == citext

/-- Whether a numeric tolerance may apply to columns of the type. -/
def acceptsTolerance (t : DataType) : Bool := t == numeric || t == decimal

end DataType

end TableDiff
