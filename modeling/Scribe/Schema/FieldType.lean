/-!
# Field types

The type of a struct field for a column, by the base data type of the column.  The table is
fixed; the look-up is exact, since a catalog reports base types in lower case.  A type outside
the table is not an error: the field is written without a type.
-/

namespace Scribe.Schema

/-- The type of a struct field. -/
inductive FieldType where
  | int64
  | float64
  | time
  | string
  /-- The column type has no counterpart. -/
  | unmapped
  deriving Repr, DecidableEq

namespace FieldType

/-- The base data types that have a field type. -/
def table : List (String × FieldType) := [
  ("tinyint", int64), ("smallint", int64), ("mediumint", int64), ("int", int64),
  ("integer", int64), ("bigint", int64),
  ("float", float64), ("double", float64), ("decimal", float64),
  ("date", string), ("time", string), ("year", string),
  ("datetime", time), ("timestamp", time),
  ("char", string), ("varchar", string), ("tinyblob", string), ("tinytext", string),
  ("blob", string), ("text", string), ("mediumblob", string), ("mediumtext", string),
  ("longblob", string), ("longtext", string)]

/-- The field type for a base data type. -/
def ofDataType (dataType : String) : FieldType := (table.lookup dataType).getD unmapped

/-- How a type is written in source. -/
def spelling : FieldType → String
  | int64 => "int64"
  | float64 => "float64"
  | time => "time.Time"
  | string => "string"
  | unmapped => ""

/-- Whether the type has a counterpart. -/
def isKnown (t : FieldType) : Bool := t ≠ unmapped

/-- Whether a file that uses the type has to import the package of times. -/
def needsTime (t : FieldType) : Bool := t = time

end FieldType

end Scribe.Schema
