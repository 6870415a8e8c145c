import TableGateway.Record
import TableGateway.Database.Calendar

/-! # Parameters and cells

What goes to a server and what comes back.  A `Parameter` is a bound value as it is sent.  A
`ResultSet` has columns, each with a type and flags, and rows of cells; a `Cell` is what the server
says of one row and one column, before it is taken to be a value. -/

namespace TableGateway.Database

/-- A bound value as it is sent. -/
inductive Parameter where
  | null
  | tiny (b : Bool)
  | longlong (n : Int64)
  | double (x : Binary64)
  | varString (s : String)
  | blob (bytes : Bytes)
  deriving DecidableEq, Repr

/-- How a value is sent. -/
def Parameter.ofValue : Value → Parameter
  | .null => .null
  | .bool b => .tiny b
  | .int n => .longlong n
  | .float x => .double x
  | .text s => .varString s
  | .blob bytes => .blob bytes

/-- The types of columns. -/
inductive CellType where
  | tiny
  | short
  | long
  | int24
  | longlong
  | year
  | float
  | double
  | date
  | dateTime
  | timestamp
  | time
  | decimal
  | newDecimal
  | varChar
  | varString
  | string
  | tinyBlob
  | mediumBlob
  | longBlob
  | blob
  | enum
  | set
  | json
  | geometry
  | bit
  | null
  deriving DecidableEq, Repr

namespace CellType

/-- The five widths of integers. -/
def isInteger (t : CellType) : Bool := t ∈ [tiny, short, long, int24, longlong]

/-- The types that may have no sign. -/
def isUnsignable (t : CellType) : Bool := t.isInteger || t ∈ [year, bit]

/-- The types whose cells are characters, or bytes in place of characters. -/
def isText (t : CellType) : Bool :=
  t ∈ [varChar, varString, string, tinyBlob, mediumBlob, longBlob, blob, enum]

end CellType

/-- A column of a result. -/
structure Column where
  name : String
  type : CellType
  /-- Whether its numbers have no sign. -/
  unsigned : Bool := false
  /-- Whether its text is bytes. -/
  binary : Bool := false
  deriving DecidableEq, Repr

/-- A length of time, which may be more than a day and may be negative. -/
structure Span where
  negative : Bool
  days : UInt32
  clock : Clock
  deriving DecidableEq, Repr

/-- What stands in one row and one column. -/
inductive Cell where
  | null
  | integer (n : Int)
  | single (x : Binary32)
  | double (x : Binary64)
  /-- A date, perhaps with a time of day; without either it is the zero date. -/
  | calendar (date : Option (Date × Option Clock))
  /-- A length of time; without one it is zero. -/
  | time (span : Option Span)
  | bytes (bytes : Bytes)
  deriving DecidableEq, Repr

/-- The rows a statement returns. -/
structure ResultSet where
  columns : List Column
  rows : List (List Cell)
  deriving DecidableEq, Repr

end TableGateway.Database
