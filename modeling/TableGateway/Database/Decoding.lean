import TableGateway.Failure
import TableGateway.Database.Cell

/-! # Reading cells

`Cell.value` takes a cell to a value by the first of a list of readings that fits the column: an
integer with a sign, an integer without, a number with a fraction, text, a date with a time, a date,
a time of day, bytes, and last the bytes of the cell as they were sent, if they are text.

`ResultSet.records` reads a whole result, `ResultSet.first` its first row and `ResultSet.scalar` the
first integer of its first row.  How the cells of a row are put together does not depend on how they
are read, so `ResultSet.recordsBy` and `ResultSet.firstBy` do it for any way to read a cell. -/

namespace TableGateway.Database

/-! ### Text -/

/-- The text that bytes are in UTF-8, if they are. -/
def utf8? (bytes : Bytes) : Option String := String.fromUTF8? ⟨bytes.toArray⟩

/-- A number of so many bytes, the lowest first. -/
def littleEndian : Nat → Nat → Bytes
  | 0, _ => []
  | width + 1, n => UInt8.ofNat (n % 256) :: littleEndian width (n / 256)

/-- The number that bytes are, the highest first; of more than eight, the last eight count. -/
def bigEndian (bytes : Bytes) : UInt64 :=
  bytes.foldl (fun n b => n * 256 + UInt64.ofNat b.toNat) 0

/-- An unsigned number as a value: an integer if there is one, its digits otherwise. -/
def unsignedValue (n : UInt64) : Value :=
  if n.toNat < 1 <<< 63 then .int (.ofNat n.toNat) else .text n.toNat.repr

/-! ### Cells as they are sent -/

/-- The parts of a second as they are sent. -/
def Clock.microBytes (c : Clock) : Bytes :=
  match c.micros with
  | some micros => littleEndian 4 micros.toNat
  | none => []

/-- A time of day as it is sent. -/
def Clock.bytes (c : Clock) : Bytes := [c.hour, c.minute, c.second] ++ c.microBytes

/-- Bytes with their number in front. -/
def counted (bytes : Bytes) : Bytes := UInt8.ofNat bytes.length :: bytes

namespace Cell

/-- A cell as it is sent. -/
def wire (type : CellType) : Cell → Bytes
  | null => []
  | integer n => littleEndian (if type = .year then 2 else 8) n.toNat
  | single x => littleEndian 4 x.bits.toNat
  | double x => littleEndian 8 x.bits.toNat
  | calendar none => counted []
  | calendar (some (date, clock)) =>
    counted (littleEndian 2 date.year.toNat ++ [date.month, date.day] ++
      (clock.map Clock.bytes).getD [])
  | time none => counted []
  | time (some span) =>
    counted ((if span.negative then 1 else 0) :: littleEndian 4 span.days.toNat ++
      span.clock.bytes)
  | bytes b => b

/-! ### Readings -/

/-- Whether the cell holds nothing: it is null, or the zero date. -/
def isAbsent : Cell → Bool
  | null => true
  | calendar none => true
  | _ => false

/-- An integer with a sign. -/
def signed? (column : Column) : Cell → Option Int64
  | integer n => if column.type.isInteger && !column.unsigned then some (.ofInt n) else none
  | _ => none

/-- An integer without a sign. -/
def unsigned? (column : Column) (cell : Cell) : Option UInt64 :=
  if column.type.isUnsignable && column.unsigned then
    match cell with
    | integer n => some (.ofNat n.toNat)
    | bytes b => some (bigEndian b)
    | _ => none
  else none

/-- A number with a fraction. -/
def float? : Cell → Option Binary64
  | single x => some x.widen
  | double x => some x
  | _ => none

/-- Text of a column of text. -/
def text? (column : Column) : Cell → Option String
  | bytes b => if column.type.isText && !column.binary then utf8? b else none
  | _ => none

/-- A date with a time of day, which is midnight where none is given and may be in a leap second. -/
def dateTime? (column : Column) : Cell → Option String
  | calendar (some (date, clock)) =>
    let clock := clock.getD {}
    if column.type = .dateTime ∧ date.isValid ∧ (clock.isRegular ∨ clock.isLeap) then
      some (date.text ++ " " ++ clock.text)
    else none
  | _ => none

/-- A date. -/
def date? (column : Column) : Cell → Option String
  | calendar (some (date, _)) =>
    if column.type = .date ∧ date.isValid then some date.text else none
  | _ => none

/-- A time of day, without its sign; a negative zero is none, and neither is a leap second. -/
def clock? : Cell → Option String
  | time none => some ({} : Clock).text
  | time (some span) =>
    if span.days = 0 ∧ span.clock.isRegular ∧ ¬(span.negative ∧ span.clock.isMidnight) then
      some span.clock.text
    else none
  | _ => none

/-- Bytes of a column of text. -/
def blob? (column : Column) : Cell → Option Bytes
  | bytes b => if column.type.isText then some b else none
  | _ => none

/-- The value of a cell, by the first reading that fits. -/
def value (column : Column) (cell : Cell) : Except DatabaseFault Value :=
  if cell.isAbsent then .ok .null
  else
    let readings : List (Option Value) :=
      [ (cell.signed? column).map .int,
        (cell.unsigned? column).map unsignedValue,
        cell.float?.map .float,
        (cell.text? column).map .text,
        (cell.dateTime? column).map .text,
        (cell.date? column).map .text,
        cell.clock?.map .text,
        (cell.blob? column).map .blob,
        (utf8? (cell.wire column.type)).map .text ]
    match readings.findSome? id with
    | some v => .ok v
    | none => .error .undecodable

end Cell

/-! ### Results -/

/-- A row as a record, unless a cell cannot be read; the first such cell decides. -/
def readRow {ε : Type} (read : Column → Cell → Except ε Value) (columns : List Column)
    (row : List Cell) : Except ε Record := do
  let entries ← (columns.zip row).mapM fun (column, cell) => do
    return (column.name, ← read column cell)
  return .ofList entries

namespace ResultSet

/-- All rows, with their cells read in a given way. -/
def recordsBy {ε : Type} (read : Column → Cell → Except ε Value) (r : ResultSet) :
    Except ε (List Record) :=
  r.rows.mapM (readRow read r.columns)

/-- The first row, if there is one, with its cells read in a given way. -/
def firstBy {ε : Type} (read : Column → Cell → Except ε Value) (r : ResultSet) :
    Except ε (Option Record) :=
  match r.rows with
  | [] => .ok none
  | row :: _ => (readRow read r.columns row).map some

/-- All rows. -/
def records (r : ResultSet) : Except DatabaseFault (List Record) := r.recordsBy Cell.value

/-- The first row, if there is one. -/
def first (r : ResultSet) : Except DatabaseFault (Option Record) := r.firstBy Cell.value

/-- The integer in the first column of the first row. -/
def scalar (r : ResultSet) : Except DatabaseFault Int64 :=
  match r.rows, r.columns with
  | [], _ => .error .noRow
  | (cell :: _) :: _, column :: _ => match cell.signed? column with
    | some n => .ok n
    | none => .error .undecodable
  | _, _ => .error .undecodable

end ResultSet

end TableGateway.Database
