import TableGateway.Record
import TableGateway.Rejection
import TableGateway.Text.Blank

/-! # Checks

What a request must satisfy before SQL is made of it.  A check gives back what was checked, or the
first fault found. -/

namespace TableGateway.Check

/-- A table must be named, and its name must not be blank. -/
def table : Option String → Except Rejection String
  | some name => if Text.isBlank name then .error .tableNotSet else .ok name
  | none => .error .tableNotSet

/-- The first entry that an insert refuses decides; of one entry, a blank column comes before a null
value. -/
def insertEntries : List Entry → Except Rejection Unit
  | [] => .ok ()
  | (column, value) :: rest =>
    if Text.isBlank column then .error .invalidField
    else if value.isNull then .error (.nullValue column)
    else insertEntries rest

/-- An insert needs columns, none of them blank and none of them null. -/
def insertFields (fields : Record) : Except Rejection Unit :=
  if fields.isEmpty then .error (.emptyFields .insert) else insertEntries fields.entries

/-- An update needs columns, none of them blank; a column may be set to null. -/
def updateFields (fields : Record) : Except Rejection Unit :=
  if fields.isEmpty then .error (.emptyFields .update)
  else if fields.columns.any Text.isBlank then .error .invalidField
  else .ok ()

/-- A condition must not be blank. -/
def condition (sql : String) : Except Rejection Unit :=
  if Text.isBlank sql then .error .emptyCondition else .ok ()

/-- A field list must not be blank. -/
def fieldList (list : String) : Except Rejection Unit :=
  if Text.isBlank list then .error .invalidField else .ok ()

end TableGateway.Check
