import TableGateway.Record
import TableGateway.Text.Blank

/-! # The text of statements

One function for each form of statement, from a table name, columns and conditions to SQL.  Nothing
is checked or escaped here: names and conditions are written as they are, and every value is a
placeholder, so no value can reach the text. -/

namespace TableGateway

/-- The optional clauses of a select. -/
structure SelectOptions where
  groupBy : Option String := none
  orderBy : Option String := none
  /-- The most rows to return; zero sets no limit. -/
  limit : Option UInt64 := none
  deriving DecidableEq, Repr

/-- One setting of a select. -/
inductive SelectOption where
  | groupBy (expression : String)
  | orderBy (expression : String)
  | limit (rows : UInt64)
  deriving DecidableEq, Repr

namespace SelectOptions

/-- Makes one setting, in place of an earlier one of its kind. -/
def set (o : SelectOptions) : SelectOption → SelectOptions
  | .groupBy expression => { o with groupBy := some expression }
  | .orderBy expression => { o with orderBy := some expression }
  | .limit rows => { o with limit := some rows }

/-- The settings of a list, made in turn. -/
def ofList (options : List SelectOption) : SelectOptions := options.foldl set {}

end SelectOptions

namespace Sql

/-- The mark a value is bound to. -/
def placeholder : String := "?"

/-- A list of names or clauses, parted by commas. -/
def commaList (parts : List String) : String := ", ".intercalate parts

/-- A clause with a keyword, left out where its text is missing or blank. -/
def optionalClause (keyword : String) (text : Option String) : String :=
  match text.bind Text.nonBlank? with
  | some text => keyword ++ text
  | none => ""

/-- The clause that limits the number of rows, left out where there is no limit. -/
def limitClause : Option UInt64 → String
  | some rows => if rows = 0 then "" else " LIMIT " ++ rows.toNat.repr
  | none => ""

/-- One placeholder for each column, in the order of the columns. -/
def insert (table : String) (fields : Record) : String :=
  "INSERT INTO " ++ table ++ " (" ++ commaList fields.columns ++ ") VALUES (" ++
    commaList (fields.columns.map fun _ => placeholder) ++ ")"

/-- All columns of the rows that meet a condition. -/
def select (table condition : String) : String :=
  "SELECT * FROM " ++ table ++ " WHERE " ++ condition

/-- The optional clauses come in the order grouping, ordering, limit, however they were set. -/
def selectWith (table condition : String) (options : SelectOptions) : String :=
  select table condition ++ optionalClause " GROUP BY " options.groupBy ++
    optionalClause " ORDER BY " options.orderBy ++ limitClause options.limit

/-- A list of columns, of all rows where no condition is given. -/
def selectFields (table fields : String) (condition : Option String) : String :=
  "SELECT " ++ fields ++ " FROM " ++ table ++ optionalClause " WHERE " condition

/-- One assignment of a placeholder for each column, in the order of the columns. -/
def update (table : String) (fields : Record) (condition : String) : String :=
  "UPDATE " ++ table ++ " SET " ++
    commaList (fields.columns.map fun column => column ++ " = " ++ placeholder) ++
    " WHERE " ++ condition

/-- The rows that meet a condition are removed. -/
def delete (table condition : String) : String :=
  "DELETE FROM " ++ table ++ " WHERE " ++ condition

/-- All rows are removed. -/
def truncate (table : String) : String := "TRUNCATE TABLE " ++ table

/-- Whether a row meets a condition, as zero or one. -/
def «exists» (table condition : String) : String :=
  "SELECT EXISTS (SELECT 1 FROM " ++ table ++ " WHERE " ++ condition ++ ")"

/-- The number of rows, of all where no condition is given. -/
def count (table : String) (condition : Option String) : String :=
  "SELECT COUNT(*) FROM " ++ table ++ optionalClause " WHERE " condition

/-- SQL written by hand is passed on as it is. -/
def raw (sql : String) : String := sql

end Sql

end TableGateway
