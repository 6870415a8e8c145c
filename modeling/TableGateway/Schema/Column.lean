import TableGateway.Number.Shortest
import TableGateway.Sql
import TableGateway.Text.Quoted

/-! # Columns

A `Column` is a name, a type and a list of modifiers, and is written in this order.  String
defaults, comments and the values of an enumeration are quoted literals; names and expressions are
written as they are. -/

namespace TableGateway.Schema

/-- The type of a column. -/
inductive ColumnType where
  /-- An integer key that the database counts up itself. -/
  | increments
  | string (length : UInt32)
  | integer
  | boolean
  | text
  | date
  | dateTime
  | decimal (precision scale : UInt8)
  | float (precision scale : UInt8)
  | double (precision scale : UInt8)
  | time
  | timestamp
  | enumeration (values : List String)
  deriving DecidableEq, Repr

/-- A type's name with a precision and a scale. -/
def scaled (name : String) (precision scale : UInt8) : String :=
  name ++ "(" ++ precision.toNat.repr ++ ", " ++ scale.toNat.repr ++ ")"

/-- The text of a type. -/
def ColumnType.sql : ColumnType → String
  | increments => "INT AUTO_INCREMENT PRIMARY KEY"
  | string length => "VARCHAR(" ++ length.toNat.repr ++ ")"
  | integer => "INT"
  | boolean => "TINYINT(1)"
  | text => "TEXT"
  | date => "DATE"
  | dateTime => "DATETIME"
  | decimal precision scale => scaled "DECIMAL" precision scale
  | float precision scale => scaled "FLOAT" precision scale
  | double precision scale => scaled "DOUBLE" precision scale
  | time => "TIME"
  | timestamp => "TIMESTAMP"
  | enumeration values => "ENUM(" ++ Sql.commaList (values.map Text.quoted) ++ ")"

/-- The value a column takes when none is given. -/
inductive DefaultValue where
  | null
  | boolean (b : Bool)
  | integer (n : Int64)
  | float (x : Binary64)
  | string (s : String)
  /-- An expression, written as it is. -/
  | expression (sql : String)
  deriving DecidableEq, Repr

/-- The text of a default value. -/
def DefaultValue.sql : DefaultValue → String
  | null => "NULL"
  | boolean b => if b then "TRUE" else "FALSE"
  | integer n => n.toInt.repr
  | float x => x.text
  | string s => Text.quoted s
  | expression sql => sql

/-- The types that can be given as a default. -/
class ToDefault (α : Type) where
  toDefault : α → DefaultValue

export ToDefault (toDefault)

instance : ToDefault DefaultValue := ⟨id⟩
instance : ToDefault Bool := ⟨.boolean⟩
instance : ToDefault Int32 := ⟨fun n => .integer n.toInt64⟩
instance : ToDefault Int64 := ⟨.integer⟩
instance : ToDefault Binary64 := ⟨.float⟩
instance : ToDefault String := ⟨.string⟩

instance {α : Type} [ToDefault α] : ToDefault (Option α) :=
  ⟨fun x => (x.map toDefault).getD .null⟩

/-- A clause that follows a column's type. -/
inductive Modifier where
  | nullable
  | notNullable
  | default (value : DefaultValue)
  | unsigned
  | onUpdate (expression : String)
  | comment (text : String)
  | after (column : String)
  | first
  deriving DecidableEq, Repr

/-- The text of a modifier. -/
def Modifier.sql : Modifier → String
  | nullable => "NULL"
  | notNullable => "NOT NULL"
  | default value => "DEFAULT " ++ value.sql
  | unsigned => "UNSIGNED"
  | onUpdate expression => "ON UPDATE " ++ expression
  | comment text => "COMMENT " ++ Text.quoted text
  | after column => "AFTER " ++ column
  | first => "FIRST"

/-- A column as it is declared. -/
structure Column where
  name : String
  type : ColumnType
  modifiers : List Modifier := []
  deriving DecidableEq, Repr

/-- The text of a column, its parts set apart by blanks. -/
def Column.sql (c : Column) : String :=
  " ".intercalate (c.name :: c.type.sql :: c.modifiers.map Modifier.sql)

/-- What becomes of a row when the row it refers to is changed. -/
inductive ForeignKeyAction where
  | noAction
  | restrict
  | cascade
  | setNull
  | setDefault
  deriving DecidableEq, Repr

instance : Inhabited ForeignKeyAction := ⟨.cascade⟩

/-- The text of an action. -/
def ForeignKeyAction.sql : ForeignKeyAction → String
  | noAction => "NO ACTION"
  | restrict => "RESTRICT"
  | cascade => "CASCADE"
  | setNull => "SET NULL"
  | setDefault => "SET DEFAULT"

/-- A column whose values are those of a column of another table. -/
structure ForeignKey where
  column : String
  table : String
  references : String
  onDelete : ForeignKeyAction := default
  onUpdate : ForeignKeyAction := default
  deriving DecidableEq, Repr

/-- The text of a foreign key. -/
def ForeignKey.sql (k : ForeignKey) : String :=
  "FOREIGN KEY (" ++ k.column ++ ") REFERENCES " ++ k.table ++ "(" ++ k.references ++
    ") ON DELETE " ++ k.onDelete.sql ++ " ON UPDATE " ++ k.onUpdate.sql

end TableGateway.Schema
