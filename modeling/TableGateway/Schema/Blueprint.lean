import TableGateway.Check
import TableGateway.Schema.Column

/-! # Blueprints

A `Blueprint` gathers what is declared for one table and is written as one statement, either
`Blueprint.createSql` or `Blueprint.alterSql`.  Columns and alterations stand in the order of their
declaration; the constraints follow, kind by kind.

A declared column stands in `Blueprint.columns`, and the list of clauses refers to it by position.
So does the `ColumnHandle` that declaring a column gives out: an edit through a handle reaches its
own column, whatever was declared since. -/

namespace TableGateway.Schema

/-- A clause of a blueprint, other than a constraint. -/
inductive Clause where
  /-- The declared column at a position. -/
  | column (index : Nat)
  | dropColumn (name : String)
  | renameColumn (old new : String)
  | changeColumn (name : String) (definition : Column)
  | renameTable (name : String)
  deriving DecidableEq, Repr

/-- What has been declared for one table. -/
structure Blueprint where
  table : String
  columns : List Column := []
  clauses : List Clause := []
  primaryKey : List String := []
  uniques : List String := []
  indexes : List String := []
  foreignKeys : List ForeignKey := []
  checks : List String := []
  deriving DecidableEq, Repr

/-- A declared column, by position. -/
structure ColumnHandle where
  index : Nat
  deriving DecidableEq, Repr

/-- A declared foreign key, by position. -/
structure ForeignKeyHandle where
  index : Nat
  deriving DecidableEq, Repr

/-- What can be done through a column's handle. -/
inductive ColumnEdit where
  | modify (modifier : Modifier)
  /-- Adds a constraint on this column alone. -/
  | unique
  /-- Adds an index over this column alone. -/
  | index
  /-- Adds this column to the primary key. -/
  | primary
  deriving DecidableEq, Repr

/-- What can be done through a foreign key's handle. -/
inductive ForeignKeyEdit where
  | onDelete (action : ForeignKeyAction)
  | onUpdate (action : ForeignKeyAction)
  deriving DecidableEq, Repr

namespace Blueprint

/-! ### Columns -/

/-- Declares a column. -/
def addColumn (b : Blueprint) (name : String) (type : ColumnType) : ColumnHandle × Blueprint :=
  (⟨b.columns.length⟩,
    { b with
      columns := b.columns ++ [{ name, type }]
      clauses := b.clauses ++ [.column b.columns.length] })

/-- The name of a handle's column. -/
def columnName (b : Blueprint) (h : ColumnHandle) : Option String :=
  b.columns[h.index]?.map Column.name

/-- Makes one edit through a handle. -/
def editColumn (b : Blueprint) (h : ColumnHandle) : ColumnEdit → Blueprint
  | .modify modifier =>
    { b with
      columns := b.columns.modify h.index fun c =>
        { c with modifiers := c.modifiers ++ [modifier] } }
  | .unique => { b with uniques := b.uniques ++ (b.columnName h).toList }
  | .index => { b with indexes := b.indexes ++ (b.columnName h).toList }
  | .primary => { b with primaryKey := b.primaryKey ++ (b.columnName h).toList }

/-- Declares a column and edits it through its handle. -/
def declare (b : Blueprint) (name : String) (type : ColumnType) (edits : List ColumnEdit) :
    ColumnHandle × Blueprint :=
  let (h, declared) := b.addColumn name type
  (h, edits.foldl (fun b edit => b.editColumn h edit) declared)

/-- The time now, as an expression. -/
def now : String := "CURRENT_TIMESTAMP"

/-- Declares the times of creation and of the last change, which the database sees to. -/
def addTimestamps (b : Blueprint) : Blueprint :=
  let setNow := ColumnEdit.modify (.default (.expression now))
  let created := (b.declare "created_at" .timestamp [setNow]).2
  (created.declare "updated_at" .timestamp [setNow, .modify (.onUpdate now)]).2

/-! ### Constraints -/

/-- Adds columns to the primary key. -/
def addPrimary (b : Blueprint) (columns : List String) : Blueprint :=
  { b with primaryKey := b.primaryKey ++ columns }

/-- Adds a column whose values must differ. -/
def addUnique (b : Blueprint) (column : String) : Blueprint :=
  { b with uniques := b.uniques ++ [column] }

/-- Adds an index over a column. -/
def addIndex (b : Blueprint) (column : String) : Blueprint :=
  { b with indexes := b.indexes ++ [column] }

/-- Adds an expression that must hold. -/
def addCheck (b : Blueprint) (expression : String) : Blueprint :=
  { b with checks := b.checks ++ [expression] }

/-- Declares a foreign key. -/
def addForeignKey (b : Blueprint) (column table references : String) :
    ForeignKeyHandle × Blueprint :=
  (⟨b.foreignKeys.length⟩,
    { b with foreignKeys := b.foreignKeys ++ [{ column, table, references }] })

/-- Makes one edit through a handle. -/
def editForeignKey (b : Blueprint) (h : ForeignKeyHandle) (edit : ForeignKeyEdit) : Blueprint :=
  { b with
    foreignKeys := b.foreignKeys.modify h.index fun k =>
      match edit with
      | .onDelete action => { k with onDelete := action }
      | .onUpdate action => { k with onUpdate := action } }

/-- Declares a foreign key and edits it through its handle. -/
def declareForeignKey (b : Blueprint) (column table references : String)
    (edits : List ForeignKeyEdit) : ForeignKeyHandle × Blueprint :=
  let (h, declared) := b.addForeignKey column table references
  (h, edits.foldl (fun b edit => b.editForeignKey h edit) declared)

/-! ### Alterations -/

/-- Adds a clause. -/
def addClause (b : Blueprint) (clause : Clause) : Blueprint :=
  { b with clauses := b.clauses ++ [clause] }

/-- Redefines a column by the last column of a second blueprint, and takes over all constraints of
that one.  Without a column there is no clause. -/
def changeColumn (b : Blueprint) (name : String) (defined : Blueprint) : Blueprint :=
  { b with
    clauses := b.clauses ++ (defined.columns.getLast?.map (Clause.changeColumn name)).toList
    primaryKey := b.primaryKey ++ defined.primaryKey
    uniques := b.uniques ++ defined.uniques
    indexes := b.indexes ++ defined.indexes
    foreignKeys := b.foreignKeys ++ defined.foreignKeys
    checks := b.checks ++ defined.checks }

end Blueprint

/-! ### Text -/

/-- The text of a redefined column: a change of the definition alone, or of the name as well. -/
def changeSql (name : String) (definition : Column) : String :=
  if name = definition.name then "MODIFY COLUMN " ++ definition.sql
  else "CHANGE COLUMN " ++ name ++ " " ++ definition.sql

/-- The text of a clause, with `add` before a declared column.  A position without a column has no
text. -/
def Clause.sql? (columns : List Column) (add : String) : Clause → Option String
  | column index => columns[index]?.map fun c => add ++ c.sql
  | dropColumn name => some ("DROP COLUMN " ++ name)
  | renameColumn old new => some ("RENAME COLUMN " ++ old ++ " TO " ++ new)
  | changeColumn name definition => some (changeSql name definition)
  | renameTable name => some ("RENAME TO " ++ name)

namespace Blueprint

/-- Whether a column has been declared. -/
def hasColumns (b : Blueprint) : Bool := !b.columns.isEmpty

/-- Whether nothing at all has been declared. -/
def isEmpty (b : Blueprint) : Bool :=
  b.clauses.isEmpty && b.primaryKey.isEmpty && b.uniques.isEmpty && b.indexes.isEmpty &&
    b.foreignKeys.isEmpty && b.checks.isEmpty

/-- The texts of the clauses, with `add` before the declared columns. -/
def clauseTexts (b : Blueprint) (add : String) : List String :=
  b.clauses.filterMap (Clause.sql? b.columns add)

/-- The texts of the constraints. -/
def constraintTexts (b : Blueprint) : List String :=
  (if b.primaryKey.isEmpty then [] else ["PRIMARY KEY (" ++ Sql.commaList b.primaryKey ++ ")"]) ++
    b.uniques.map (fun column => "UNIQUE (" ++ column ++ ")") ++
    b.indexes.map (fun column => "INDEX (" ++ column ++ ")") ++
    b.foreignKeys.map ForeignKey.sql ++
    b.checks.map (fun expression => "CHECK (" ++ expression ++ ")")

/-- The statement that creates the table, which must have a name and a column. -/
def createSql (b : Blueprint) : Except Rejection String := do
  let table ← Check.table (some b.table)
  if b.hasColumns then
    return "CREATE TABLE " ++ table ++ " (" ++
      Sql.commaList (b.clauseTexts "" ++ b.constraintTexts) ++ ")"
  else
    throw (.emptyBlueprint table)

/-- The statement that alters the table, which must have a name and something to alter. -/
def alterSql (b : Blueprint) : Except Rejection String := do
  let table ← Check.table (some b.table)
  if b.isEmpty then
    throw (.emptyBlueprint table)
  else
    return "ALTER TABLE " ++ table ++ " " ++
      Sql.commaList (b.clauseTexts "ADD COLUMN " ++ b.constraintTexts.map ("ADD " ++ ·))

end Blueprint

end TableGateway.Schema
