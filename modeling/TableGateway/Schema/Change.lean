import TableGateway.Schema.Call

/-! # Schema changes

The four statements that change a schema.  A definition may be any action on a blueprint in any
monad; it is not run unless the table has a name.  `Change` is a change as data, its definition a
list of calls. -/

namespace TableGateway.Schema

variable {m : Type → Type} [Monad m]

/-- Runs a definition on the empty blueprint of a table, if it has a name, and writes the result. -/
def define (table : String) (definition : Blueprint → m Blueprint)
    (write : Blueprint → Except Rejection String) : m (Except Rejection String) :=
  match Check.table (some table) with
  | .ok name => write <$> definition { table := name }
  | .error rejection => pure (.error rejection)

/-- Creates a table as defined. -/
def create (table : String) (definition : Blueprint → m Blueprint) :
    m (Except Rejection String) :=
  define table definition Blueprint.createSql

/-- Alters a table as defined. -/
def alter (table : String) (definition : Blueprint → m Blueprint) :
    m (Except Rejection String) :=
  define table definition Blueprint.alterSql

/-- Drops a table. -/
def drop (table : String) : Except Rejection String := do
  return "DROP TABLE " ++ (← Check.table (some table))

/-- Drops a table if there is one. -/
def dropIfExists (table : String) : Except Rejection String := do
  return "DROP TABLE IF EXISTS " ++ (← Check.table (some table))

/-- A change of the schema. -/
inductive Change where
  | create (table : String) (definition : List Call)
  | alter (table : String) (definition : List Call)
  | drop (table : String)
  | dropIfExists (table : String)
  deriving Repr

/-- The statement of a change, if there is one. -/
def Change.sql : Change → Except Rejection String
  | create table definition => Id.run (Schema.create table fun b => pure (b.run definition))
  | alter table definition => Id.run (Schema.alter table fun b => pure (b.run definition))
  | drop table => Schema.drop table
  | dropIfExists table => Schema.dropIfExists table

/-- An unnamed table is noticed before the definition is run. -/
example (definition : List Call) : (Change.create "" definition).sql = .error .tableNotSet := by rfl

example :
    (Change.alter "users"
      [.changeColumn "mail" [.column "email" (.string 255) [.unique]], .dropColumn "fax"]).sql =
      .ok "ALTER TABLE users CHANGE COLUMN mail email VARCHAR(255), DROP COLUMN fax, ADD UNIQUE (email)" := by
  rfl

end TableGateway.Schema
