import TableGateway.Schema.Blueprint

/-! # Calls on a blueprint

A `Call` is one declaration, and a list of calls is a whole definition of a table.  The definition
inside a changed column is itself such a list, run on a blueprint of its own.  `Blueprint.run` runs
a list of calls. -/

namespace TableGateway.Schema

/-- One declaration on a blueprint. -/
inductive Call where
  | column (name : String) (type : ColumnType) (edits : List ColumnEdit)
  | timestamps
  | primary (columns : List String)
  | unique (column : String)
  | index (column : String)
  | check (expression : String)
  | foreign (column table references : String) (edits : List ForeignKeyEdit)
  | dropColumn (name : String)
  | renameColumn (old new : String)
  | renameTable (name : String)
  | changeColumn (name : String) (definition : List Call)
  deriving Repr

namespace Blueprint

mutual

/-- Makes one call.  A call that declares a column also gives out its handle. -/
def call (b : Blueprint) : Call → Option ColumnHandle × Blueprint
  | .column name type edits =>
    let (h, declared) := b.declare name type edits
    (some h, declared)
  | .timestamps => (none, b.addTimestamps)
  | .primary columns => (none, b.addPrimary columns)
  | .unique column => (none, b.addUnique column)
  | .index column => (none, b.addIndex column)
  | .check expression => (none, b.addCheck expression)
  | .foreign column table references edits =>
    (none, (b.declareForeignKey column table references edits).2)
  | .dropColumn name => (none, b.addClause (.dropColumn name))
  | .renameColumn old new => (none, b.addClause (.renameColumn old new))
  | .renameTable name => (none, b.addClause (.renameTable name))
  | .changeColumn name definition =>
    (none, b.changeColumn name (run { table := b.table } definition))

/-- Makes calls in turn. -/
def run (b : Blueprint) : List Call → Blueprint
  | [] => b
  | c :: calls => run (b.call c).2 calls

end

theorem run_append (b : Blueprint) (calls more : List Call) :
    b.run (calls ++ more) = (b.run calls).run more := by
  induction calls generalizing b with
  | nil => simp [run]
  | cons c calls ih => simp [run, ih]

end Blueprint

end TableGateway.Schema
