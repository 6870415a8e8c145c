import TableGateway.Check
import TableGateway.Sql
import TableGateway.Statement

/-! # Queries

A `Query` is an operation on a table that is not yet named.  `Query.check` says whether it may run,
`Query.statement` what is sent for it, and `Query.compile` joins the two: the table is checked
first, then the query, and only then is there a statement. -/

namespace TableGateway

/-- An operation on one table. -/
inductive Query where
  | insert (fields : Record)
  | select (condition : Condition)
  | selectWith (condition : Condition) (options : SelectOptions)
  | selectFields (list : String) (condition : Option Condition)
  | update (fields : Record) (condition : Condition)
  | delete (condition : Condition)
  | count (condition : Option Condition)
  | exists (condition : Condition)
  | truncate
  deriving DecidableEq

namespace Query

/-- Whether the query may run.  An update's fields are checked before its condition. -/
def check : Query → Except Rejection Unit
  | insert fields => Check.insertFields fields
  | select condition => Check.condition condition.sql
  | selectWith condition _ => Check.condition condition.sql
  | selectFields list _ => Check.fieldList list
  | update fields condition => do
    Check.updateFields fields
    Check.condition condition.sql
  | delete condition => Check.condition condition.sql
  | count _ => .ok ()
  | .exists condition => Check.condition condition.sql
  | truncate => .ok ()

/-- A condition that may be left out counts as left out when it is blank, and its values go with
it. -/
def effective (condition : Option Condition) : Option Condition :=
  condition.filter fun c => !c.isBlank

/-- The values of a condition that may be left out. -/
def bindings (condition : Option Condition) : List Value :=
  (condition.map Condition.bindings).getD []

/-- The statement of a query on `table`.  The values of an update's fields come before those of its
condition, as their placeholders do. -/
def statement (table : String) : Query → Statement
  | insert fields => ⟨.insert, Sql.insert table fields, fields.values⟩
  | select c => ⟨.select, Sql.select table c.sql, c.bindings⟩
  | selectWith c options => ⟨.select, Sql.selectWith table c.sql options, c.bindings⟩
  | selectFields list condition =>
    let c := effective condition
    ⟨.select, Sql.selectFields table list (c.map Condition.sql), bindings c⟩
  | update fields c => ⟨.update, Sql.update table fields c.sql, fields.values ++ c.bindings⟩
  | delete c => ⟨.delete, Sql.delete table c.sql, c.bindings⟩
  | count condition =>
    let c := effective condition
    ⟨.count, Sql.count table (c.map Condition.sql), bindings c⟩
  | .exists c => ⟨.exists, Sql.exists table c.sql, c.bindings⟩
  | truncate => ⟨.truncate, Sql.truncate table, []⟩

/-- The statement of a query on the table named, if there is one, or the first fault. -/
def compile (table : Option String) (q : Query) : Except Rejection Statement := do
  let name ← Check.table table
  q.check
  return q.statement name

/-- The values of the fields come before those of the condition. -/
example :
    (update (.ofList [("name", .text "Bob")]) ⟨"id = ?", [.int 7]⟩).compile (some "users") =
      .ok ⟨.update, "UPDATE users SET name = ? WHERE id = ?", [.text "Bob", .int 7]⟩ := by rfl

/-- A blank condition is left out together with its values. -/
example : (count (some ⟨" ", [.int 1]⟩)).compile (some "t") =
    .ok ⟨.count, "SELECT COUNT(*) FROM t", []⟩ := by rfl

end Query

end TableGateway
