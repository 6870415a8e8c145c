import TableGateway.Gateway.Table
import TableGateway.Inflection.Language

/-! # Models

A `Model` is a table together with the columns that callers may write and the language its name is
in, from which the key column is derived.  A `Model.Operation` is one request on that table
(`Operation.request`), with an answer of its own where that says more (`Operation.answer`). -/

namespace TableGateway

open Table

/-- A table with what is known of it. -/
structure Model where
  table : String
  /-- The columns that may be written; any other is left out without notice. -/
  fillable : List String := []
  language : Inflection.Language := .portuguese
  /-- The key column, where it is not the one derived from the table's name. -/
  key : Option String := none
  deriving DecidableEq, Repr

namespace Model

/-- The key column. -/
def primaryKey (m : Model) : String :=
  m.key.getD (Inflection.idColumn m.language m.table)

/-- The attributes that may be written. -/
def fill (m : Model) (attributes : Record) : Record := attributes.retain m.fillable

/-- The condition on the row with a key. -/
def byKey (m : Model) (id : Value) : Condition :=
  Condition.bind ⟨m.primaryKey ++ " = ?", []⟩ id

/-- The condition that every row meets. -/
def always : Condition := { sql := "1" }

/-- An operation on a model. -/
inductive Operation where
  | all
  | find (id : Value)
  | create (attributes : Record)
  | createGetId (attributes : Record)
  | update (attributes : Record) (id : Value)
  | delete (id : Value)
  /-- Updates the row whose key is among the attributes, or inserts if there is no key. -/
  | save (attributes : Record)
  | filter (condition : Condition)
  /-- All rows, or those that meet a condition, if there is one and it is not blank. -/
  | findAll (condition : Option Condition)
  | count
  | first
  /-- The row with the highest key. -/
  | last
  | deleteWhere (condition : Condition)
  | truncate
  | exists (condition : Condition)
  deriving DecidableEq

namespace Operation

/-- The request on the table.  A save takes the key out of the attributes before anything else, so
the key is never written. -/
def request (m : Model) : Operation → Request
  | all => .select always
  | find id => .first (m.byKey id)
  | create attributes => .insert (m.fill attributes)
  | createGetId attributes => .insertGetId (m.fill attributes)
  | update attributes id => .update (m.fill attributes) (m.byKey id)
  | delete id => .delete (m.byKey id)
  | save attributes =>
    match attributes.take m.primaryKey with
    | (some id, rest) => .update (m.fill rest) (m.byKey id)
    | (none, rest) => .insertGetId (m.fill rest)
  | filter condition => .select condition
  | findAll condition => .select ((condition.filter fun c => !c.isBlank).getD always)
  | count => .count none
  | first => .first always
  | last => .selectWith always { orderBy := some (m.primaryKey ++ " DESC"), limit := some 1 }
  | deleteWhere condition => .delete condition
  | truncate => .truncate
  | .exists condition => .exists condition

/-- The operation's answer, from that of its request. -/
def answer (m : Model) : Operation → Answer → Answer
  | save attributes, .tally n =>
    .saved (if attributes.contains m.primaryKey then .updated n else .created n)
  | last, .rows rows => .row rows.head?
  | _, given => given

/-- Runs an operation. -/
def run {σ : Type} (ex : Executor σ) (m : Model) (o : Operation) (s : σ) :
    Except Failure Answer × σ :=
  let (outcome, s) := (o.request m).run ex m.table s
  (outcome.map (o.answer m), s)

end Operation

end Model

end TableGateway
