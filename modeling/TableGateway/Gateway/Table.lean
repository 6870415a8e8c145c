import TableGateway.Gateway.Executor
import TableGateway.Query

/-! # Tables

A `Table.Request` is an operation on a table that an executor runs.  It is compiled to one statement
(`Request.query`), sent in one way (`Request.via`), and what comes back is read as one kind of
answer (`Request.answer`).  A request that is rejected is never sent.

`Table.insertMany` inserts several rows, with one statement each; all are compiled before the first
is sent. -/

namespace TableGateway.Table

/-- Whether a save made a new row, with its identifier, or changed rows, with their number. -/
inductive Saved where
  | created (id : UInt64)
  | updated (rows : UInt64)
  deriving DecidableEq, Repr

/-- What an operation answers. -/
inductive Answer where
  /-- A number of rows, or an identifier. -/
  | tally (n : UInt64)
  | scalar (n : Int64)
  | flag (b : Bool)
  | row (row : Option Record)
  | rows (rows : List Record)
  | saved (outcome : Saved)
  | done
  deriving DecidableEq

/-- An operation on a table. -/
inductive Request where
  /-- Answers the number of rows inserted. -/
  | insert (fields : Record)
  /-- Answers the identifier generated. -/
  | insertGetId (fields : Record)
  | select (condition : Condition)
  | selectWith (condition : Condition) (options : SelectOptions)
  /-- Answers the first row that meets the condition. -/
  | first (condition : Condition)
  | selectFields (list : String) (condition : Option Condition)
  | update (fields : Record) (condition : Condition)
  | delete (condition : Condition)
  | count (condition : Option Condition)
  | exists (condition : Condition)
  | truncate
  deriving DecidableEq

namespace Request

/-- The query of a request. -/
def query : Request → Query
  | insert fields => .insert fields
  | insertGetId fields => .insert fields
  | select condition => .select condition
  | selectWith condition options => .selectWith condition options
  | first condition => .selectWith condition { limit := some 1 }
  | selectFields list condition => .selectFields list condition
  | update fields condition => .update fields condition
  | delete condition => .delete condition
  | count condition => .count condition
  | .exists condition => .exists condition
  | truncate => .truncate

/-- The way a request is sent. -/
def via : Request → Via
  | insert _ | insertGetId _ | update _ _ | delete _ | truncate => .execute
  | select _ | selectWith _ _ | selectFields _ _ => .fetchAll
  | first _ => .fetchOptional
  | count _ | .exists _ => .fetchScalar

/-- What a request makes of the reply. -/
def answer : (r : Request) → r.via.Reply → Answer
  | insert _, receipt => .tally receipt.rowsAffected
  | insertGetId _, receipt => .tally receipt.lastInsertId
  | select _, rows => .rows rows
  | selectWith _ _, rows => .rows rows
  | first _, row => .row row
  | selectFields _ _, rows => .rows rows
  | update _ _, receipt => .tally receipt.rowsAffected
  | delete _, receipt => .tally receipt.rowsAffected
  | count _, n => .scalar n
  | .exists _, (n : Int64) => .flag (n != 0)
  | truncate, _ => .done

/-- Runs a request on the table named. -/
def run {σ : Type} (ex : Executor σ) (table : String) (r : Request) (s : σ) :
    Except Failure Answer × σ :=
  match r.query.compile (some table) with
  | .error rejection => (.error (.rejected rejection), s)
  | .ok statement =>
    let (reply, s) := ex.send r.via statement s
    (reply.map r.answer, s)

end Request

/-- The statements that insert rows, or the rejection of the first bad row. -/
def insertStatements (table : String) (rows : List Record) : Except Rejection (List Statement) :=
  rows.mapM fun fields => (Query.insert fields).compile (some table)

/-- Inserts rows in order, up to the first that fails, and answers how many were inserted. -/
def insertMany {σ : Type} (ex : Executor σ) (table : String) (rows : List Record) (s : σ) :
    Except Failure UInt64 × σ :=
  match insertStatements table rows with
  | .error rejection => (.error (.rejected rejection), s)
  | .ok statements => ex.executeAll statements 0 s

end TableGateway.Table
