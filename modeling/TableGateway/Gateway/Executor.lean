import TableGateway.Failure
import TableGateway.Record
import TableGateway.Statement

/-! # Executors

An `Executor` runs statements.  It is any function from a statement and a state to an answer and a
state, so it stands for a server that may answer, or fail, as it likes.  `Via` names the four ways
to run a statement by what they ask back. -/

namespace TableGateway

/-- What a statement that returns no rows comes back with. -/
structure Receipt where
  /-- The rows inserted, updated or deleted. -/
  rowsAffected : UInt64 := 0
  /-- The identifier generated last, zero if there is none. -/
  lastInsertId : UInt64 := 0
  deriving DecidableEq, Repr

/-- A way to run a statement. -/
inductive Via where
  /-- All rows. -/
  | fetchAll
  /-- The first row, if there is one. -/
  | fetchOptional
  /-- No rows. -/
  | execute
  /-- The first column of the first row, an integer. -/
  | fetchScalar
  deriving DecidableEq, Repr

/-- What each way asks back. -/
abbrev Via.Reply : Via → Type
  | fetchAll => List Record
  | fetchOptional => Option Record
  | execute => Receipt
  | fetchScalar => Int64

/-- Whatever runs statements, over the state it changes. -/
structure Executor (σ : Type) where
  send : (via : Via) → Statement → σ → Except Failure via.Reply × σ

namespace Executor

variable {σ : Type}

/-- Runs SQL written by hand and returns all rows. -/
def raw (ex : Executor σ) (sql : String) (bindings : List Value) (s : σ) :
    Except Failure (List Record) × σ :=
  ex.send .fetchAll (.raw sql bindings) s

/-- Executes statements in order up to the first that fails, and adds up the rows affected. -/
def executeAll (ex : Executor σ) : List Statement → UInt64 → σ → Except Failure UInt64 × σ
  | [], total, s => (.ok total, s)
  | statement :: rest, total, s =>
    match ex.send .execute statement s with
    | (.ok receipt, s) => ex.executeAll rest (total + receipt.rowsAffected) s
    | (.error failure, s) => (.error failure, s)

end Executor

end TableGateway
