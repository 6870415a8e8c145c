import TableGateway.Schema.Change
import TableGateway.Database.Pool

/-! # Migrations

A `Migration` is a change of the schema with the change that undoes it, each a list of statements or
the reason why there is none.  Either is run in a transaction of its own, in order, up to the first
statement that fails. -/

namespace TableGateway.Database

/-- One statement of a migration. -/
inductive Step where
  /-- A statement written by hand. -/
  | sql (text : String)
  | schema (change : Schema.Change)
  deriving Repr

/-- The statement of a step, if there is one. -/
def Step.compile : Step → Except Rejection String
  | sql text => .ok text
  | schema change => change.sql

/-- A change of the schema and its undoing. -/
structure Migration where
  up : Except Rejection (List String)
  down : Except Rejection (List String)

/-- The migration of two lists of steps; the first step without a statement decides. -/
def Migration.ofSteps (up down : List Step) : Migration :=
  ⟨up.mapM Step.compile, down.mapM Step.compile⟩

namespace Server

variable {σ : Type} (server : Server σ)

/-- Runs statements in a transaction and commits it; after a failure the transaction is dropped. -/
def runSchema (statements : List String) (pool : Pool σ) : Except Failure Unit × Pool σ :=
  match server.begin pool with
  | (.error failure, pool) => (.error failure, pool)
  | (.ok t, pool) =>
    match (server.within t).executeAll (statements.map .schema) 0 pool with
    | (.error failure, pool) => (.error failure, server.abandon t pool)
    | (.ok _, pool) => server.commit t pool

/-- Runs the statements there are, or fails before anything is sent. -/
def runCompiled (statements : Except Rejection (List String)) (pool : Pool σ) :
    Except Failure Unit × Pool σ :=
  match statements with
  | .error rejection => (.error (.rejected rejection), pool)
  | .ok statements => server.runSchema statements pool

/-- Makes a migration. -/
def migrate (m : Migration) : Pool σ → Except Failure Unit × Pool σ := server.runCompiled m.up

/-- Undoes a migration. -/
def undo (m : Migration) : Pool σ → Except Failure Unit × Pool σ := server.runCompiled m.down

end Server

end TableGateway.Database
