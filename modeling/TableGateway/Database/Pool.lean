import TableGateway.Gateway.Executor
import TableGateway.Database.Decoding

/-! # Pools and transactions

A `Server` answers what it is asked on a session, in any way it likes.  A `Pool` hands out sessions
of one server and keeps a log of everything asked.  A session belongs to one holder: each statement
run on the pool has one of its own, and a transaction has one from its beginning to its end.

`Server.pooled` and `Server.within` run statements on the pool and in a transaction.  A
transaction ends by a commit, a rollback or by being dropped; if it cannot be ended as asked, it is
rolled back. -/

namespace TableGateway.Database

/-- The statements that bound a transaction. -/
inductive Control where
  | begin
  | commit
  | rollback
  deriving DecidableEq, Repr

/-- The text of a control statement. -/
def Control.sql : Control → String
  | begin => "BEGIN"
  | commit => "COMMIT"
  | rollback => "ROLLBACK"

/-- A session of a server. -/
structure Session where
  id : Nat
  deriving DecidableEq, Repr

/-- What a server answers to a statement. -/
inductive Reply where
  | done (receipt : Receipt)
  | rows (result : ResultSet)
  deriving DecidableEq, Repr

/-- Whatever answers what is asked on its sessions. -/
structure Server (σ : Type) where
  control : Session → Control → σ → Except ServerError Unit × σ
  execute : Session → String → List Parameter → σ → Except ServerError Reply × σ

/-- Something asked on a session. -/
inductive Event where
  | control (session : Session) (control : Control)
  | statement (session : Session) (sql : String) (parameters : List Parameter)
  deriving DecidableEq, Repr

/-- Where something was asked. -/
def Event.session : Event → Session
  | control session _ => session
  | statement session _ _ => session

/-- The sessions of one server. -/
structure Pool (σ : Type) where
  /-- The server, as it is now. -/
  state : σ
  /-- The number of sessions handed out. -/
  sessions : Nat := 0
  closed : Bool := false
  /-- Everything asked, in order. -/
  log : List Event := []

/-- A transaction, on a session of its own. -/
structure Transaction where
  session : Session
  deriving DecidableEq, Repr

/-- A transaction is shown without what is in it. -/
instance : ToString Transaction := ⟨fun _ => "Transaction \x7b .. \x7d"⟩

/-! ### Replies -/

/-- What a reply says to each way of asking.  A reply without rows has none to fetch; a result set
says nothing of rows affected. -/
def Reply.read : (via : Via) → Reply → Except DatabaseFault via.Reply
  | .fetchAll, done _ => .ok []
  | .fetchAll, rows result => result.records
  | .fetchOptional, done _ => .ok none
  | .fetchOptional, rows result => result.first
  | .execute, done receipt => .ok receipt
  | .execute, rows _ => .ok {}
  | .fetchScalar, done _ => .error .noRow
  | .fetchScalar, rows result => result.scalar

namespace Server

variable {σ : Type} (server : Server σ)

/-! ### Sessions -/

/-- Runs a statement on a session. -/
def sendOn (session : Session) (via : Via) (statement : Statement) (pool : Pool σ) :
    Except Failure via.Reply × Pool σ :=
  let parameters := statement.bindings.map Parameter.ofValue
  let (reply, state) := server.execute session statement.sql parameters pool.state
  let pool := { pool with
    state, log := pool.log ++ [.statement session statement.sql parameters] }
  match reply with
  | .error error => (.error (.database (.server error)), pool)
  | .ok reply => ((reply.read via).mapError .database, pool)

/-- Makes a control statement on a session. -/
def controlOn (session : Session) (control : Control) (pool : Pool σ) :
    Except Failure Unit × Pool σ :=
  let (reply, state) := server.control session control pool.state
  (reply.mapError fun error => .database (.server error),
    { pool with state, log := pool.log ++ [.control session control] })

/-- Hands out a session, unless the pool is closed. -/
def acquire (pool : Pool σ) : Except Failure Session × Pool σ :=
  if pool.closed then (.error (.database .poolClosed), pool)
  else (.ok ⟨pool.sessions⟩, { pool with sessions := pool.sessions + 1 })

/-- Runs statements on the pool, each on a session of its own. -/
def pooled : Executor (Pool σ) where
  send via statement pool :=
    match acquire pool with
    | (.error failure, pool) => (.error failure, pool)
    | (.ok session, pool) => server.sendOn session via statement pool

/-- Closes the pool; it hands out no more sessions. -/
def close (pool : Pool σ) : Pool σ := { pool with closed := true }

/-! ### Transactions -/

/-- Begins a transaction. -/
def begin (pool : Pool σ) : Except Failure Transaction × Pool σ :=
  match acquire pool with
  | (.error failure, pool) => (.error failure, pool)
  | (.ok session, pool) =>
    let (outcome, pool) := server.controlOn session .begin pool
    (outcome.map fun _ => ⟨session⟩, pool)

/-- Runs statements in a transaction. -/
def within (t : Transaction) : Executor (Pool σ) where
  send := server.sendOn t.session

/-- Drops a transaction, which rolls it back, whatever the server says to that. -/
def abandon (t : Transaction) (pool : Pool σ) : Pool σ :=
  (server.controlOn t.session .rollback pool).2

/-- Ends a transaction by a control statement, and drops it if that fails. -/
def finish (control : Control) (t : Transaction) (pool : Pool σ) : Except Failure Unit × Pool σ :=
  match server.controlOn t.session control pool with
  | (.ok (), pool) => (.ok (), pool)
  | (.error failure, pool) => (.error failure, server.abandon t pool)

/-- Commits a transaction. -/
def commit : Transaction → Pool σ → Except Failure Unit × Pool σ := server.finish .commit

/-- Rolls a transaction back. -/
def rollback : Transaction → Pool σ → Except Failure Unit × Pool σ := server.finish .rollback

end Server

end TableGateway.Database
