import TableGateway.Gateway.Executor

/-! # Dry runs

A dry run keeps the statements it is sent, each with the way it was sent, and answers from a
script. -/

namespace TableGateway

/-- What a dry run answers. -/
structure Script where
  rows : List Record := []
  scalar : Int64 := 0
  receipt : Receipt := {}
  /-- Which statement fails, counted from zero, for want of a row. -/
  failAt : Option Nat := none

/-- The scripted reply. -/
def Script.reply (script : Script) : (via : Via) → via.Reply
  | .fetchAll => script.rows
  | .fetchOptional => script.rows.head?
  | .execute => script.receipt
  | .fetchScalar => script.scalar

/-- The executor that answers from a script and keeps what it was sent, a failing statement too. -/
def Executor.dryRun (script : Script) : Executor (List (Via × Statement)) where
  send via statement sent :=
    let reply := if script.failAt = some sent.length then .error (.database .noRow)
      else .ok (script.reply via)
    (reply, sent ++ [(via, statement)])

end TableGateway
