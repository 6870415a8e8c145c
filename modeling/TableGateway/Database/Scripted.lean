import TableGateway.Database.Pool

/-! # Scripted servers

A scripted server answers statements from a list, in the order it is asked and whatever the session,
and then as if nothing had happened.  A control statement always gets the same answer. -/

namespace TableGateway.Database

/-- What a scripted server answers. -/
structure Playbook where
  /-- The answers to the statements still to come. -/
  replies : List (Except ServerError Reply) := []
  beginError : Option ServerError := none
  commitError : Option ServerError := none

/-- The error a control statement is answered with, if it is. -/
def Playbook.controlError (p : Playbook) : Control → Option ServerError
  | .begin => p.beginError
  | .commit => p.commitError
  | .rollback => none

/-- The server that answers from a script. -/
def scripted : Server Playbook where
  control _ control p :=
    (match p.controlError control with
      | some error => .error error
      | none => .ok (), p)
  execute _ _ _ p :=
    match p.replies with
    | [] => (.ok (.done {}), p)
    | reply :: rest => (reply, { p with replies := rest })

end TableGateway.Database
