import TableGateway.Gateway.Table

/-! # Logs of what is sent

`Executor.logged` is an executor that also keeps what it is sent.  What a request sends
(`Table.Request.sent`) depends on the request and its table alone, and running it on the logged
executor is running it and appending just that (`Table.Request.run_logged`). -/

namespace TableGateway

/-- What was sent, each statement with the way it was sent. -/
abbrev Log := List (Via × Statement)

variable {σ : Type} (ex : Executor σ)

namespace Executor

/-- The executor that also keeps what it is sent, a failing statement too. -/
def logged : Executor (σ × Log) where
  send via statement s :=
    let (reply, t) := ex.send via statement s.1
    (reply, t, s.2 ++ [(via, statement)])

theorem send_logged (via : Via) (statement : Statement) (s : σ) (log : Log) :
    ex.logged.send via statement (s, log) =
      ((ex.send via statement s).1, (ex.send via statement s).2, log ++ [(via, statement)]) := rfl

end Executor

namespace Table.Request

/-- What a request on the table named sends, whatever the executor. -/
def sent (table : String) (r : Request) : Log :=
  match r.query.compile (some table) with
  | .error _ => []
  | .ok statement => [(r.via, statement)]

theorem sent_of_error {table : String} {r : Request} {rejection : Rejection}
    (h : r.query.compile (some table) = .error rejection) : r.sent table = [] := by
  unfold sent
  rw [h]

theorem sent_of_ok {table : String} {r : Request} {statement : Statement}
    (h : r.query.compile (some table) = .ok statement) : r.sent table = [(r.via, statement)] := by
  unfold sent
  rw [h]

theorem run_of_error {table : String} {r : Request} {rejection : Rejection}
    (h : r.query.compile (some table) = .error rejection) (s : σ) :
    r.run ex table s = (.error (.rejected rejection), s) := by
  unfold run
  rw [h]

theorem run_of_ok {table : String} {r : Request} {statement : Statement}
    (h : r.query.compile (some table) = .ok statement) (s : σ) :
    r.run ex table s =
      ((ex.send r.via statement s).1.map r.answer, (ex.send r.via statement s).2) := by
  unfold run
  rw [h]

/-- A request does on the logged executor what it does without, and leaves what it sends. -/
theorem run_logged (table : String) (r : Request) (s : σ) (log : Log) :
    r.run ex.logged table (s, log) =
      ((r.run ex table s).1, (r.run ex table s).2, log ++ r.sent table) := by
  cases h : r.query.compile (some table) with
  | error rejection =>
      rw [run_of_error _ h, run_of_error _ h, sent_of_error h, List.append_nil]
  | ok statement =>
      rw [run_of_ok _ h, run_of_ok _ h, sent_of_ok h, Executor.send_logged]

end Table.Request

end TableGateway
