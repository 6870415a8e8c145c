import TableGateway.Proofs.Gateway.Log

/-! # Sessions

Requests on any tables, run one after another on an executor that may fail.  `Plan` says how each
request is carried out, `Step` what can come of one request and `Session` what can come of several;
`runAll_logged` says that nothing else ever does. -/

namespace TableGateway.Table

/-! ### What can come of requests -/

/-- How a request is carried out: the query it is compiled as, the way the statement is sent and
what is made of the reply. -/
inductive Plan : Request → Query → (via : Via) → (via.Reply → Answer) → Prop
  | insert (fields : Record) :
      Plan (.insert fields) (.insert fields) .execute fun receipt => .tally receipt.rowsAffected
  | insertGetId (fields : Record) :
      Plan (.insertGetId fields) (.insert fields) .execute fun receipt =>
        .tally receipt.lastInsertId
  | select (c : Condition) : Plan (.select c) (.select c) .fetchAll .rows
  | selectWith (c : Condition) (options : SelectOptions) :
      Plan (.selectWith c options) (.selectWith c options) .fetchAll .rows
  | first (c : Condition) :
      Plan (.first c) (.selectWith c { limit := some 1 }) .fetchOptional .row
  | selectFields (list : String) (c : Option Condition) :
      Plan (.selectFields list c) (.selectFields list c) .fetchAll .rows
  | update (fields : Record) (c : Condition) :
      Plan (.update fields c) (.update fields c) .execute fun receipt =>
        .tally receipt.rowsAffected
  | delete (c : Condition) :
      Plan (.delete c) (.delete c) .execute fun receipt => .tally receipt.rowsAffected
  | count (c : Option Condition) : Plan (.count c) (.count c) .fetchScalar .scalar
  | exists (c : Condition) :
      Plan (.exists c) (.exists c) .fetchScalar fun (n : Int64) => .flag (n != 0)
  | truncate : Plan .truncate .truncate .execute fun _ => .done

theorem Request.plan (r : Request) : Plan r r.query r.via r.answer := by
  cases r with
  | insert fields => exact .insert fields
  | insertGetId fields => exact .insertGetId fields
  | select c => exact .select c
  | selectWith c options => exact .selectWith c options
  | first c => exact .first c
  | selectFields list c => exact .selectFields list c
  | update fields c => exact .update fields c
  | delete c => exact .delete c
  | count c => exact .count c
  | «exists» c => exact .exists c
  | truncate => exact .truncate

variable {σ : Type} (ex : Executor σ)

/-- What can come of a request on the table named: its outcome, the state behind it and what it
sent. -/
inductive Step (table : String) (r : Request) (s : σ) : Except Failure Answer → σ → Log → Prop
  | rejected {q : Query} {via : Via} {read : via.Reply → Answer} {rejection : Rejection} :
      Plan r q via read → q.compile (some table) = .error rejection →
      Step table r s (.error (.rejected rejection)) s []
  | failed {q : Query} {via : Via} {read : via.Reply → Answer} {statement : Statement}
      {failure : Failure} {t : σ} :
      Plan r q via read → q.compile (some table) = .ok statement →
      ex.send via statement s = (.error failure, t) →
      Step table r s (.error failure) t [(via, statement)]
  | answered {q : Query} {via : Via} {read : via.Reply → Answer} {statement : Statement}
      {reply : via.Reply} {t : σ} :
      Plan r q via read → q.compile (some table) = .ok statement →
      ex.send via statement s = (.ok reply, t) →
      Step table r s (.ok (read reply)) t [(via, statement)]

/-- What can come of requests in order, of which none ends the run: the outcome of each, the state
behind them and what they sent. -/
inductive Session : List (String × Request) → σ → List (Except Failure Answer) → σ → Log → Prop
  | nil (s : σ) : Session [] s [] s []
  | cons {table : String} {r : Request} {rest : List (String × Request)} {s t u : σ}
      {outcome : Except Failure Answer} {outcomes : List (Except Failure Answer)}
      {sent later : Log} :
      Step ex table r s outcome t sent → Session rest t outcomes u later →
      Session ((table, r) :: rest) s (outcome :: outcomes) u (sent ++ later)

/-! ### What does come of them -/

/-- Runs requests in order, each on its table, whatever comes of those before it. -/
def runAll : List (String × Request) → σ → List (Except Failure Answer) × σ
  | [], s => ([], s)
  | (table, r) :: rest, s =>
    let (outcome, s) := r.run ex table s
    let (outcomes, s) := runAll rest s
    (outcome :: outcomes, s)

theorem runAll_cons (table : String) (r : Request) (rest : List (String × Request)) (s : σ) :
    runAll ex ((table, r) :: rest) s =
      ((r.run ex table s).1 :: (runAll ex rest (r.run ex table s).2).1,
        (runAll ex rest (r.run ex table s).2).2) := rfl

theorem step_run (table : String) (r : Request) (s : σ) :
    Step ex table r s (r.run ex table s).1 (r.run ex table s).2 (r.sent table) := by
  cases h : r.query.compile (some table) with
  | error rejection =>
      rw [Request.run_of_error ex h, Request.sent_of_error h]
      exact .rejected r.plan h
  | ok statement =>
      rw [Request.run_of_ok ex h, Request.sent_of_ok h]
      rcases hsend : ex.send r.via statement s with ⟨reply, t⟩
      cases reply with
      | error failure => exact .failed r.plan h hsend
      | ok reply => exact .answered r.plan h hsend

theorem session_runAll : ∀ (jobs : List (String × Request)) (s : σ),
    Session ex jobs s (runAll ex jobs s).1 (runAll ex jobs s).2
      (jobs.flatMap fun job => job.2.sent job.1)
  | [], s => .nil s
  | (table, r) :: rest, s => by
      rw [runAll_cons, List.flatMap_cons]
      exact .cons (step_run ex table r s) (session_runAll rest _)

theorem runAll_logged_eq : ∀ (jobs : List (String × Request)) (s : σ) (log : Log),
    runAll ex.logged jobs (s, log) =
      ((runAll ex jobs s).1, (runAll ex jobs s).2,
        log ++ jobs.flatMap fun job => job.2.sent job.1)
  | [], s, log => by
      rw [List.flatMap_nil, List.append_nil]
      rfl
  | (table, r) :: rest, s, log => by
      rw [runAll_cons, runAll_cons, Request.run_logged, runAll_logged_eq rest, List.flatMap_cons,
        List.append_assoc]

/-- **Requests on an executor that may fail.**  The outcome of each request, the state behind them
and what was sent are those of a session, and what was sent is what each request sends by itself,
whatever the executor answered before. -/
theorem runAll_logged (jobs : List (String × Request)) (s : σ) (log : Log) :
    ∃ outcomes t sent,
      runAll ex jobs s = (outcomes, t) ∧
      runAll ex.logged jobs (s, log) = (outcomes, t, log ++ sent) ∧
      Session ex jobs s outcomes t sent ∧
      sent = jobs.flatMap fun job => job.2.sent job.1 :=
  ⟨_, _, _, rfl, runAll_logged_eq ex jobs s log, session_runAll ex jobs s, rfl⟩

end TableGateway.Table
