import TableGateway.Database.Pool
import TableGateway.Proofs.Gateway.InsertMany

/-! # What is asked and answered

`Server.ask` puts one event to a server and `Server.put` to the server of a pool, which logs it.
Whatever runs on a pool or in a transaction comes down to these two (`controlOn_eq`,
`sendOn_eq`).

`Accepts` says that a server answers events in order and none with an error.  Statements that are
served in a transaction are events that its server accepts (`accepts_of_serves`). -/

namespace TableGateway.Database

/-- A statement as it is asked on a session. -/
def Event.ofStatement (session : Session) (s : Statement) : Event :=
  .statement session s.sql (s.bindings.map Parameter.ofValue)

theorem Event.session_ofStatement (session : Session) (s : Statement) :
    (Event.ofStatement session s).session = session := rfl

variable {σ : Type} (server : Server σ)

namespace Server

/-- Asks for an event, and tells no more of the answer than whether it is an error. -/
def ask : Event → σ → Except ServerError Unit × σ
  | .control session control, s => server.control session control s
  | .statement session sql parameters, s =>
    ((server.execute session sql parameters s).1.map fun _ => (),
      (server.execute session sql parameters s).2)

/-- The pool behind an event. -/
def put (e : Event) (pool : Pool σ) : Pool σ :=
  { pool with state := (server.ask e pool.state).2, log := pool.log ++ [e] }

theorem controlOn_eq (session : Session) (control : Control) (pool : Pool σ) :
    server.controlOn session control pool =
      ((server.ask (.control session control) pool.state).1.mapError fun error =>
          .database (.server error),
        server.put (.control session control) pool) := rfl

/-- The answer to a statement, and the pool behind it. -/
theorem sendOn_eq (session : Session) (via : Via) (statement : Statement) (pool : Pool σ) :
    server.sendOn session via statement pool =
      (match (server.execute session statement.sql (statement.bindings.map Parameter.ofValue)
          pool.state).1 with
        | .error error => .error (.database (.server error))
        | .ok reply => (reply.read via).mapError .database,
        server.put (.ofStatement session statement) pool) := by
  simp only [sendOn, put, ask, Event.ofStatement]
  cases (server.execute session statement.sql (statement.bindings.map Parameter.ofValue)
    pool.state).1 with
  | error error => rfl
  | ok reply => rfl

theorem sendOn_snd (session : Session) (via : Via) (statement : Statement) (pool : Pool σ) :
    (server.sendOn session via statement pool).2 =
      server.put (.ofStatement session statement) pool :=
  congrArg Prod.snd (server.sendOn_eq session via statement pool)

/-- A statement that is executed fails for the server's error and for no other reason, since any
reply has a receipt. -/
theorem sendOn_execute_fst (session : Session) (statement : Statement) (pool : Pool σ) :
    (server.sendOn session .execute statement pool).1.map (fun _ => ()) =
      (server.ask (.ofStatement session statement) pool.state).1.mapError fun error =>
        .database (.server error) := by
  rw [sendOn_eq]
  simp only [ask, Event.ofStatement]
  cases (server.execute session statement.sql (statement.bindings.map Parameter.ofValue)
    pool.state).1 with
  | error error => rfl
  | ok reply =>
      cases reply with
      | done receipt => rfl
      | rows result => rfl

/-! ### Transactions begun and ended -/

variable {server} {pool : Pool σ}

theorem acquire_of_closed (h : pool.closed = true) :
    acquire pool = (.error (.database .poolClosed), pool) := if_pos h

theorem acquire_of_open (h : pool.closed = false) :
    acquire pool = (.ok ⟨pool.sessions⟩, { pool with sessions := pool.sessions + 1 }) :=
  if_neg (by rw [h]; decide)

theorem pooled_send_of_closed (h : pool.closed = true) (via : Via) (statement : Statement) :
    server.pooled.send via statement pool = (.error (.database .poolClosed), pool) := by
  simp only [pooled, acquire_of_closed h]

theorem pooled_send_of_open (h : pool.closed = false) (via : Via) (statement : Statement) :
    server.pooled.send via statement pool =
      server.sendOn ⟨pool.sessions⟩ via statement { pool with sessions := pool.sessions + 1 } := by
  simp only [pooled, acquire_of_open h]

theorem begin_of_closed (h : pool.closed = true) :
    server.begin pool = (.error (.database .poolClosed), pool) := by
  rw [begin, acquire_of_closed h]

theorem begin_of_open (h : pool.closed = false) :
    server.begin pool =
      (((server.ask (.control ⟨pool.sessions⟩ .begin) pool.state).1.mapError fun error =>
          .database (.server error)).map fun _ => ⟨⟨pool.sessions⟩⟩,
        server.put (.control ⟨pool.sessions⟩ .begin)
          { pool with sessions := pool.sessions + 1 }) := by
  simp only [begin, acquire_of_open h, controlOn_eq]

theorem abandon_eq (t : Transaction) :
    server.abandon t pool = server.put (.control t.session .rollback) pool := rfl

variable {t : Transaction} {control : Control}

theorem finish_of_ok (h : (server.ask (.control t.session control) pool.state).1 = .ok ()) :
    server.finish control t pool = (.ok (), server.put (.control t.session control) pool) := by
  rw [finish, controlOn_eq, h]
  rfl

/-- A transaction that cannot be ended as asked is rolled back. -/
theorem finish_of_error {error : ServerError}
    (h : (server.ask (.control t.session control) pool.state).1 = .error error) :
    server.finish control t pool = (.error (.database (.server error)),
      server.put (.control t.session .rollback)
        (server.put (.control t.session control) pool)) := by
  rw [finish, controlOn_eq, h]
  rfl

end Server

/-! ### Events accepted in order -/

/-- The server answers the events in order, none with an error. -/
inductive Accepts : List Event → σ → σ → Prop
  | nil (s : σ) : Accepts [] s s
  | cons {e : Event} {rest : List Event} {s t u : σ} :
      server.ask e s = (.ok (), t) → Accepts rest t u → Accepts (e :: rest) s u

variable {server}

namespace Accepts

variable {events rest : List Event} {e : Event} {s t u : σ}

theorem append (h : Accepts server events s t) (h' : Accepts server rest t u) :
    Accepts server (events ++ rest) s u := by
  induction h with
  | nil s => exact h'
  | cons hask _ ih => exact .cons hask (ih h')

theorem single (h : server.ask e s = (.ok (), t)) : Accepts server [e] s t := .cons h (.nil t)

theorem of_append : ∀ {events : List Event} {s : σ}, Accepts server (events ++ rest) s u →
    ∃ t, Accepts server events s t ∧ Accepts server rest t u
  | [], s, h => ⟨s, .nil s, h⟩
  | _ :: _, _, .cons hask h => by
      obtain ⟨t, hevents, hrest⟩ := of_append h
      exact ⟨t, .cons hask hevents, hrest⟩

/-- A server has one answer to what it is asked in one state. -/
theorem unique (h : Accepts server events s t) (h' : Accepts server events s u) : t = u := by
  induction h with
  | nil s =>
      cases h' with
      | nil => rfl
  | cons hask _ ih =>
      cases h' with
      | cons hask' hrest' =>
          rw [hask] at hask'
          cases hask'
          exact ih hrest'

/-- What is not accepted behind accepted events is not accepted together with them. -/
theorem not_append_cons {error : ServerError} {v : σ} (h : Accepts server events s t)
    (hask : server.ask e t = (.error error, u)) : ¬Accepts server (events ++ e :: rest) s v := by
  intro hall
  obtain ⟨w, hevents, hrest⟩ := of_append hall
  obtain rfl := h.unique hevents
  cases hrest with
  | cons hask' _ =>
      rw [hask] at hask'
      cases hask'

end Accepts

/-! ### Statements executed in a transaction -/

section execute
variable {t : Transaction} {statement : Statement} {p q : Pool σ}

/-- A statement that is executed is asked on the session, and fails for the server's error alone. -/
theorem ask_of_execute {reply : Except Failure Receipt}
    (h : (server.within t).send .execute statement p = (reply, q)) :
    q = server.put (.ofStatement t.session statement) p ∧
      reply.map (fun _ => ()) =
        (server.ask (.ofStatement t.session statement) p.state).1.mapError fun error =>
          .database (.server error) := by
  have hsend : server.sendOn t.session .execute statement p = (reply, q) := h
  have hpool := server.sendOn_snd t.session .execute statement p
  have hanswer := server.sendOn_execute_fst t.session statement p
  rw [hsend] at hpool hanswer
  exact ⟨hpool, hanswer⟩

theorem ask_of_execute_ok {receipt : Receipt}
    (h : (server.within t).send .execute statement p = (.ok receipt, q)) :
    server.ask (.ofStatement t.session statement) p.state = (.ok (), q.state) ∧
      q = server.put (.ofStatement t.session statement) p := by
  obtain ⟨rfl, hanswer⟩ := ask_of_execute h
  refine ⟨Prod.ext ?_ rfl, rfl⟩
  cases hask : (server.ask (.ofStatement t.session statement) p.state).1 with
  | error error =>
      rw [hask] at hanswer
      cases hanswer
  | ok _ => rfl

theorem ask_of_execute_error {failure : Failure}
    (h : (server.within t).send .execute statement p = (.error failure, q)) :
    ∃ error, server.ask (.ofStatement t.session statement) p.state = (.error error, q.state) ∧
      failure = .database (.server error) ∧
      q = server.put (.ofStatement t.session statement) p := by
  obtain ⟨rfl, hanswer⟩ := ask_of_execute h
  cases hask : (server.ask (.ofStatement t.session statement) p.state).1 with
  | error error =>
      rw [hask] at hanswer
      cases hanswer
      exact ⟨error, Prod.ext hask rfl, rfl, rfl⟩
  | ok _ =>
      rw [hask] at hanswer
      cases hanswer

end execute

/-- Statements that a transaction serves are asked on its session, and nothing else is. -/
theorem accepts_of_serves {t : Transaction} {statements : List Statement} {receipts : List Receipt}
    {p q : Pool σ} (h : Serves (server.within t) statements receipts p q) :
    Accepts server (statements.map (.ofStatement t.session)) p.state q.state ∧
      q.log = p.log ++ statements.map (.ofStatement t.session) := by
  induction h with
  | nil p => exact ⟨.nil p.state, (List.append_nil p.log).symm⟩
  | @cons statement receipt rest receipts p q r hsend _ ih =>
      obtain ⟨hask, hpool⟩ := ask_of_execute_ok hsend
      refine ⟨.cons hask ih.1, ?_⟩
      rw [ih.2, hpool, List.map_cons]
      exact List.append_cons .. |>.symm

/-- Statements executed in a transaction are all accepted, or those before one that fails are. -/
theorem executeAll_within_cases (server : Server σ) (t : Transaction) (statements : List Statement)
    (p : Pool σ) :
    (∃ n q, (server.within t).executeAll statements 0 p = (.ok n, q) ∧
      Accepts server (statements.map (.ofStatement t.session)) p.state q.state ∧
      q.log = p.log ++ statements.map (.ofStatement t.session)) ∨
    ∃ before e after error s q,
      statements.map (.ofStatement t.session) = before ++ e :: after ∧
      (server.within t).executeAll statements 0 p = (.error (.database (.server error)), q) ∧
      Accepts server before p.state s ∧ server.ask e s = (.error error, q.state) ∧
      q.log = p.log ++ (before ++ [e]) := by
  rcases serves_or_fails (server.within t) statements p with ⟨receipts, q, hserves⟩ | hfails
  · obtain ⟨haccepts, hlog⟩ := accepts_of_serves hserves
    exact .inl ⟨_, q, hserves.executeAll, haccepts, hlog⟩
  · obtain ⟨before, statement, after, receipts, failure, q, r, rfl, hserves, hsend⟩ := hfails
    obtain ⟨haccepts, hlog⟩ := accepts_of_serves hserves
    obtain ⟨error, hask, rfl, hpool⟩ := ask_of_execute_error hsend
    refine .inr ⟨before.map (.ofStatement t.session), .ofStatement t.session statement,
      after.map (.ofStatement t.session), error, q.state, r, ?_, hserves.executeAll_failed hsend after,
      haccepts, hask, ?_⟩
    · rw [List.map_append, List.map_cons]
    · rw [hpool, ← List.append_assoc, ← hlog]
      rfl

end TableGateway.Database
