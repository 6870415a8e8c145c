import TableGateway.Proofs.Database.Sharing

/-! # What is published

A transaction keeps what it writes to itself until its server accepts COMMIT.  `Transactional` is
what is relied on for that: a way to read off the state of a server what each session has published
and what it has pending.  Any server becomes one that is transactional when a ledger is kept beside
it (`Server.withLedger`).

`Holding` and `Underway` are what is known of a transaction that others share the pool with, and
each step of it keeps to them. -/

namespace TableGateway.Database

/-- What a statement writes, by its text and its values. -/
abbrev Effect := String × List Parameter

/-- What a statement writes. -/
def effectOf (s : Statement) : Effect := (s.sql, s.bindings.map Parameter.ofValue)

/-- The text of a statement that inserts rows. -/
def Inserts (sql : String) : Prop := ∃ rest, sql = "INSERT INTO " ++ rest

/-- What has been written on a session. -/
structure Standing where
  /-- What everyone can see. -/
  published : List Effect := []
  /-- What nobody else can see yet, if the session is in a transaction. -/
  pending : Option (List Effect) := none

variable {σ : Type}

/-- What sessions have written, for a server that publishes what a transaction inserts when it
accepts COMMIT and at no other time. -/
structure Transactional (server : Server σ) where
  standing : σ → Session → Standing
  /-- No session writes for another. -/
  apart {e : Event} {session : Session} (s : σ) :
    e.session ≠ session → standing (server.ask e s).2 session = standing s session
  begin_published (session : Session) (s : σ) :
    (standing (server.ask (.control session .begin) s).2 session).published =
      (standing s session).published
  begin_pending {session : Session} {s : σ} :
    (server.ask (.control session .begin) s).1 = .ok () →
      (standing (server.ask (.control session .begin) s).2 session).pending = some []
  /-- An insert in a transaction publishes nothing, whether it is accepted or not. -/
  insert_published {session : Session} {sql : String} {effects : List Effect} {s : σ}
    (parameters : List Parameter) :
    Inserts sql → (standing s session).pending = some effects →
      (standing (server.ask (.statement session sql parameters) s).2 session).published =
        (standing s session).published
  insert_pending {session : Session} {sql : String} {parameters : List Parameter}
    {effects : List Effect} {s : σ} :
    Inserts sql → (standing s session).pending = some effects →
      (server.ask (.statement session sql parameters) s).1 = .ok () →
      (standing (server.ask (.statement session sql parameters) s).2 session).pending =
        some (effects ++ [(sql, parameters)])
  commit_published {session : Session} {effects : List Effect} {s : σ} :
    (standing s session).pending = some effects →
      (server.ask (.control session .commit) s).1 = .ok () →
      (standing (server.ask (.control session .commit) s).2 session).published =
        (standing s session).published ++ effects
  /-- A COMMIT that fails publishes nothing. -/
  commit_failed {session : Session} {error : ServerError} {s : σ} :
    (server.ask (.control session .commit) s).1 = .error error →
      (standing (server.ask (.control session .commit) s).2 session).published =
        (standing s session).published
  rollback_published (session : Session) (s : σ) :
    (standing (server.ask (.control session .rollback) s).2 session).published =
      (standing s session).published

/-! ### Ledgers -/

/-- The standing behind one more event, accepted or not.  Without a transaction a statement is
published at once. -/
def Standing.after (standing : Standing) (accepted : Bool) : Event → Standing
  | .control _ .begin => if accepted then { standing with pending := some [] } else standing
  | .control _ .commit =>
    if accepted then ⟨standing.published ++ standing.pending.getD [], none⟩
    else { standing with pending := none }
  | .control _ .rollback => { standing with pending := none }
  | .statement _ sql parameters =>
    if accepted then
      match standing.pending with
      | some effects => { standing with pending := some (effects ++ [(sql, parameters)]) }
      | none => { standing with published := standing.published ++ [(sql, parameters)] }
    else standing

/-- The standing of every session. -/
abbrev Ledger := Session → Standing

/-- The ledger behind one more event. -/
def Ledger.after (ledger : Ledger) (accepted : Bool) (e : Event) : Ledger := fun session =>
  if session = e.session then (ledger session).after accepted e else ledger session

namespace Server

/-- The server that answers as it did before and has a ledger kept. -/
def withLedger (server : Server σ) : Server (σ × Ledger) where
  control session control s :=
    let (answer, state) := server.control session control s.1
    (answer, state, s.2.after answer.isOk (.control session control))
  execute session sql parameters s :=
    let (answer, state) := server.execute session sql parameters s.1
    (answer, state, s.2.after answer.isOk (.statement session sql parameters))

theorem ask_withLedger (server : Server σ) (e : Event) (s : σ × Ledger) :
    server.withLedger.ask e s =
      ((server.ask e s.1).1, (server.ask e s.1).2, s.2.after (server.ask e s.1).1.isOk e) := by
  cases e with
  | control session control => rfl
  | statement session sql parameters =>
      simp only [ask, withLedger]
      cases (server.execute session sql parameters s.1).1 with
      | error error => rfl
      | ok reply => rfl

theorem standing_control (server : Server σ) (session : Session) (control : Control)
    (s : σ × Ledger) :
    (server.withLedger.ask (.control session control) s).2.2 session =
      (s.2 session).after (server.withLedger.ask (.control session control) s).1.isOk
        (.control session control) := by
  rw [ask_withLedger]
  exact if_pos rfl

theorem standing_statement (server : Server σ) (session : Session) (sql : String)
    (parameters : List Parameter) (s : σ × Ledger) :
    (server.withLedger.ask (.statement session sql parameters) s).2.2 session =
      (s.2 session).after (server.withLedger.ask (.statement session sql parameters) s).1.isOk
        (.statement session sql parameters) := by
  rw [ask_withLedger]
  exact if_pos rfl

/-- The ledger is what the sessions have written. -/
def ledgerView (server : Server σ) : Transactional server.withLedger where
  standing s := s.2
  apart s h := by
    rw [ask_withLedger]
    exact if_neg (Ne.symm h)
  begin_published session s := by
    rw [standing_control, Standing.after]
    split
    · rfl
    · rfl
  begin_pending h := by
    rw [standing_control, h]
    rfl
  insert_published parameters _ hpending := by
    rw [standing_statement, Standing.after, hpending]
    split
    · rfl
    · rfl
  insert_pending _ hpending h := by
    rw [standing_statement, h, Standing.after, hpending]
    rfl
  commit_published hpending h := by
    rw [standing_control, h, Standing.after, hpending]
    rfl
  commit_failed h := by
    rw [standing_control, h]
    rfl
  rollback_published session s := by
    rw [standing_control]
    rfl

end Server

/-! ### A transaction among others -/

variable {server : Server σ} {view : Transactional server} {t : Transaction} {start p q : Pool σ}
  {deeds : List Deed} {own : List Event} {effects : List Effect}

theorem Elsewhere.standing (view : Transactional server) {session : Session}
    (h : Elsewhere server session p q) :
    view.standing q.state session = view.standing p.state session := by
  induction h with
  | refl => rfl
  | put _ he ih => exact (view.apart _ he).trans ih
  | handOut _ ih => exact ih
  | close _ ih => exact ih

/-- The pool came about from `start` by the deeds of others and by the events of the transaction,
which is held, and the transaction has published the effects. -/
structure Holding (view : Transactional server) (t : Transaction) (start : Pool σ)
    (deeds : List Deed) (own : List Event) (effects : List Effect) (p : Pool σ) : Prop where
  interleaved : Interleaved server deeds own start p
  held : t.session.id < p.sessions
  published : (view.standing p.state t.session).published =
    (view.standing start.state t.session).published ++ effects

/-- The transaction has published nothing, and the effects are pending. -/
structure Underway (view : Transactional server) (t : Transaction) (start : Pool σ)
    (deeds : List Deed) (own : List Event) (effects : List Effect) (p : Pool σ) : Prop
    extends Holding view t start deeds own [] p where
  pending : (view.standing p.state t.session).pending = some effects

namespace Holding

/-- Other sessions make no difference. -/
theorem elsewhere {deeds' : List Deed} (h : Holding view t start deeds own effects p)
    (hpool : Elsewhere server t.session p q) (hinterleaved : Interleaved server deeds' own start q) :
    Holding view t start deeds' own effects q where
  interleaved := hinterleaved
  held := Nat.lt_of_lt_of_le h.held hpool.sessions_le
  published := by rw [hpool.standing view, h.published]

/-- One more event on the session, which publishes what is said. -/
theorem put {e : Event} {more : List Effect} (h : Holding view t start deeds own effects p)
    (hmore : (view.standing (server.ask e p.state).2 t.session).published =
      (view.standing p.state t.session).published ++ more) :
    Holding view t start deeds (own ++ [e]) (effects ++ more) (server.put e p) where
  interleaved := h.interleaved.event e
  held := h.held
  published := hmore.trans (by rw [h.published, List.append_assoc])

theorem put_unpublished {e : Event} (h : Holding view t start deeds own effects p)
    (hsame : (view.standing (server.ask e p.state).2 t.session).published =
      (view.standing p.state t.session).published) :
    Holding view t start deeds (own ++ [e]) effects (server.put e p) := by
  have hmore := hsame.trans (List.append_nil _).symm
  have hput := h.put hmore
  rw [List.append_nil] at hput
  exact hput

theorem rollback (h : Holding view t start deeds own effects p) :
    Holding view t start deeds (own ++ [.control t.session .rollback]) effects
      (server.put (.control t.session .rollback) p) :=
  h.put_unpublished (view.rollback_published _ _)

theorem commit_failed {error : ServerError} (h : Holding view t start deeds own effects p)
    (hask : (server.ask (.control t.session .commit) p.state).1 = .error error) :
    Holding view t start deeds (own ++ [.control t.session .commit]) effects
      (server.put (.control t.session .commit) p) :=
  h.put_unpublished (view.commit_failed hask)

end Holding

namespace Underway

theorem elsewhere {deeds' : List Deed} (h : Underway view t start deeds own effects p)
    (hpool : Elsewhere server t.session p q) (hinterleaved : Interleaved server deeds' own start q) :
    Underway view t start deeds' own effects q where
  toHolding := h.toHolding.elsewhere hpool hinterleaved
  pending := by rw [hpool.standing view, h.pending]

/-- An insert publishes nothing, whether it is accepted or not. -/
theorem insert_failed {statement : Statement} (h : Underway view t start deeds own effects p)
    (hinserts : Inserts statement.sql) :
    Holding view t start deeds (own ++ [.ofStatement t.session statement]) []
      (server.put (.ofStatement t.session statement) p) :=
  h.toHolding.put_unpublished (view.insert_published _ hinserts h.pending)

theorem insert {statement : Statement} (h : Underway view t start deeds own effects p)
    (hinserts : Inserts statement.sql)
    (hask : (server.ask (.ofStatement t.session statement) p.state).1 = .ok ()) :
    Underway view t start deeds (own ++ [.ofStatement t.session statement])
      (effects ++ [effectOf statement]) (server.put (.ofStatement t.session statement) p) where
  toHolding := h.insert_failed hinserts
  pending := view.insert_pending hinserts h.pending hask

/-- What is pending is published by COMMIT. -/
theorem commit (h : Underway view t start deeds own effects p)
    (hask : (server.ask (.control t.session .commit) p.state).1 = .ok ()) :
    Holding view t start deeds (own ++ [.control t.session .commit]) effects
      (server.put (.control t.session .commit) p) :=
  h.toHolding.put (view.commit_published h.pending hask)

end Underway

end TableGateway.Database
