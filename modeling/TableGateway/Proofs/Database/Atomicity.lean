import TableGateway.Database.Scripted
import TableGateway.Proofs.Database.Publishing
import TableGateway.Proofs.Query.Accepted

/-! # Rows inserted in a transaction

`Server.insertTogether` inserts rows in a transaction, which it commits if they are all inserted and
gives up otherwise, while other holders of the pool take turns between its statements.  `Ending`
lists the ways this can end, each with what is asked on the session of the transaction and what is
published.  `insertTogether_atomic` says that there is no other way: the effects of all rows are
published, or none are. -/

namespace TableGateway.Database

open Table (insertMany Inserted)

variable {σ : Type} (server : Server σ)

/-- How a holder gives a transaction up. -/
inductive Retreat where
  | rollback
  | drop
  deriving DecidableEq, Repr

namespace Server

/-- Gives a transaction up, whatever is answered. -/
def giveUp : Retreat → Transaction → Pool σ → Pool σ
  | .rollback, t, pool => (server.rollback t pool).2
  | .drop, t, pool => server.abandon t pool

/-- Inserts rows in a transaction, which is committed if that goes well and given up otherwise.  The
other holders take a turn before each statement and before the transaction is ended. -/
def insertTogether (turns : List (List Deed)) (retreat : Retreat) (table : String)
    (rows : List Record) (pool : Pool σ) : Except Failure UInt64 × Pool σ :=
  match server.begin pool with
  | (.error failure, pool) => (.error failure, pool)
  | (.ok t, pool) =>
    match insertMany (server.among t) table rows (turns, pool) with
    | (.error failure, turns, pool) =>
      (.error failure, server.giveUp retreat t (server.turn turns pool))
    | (.ok n, turns, pool) =>
      let (outcome, pool) := server.commit t (server.turn turns pool)
      (outcome.map fun _ => n, pool)

end Server

/-! ### How it can end -/

/-- How rows can end up that are inserted in a transaction: the outcome, what was asked on the
session of the transaction and what was published on it. -/
inductive Ending (turns : List (List Deed)) (table : String) (rows : List Record) (pool : Pool σ) :
    Except Failure UInt64 → List Event → List Effect → Prop
  /-- There is no session to begin on. -/
  | closed :
      pool.closed = true → Ending turns table rows pool (.error (.database .poolClosed)) [] []
  /-- BEGIN fails. -/
  | unbegun {failure : Failure} {p : Pool σ} :
      pool.closed = false → server.begin pool = (.error failure, p) →
      Ending turns table rows pool (.error failure) [.control ⟨pool.sessions⟩ .begin] []
  /-- A row is rejected or a statement fails, and the transaction is given up. -/
  | givenUp {t : Transaction} {p : Pool σ} {failure : Failure} {s : List (List Deed) × Pool σ}
      {statements : List Statement} {undoing : List Event} :
      server.begin pool = (.ok t, p) →
      Inserted (server.among t) table rows (turns, p) (.error failure) s statements →
      undoing ≠ [] → (∀ e ∈ undoing, e = .control t.session .rollback) →
      Ending turns table rows pool (.error failure)
        (.control t.session .begin :: statements.map (.ofStatement t.session) ++ undoing) []
  /-- All rows are inserted, but COMMIT fails. -/
  | uncommitted {t : Transaction} {p : Pool σ} {n : UInt64} {s : List (List Deed) × Pool σ}
      {statements : List Statement} {error : ServerError} :
      server.begin pool = (.ok t, p) →
      Inserted (server.among t) table rows (turns, p) (.ok n) s statements →
      (server.ask (.control t.session .commit) (server.turn s.1 s.2).state).1 = .error error →
      Ending turns table rows pool (.error (.database (.server error)))
        (.control t.session .begin :: statements.map (.ofStatement t.session) ++
          [.control t.session .commit, .control t.session .rollback]) []
  /-- All rows are inserted, and COMMIT is accepted. -/
  | committed {t : Transaction} {p : Pool σ} {n : UInt64} {s : List (List Deed) × Pool σ}
      {statements : List Statement} :
      server.begin pool = (.ok t, p) →
      Inserted (server.among t) table rows (turns, p) (.ok n) s statements →
      (server.ask (.control t.session .commit) (server.turn s.1 s.2).state).1 = .ok () →
      Ending turns table rows pool (.ok n)
        (.control t.session .begin :: statements.map (.ofStatement t.session) ++
          [.control t.session .commit]) (statements.map effectOf)

/-! ### Turns -/

variable {server} {view : Transactional server} {t : Transaction} {start p q : Pool σ}
  {deeds all : List Deed} {own : List Event} {effects : List Effect} {turns : List (List Deed)}

/-- One turn is taken out of those that are left. -/
theorem turn_step (hinterleaved : Interleaved server deeds own start p)
    (hheld : t.session.id < p.sessions) (hall : deeds ++ turns.flatten = all)
    (hothers : ∀ d ∈ all, d.transaction? ≠ some t) :
    ∃ deeds', deeds' ++ turns.tail.flatten = all ∧
      Elsewhere server t.session p (server.turn turns p) ∧
      Interleaved server deeds' own start (server.turn turns p) := by
  cases turns with
  | nil => exact ⟨deeds, hall, .refl, hinterleaved⟩
  | cons turn rest =>
      subst hall
      have hturn : ∀ d ∈ turn, d.transaction? ≠ some t := by
        intro d hd
        refine hothers d (List.mem_append_right _ ?_)
        rw [List.flatten_cons]
        exact List.mem_append_left _ hd
      refine ⟨deeds ++ turn, ?_, elsewhere_foldl hturn hheld, hinterleaved.foldl⟩
      rw [List.flatten_cons, List.append_assoc]
      rfl

theorem Holding.turn (h : Holding view t start deeds own effects p)
    (hall : deeds ++ turns.flatten = all) (hothers : ∀ d ∈ all, d.transaction? ≠ some t) :
    ∃ deeds', deeds' ++ turns.tail.flatten = all ∧
      Holding view t start deeds' own effects (server.turn turns p) := by
  obtain ⟨deeds', hleft, hpool, hinterleaved⟩ := turn_step h.interleaved h.held hall hothers
  exact ⟨deeds', hleft, h.elsewhere hpool hinterleaved⟩

theorem Underway.turn (h : Underway view t start deeds own effects p)
    (hall : deeds ++ turns.flatten = all) (hothers : ∀ d ∈ all, d.transaction? ≠ some t) :
    ∃ deeds', deeds' ++ turns.tail.flatten = all ∧
      Underway view t start deeds' own effects (server.turn turns p) := by
  obtain ⟨deeds', hleft, hpool, hinterleaved⟩ := turn_step h.interleaved h.held hall hothers
  exact ⟨deeds', hleft, h.elsewhere hpool hinterleaved⟩

/-! ### Rows -/

theorem inserts_insert (table : String) (fields : Record) : Inserts (Sql.insert table fields) := by
  refine ⟨table ++ " (" ++ Sql.commaList fields.columns ++ ") VALUES (" ++
    Sql.commaList (fields.columns.map fun _ => Sql.placeholder) ++ ")", ?_⟩
  unfold Sql.insert
  simp only [String.append_assoc]

/-- What is compiled of rows are inserts. -/
theorem inserts_of_compile {table : String} {rows : List Record} {statements : List Statement}
    (h : rows.map (fun fields => (Query.insert fields).compile (some table)) =
      statements.map .ok) : ∀ statement ∈ statements, Inserts statement.sql := by
  intro statement hstatement
  obtain ⟨fields, -, hcompile⟩ := Table.exists_of_mem_statements h hstatement
  obtain ⟨-, -, rfl⟩ := Query.compile_eq_ok_iff.mp hcompile
  exact inserts_insert table fields

/-- The effects of inserts that are served are pending, each behind those before it. -/
theorem Underway.serves {statements : List Statement} {receipts : List Receipt}
    {s u : List (List Deed) × Pool σ} (hserves : Serves (server.among t) statements receipts s u)
    (h : Underway view t start deeds own effects s.2)
    (hinserts : ∀ statement ∈ statements, Inserts statement.sql)
    (hall : deeds ++ s.1.flatten = all) (hothers : ∀ d ∈ all, d.transaction? ≠ some t) :
    ∃ deeds', deeds' ++ u.1.flatten = all ∧
      Underway view t start deeds' (own ++ statements.map (.ofStatement t.session))
        (effects ++ statements.map effectOf) u.2 := by
  induction hserves generalizing deeds own effects with
  | nil s =>
      refine ⟨deeds, hall, ?_⟩
      rw [List.map_nil, List.map_nil, List.append_nil, List.append_nil]
      exact h
  | @cons statement receipt rest receipts s u v hsend _ ih =>
      obtain ⟨hinsert, hrest⟩ := List.forall_mem_cons.mp hinserts
      obtain ⟨deeds', hleft, hturn⟩ := h.turn hall hothers
      obtain ⟨hsent, hturns⟩ := send_among hsend
      obtain ⟨hask, hpool⟩ := ask_of_execute_ok hsent
      have hinserted := hturn.insert hinsert (congrArg Prod.fst hask)
      rw [← hpool] at hinserted
      rw [← hturns] at hleft
      obtain ⟨deeds'', hleft', hlater⟩ := ih hinserted hrest hleft
      refine ⟨deeds'', hleft', ?_⟩
      rw [List.map_cons, List.map_cons, List.append_cons, List.append_cons effects]
      exact hlater

/-- What an insertion leaves pending when all rows are inserted. -/
theorem Underway.inserted {table : String} {rows : List Record} {n : UInt64}
    {s u : List (List Deed) × Pool σ} {statements : List Statement}
    (hinserted : Inserted (server.among t) table rows s (.ok n) u statements)
    (h : Underway view t start deeds own [] s.2) (hall : deeds ++ s.1.flatten = all)
    (hothers : ∀ d ∈ all, d.transaction? ≠ some t) :
    ∃ deeds', deeds' ++ u.1.flatten = all ∧
      Underway view t start deeds' (own ++ statements.map (.ofStatement t.session))
        (statements.map effectOf) u.2 := by
  cases hinserted with
  | done hmap hserves _ => exact h.serves hserves (inserts_of_compile hmap) hall hothers

/-- An insertion that fails publishes nothing. -/
theorem Underway.not_inserted {table : String} {rows : List Record} {failure : Failure}
    {s u : List (List Deed) × Pool σ} {statements : List Statement}
    (hinserted : Inserted (server.among t) table rows s (.error failure) u statements)
    (h : Underway view t start deeds own [] s.2) (hall : deeds ++ s.1.flatten = all)
    (hothers : ∀ d ∈ all, d.transaction? ≠ some t) :
    ∃ deeds', deeds' ++ u.1.flatten = all ∧
      Holding view t start deeds' (own ++ statements.map (.ofStatement t.session)) [] u.2 := by
  cases hinserted with
  | rejected _ _ _ =>
      refine ⟨deeds, hall, ?_⟩
      rw [List.map_nil, List.append_nil]
      exact h.toHolding
  | @failed before after statement receipts failure v u hmap hserves hsend =>
      have hinserts := inserts_of_compile hmap
      have hbefore : ∀ s ∈ before, Inserts s.sql := fun s hs =>
        hinserts s (List.mem_append_left _ hs)
      have hfailing : Inserts statement.sql :=
        hinserts statement (List.mem_append_right _ List.mem_cons_self)
      obtain ⟨deeds', hleft, hunder⟩ := h.serves hserves hbefore hall hothers
      obtain ⟨deeds'', hleft', hturn⟩ := hunder.turn hleft hothers
      obtain ⟨hsent, hturns⟩ := send_among hsend
      obtain ⟨error, -, -, hpool⟩ := ask_of_execute_error hsent
      refine ⟨deeds'', by rw [hturns, hleft'], ?_⟩
      rw [List.map_append, ← List.append_assoc, hpool]
      exact hturn.insert_failed hfailing

/-! ### The end of the transaction -/

/-- A transaction that is given up is rolled back, twice if that fails. -/
theorem Holding.giveUp (h : Holding view t start deeds own effects p) (retreat : Retreat) :
    ∃ undoing, undoing ≠ [] ∧ (∀ e ∈ undoing, e = .control t.session .rollback) ∧
      Holding view t start deeds (own ++ undoing) effects (server.giveUp retreat t p) := by
  have honce : ∀ e ∈ [Event.control t.session .rollback], e = .control t.session .rollback :=
    List.forall_mem_singleton.mpr rfl
  cases retreat with
  | drop => exact ⟨[.control t.session .rollback], List.cons_ne_nil _ _, honce, h.rollback⟩
  | rollback =>
      cases hask : (server.ask (.control t.session .rollback) p.state).1 with
      | ok _ =>
          refine ⟨[.control t.session .rollback], List.cons_ne_nil _ _, honce, ?_⟩
          rw [Server.giveUp, Server.rollback, Server.finish_of_ok hask]
          exact h.rollback
      | error error =>
          refine ⟨[.control t.session .rollback, .control t.session .rollback],
            List.cons_ne_nil _ _, List.forall_mem_cons.mpr ⟨rfl, honce⟩, ?_⟩
          rw [Server.giveUp, Server.rollback, Server.finish_of_error hask, List.append_cons]
          exact h.rollback.rollback

/-- What becomes of the pool: it comes about by some of the deeds of others and by what the
transaction asks, which is all there is on its session, and the effects are published. -/
structure Account (view : Transactional server) (turns : List (List Deed)) (pool : Pool σ)
    (deeds : List Deed) (own : List Event) (effects : List Effect) (final : Pool σ) : Prop where
  deeds_isPrefix : deeds <+: turns.flatten
  interleaved : ∃ n, Interleaved server deeds own { pool with sessions := n } final
  log : ∃ events, final.log = pool.log ++ events ∧
    events.filter (fun e => e.session = ⟨pool.sessions⟩) = own
  published : (view.standing final.state ⟨pool.sessions⟩).published =
    (view.standing pool.state ⟨pool.sessions⟩).published ++ effects

theorem Holding.account {pool : Pool σ} {rest : List Deed}
    (h : Holding view ⟨⟨pool.sessions⟩⟩ { pool with sessions := pool.sessions + 1 } deeds own
      effects p)
    (hall : deeds ++ rest = turns.flatten)
    (hothers : ∀ d ∈ turns.flatten, d.transaction? ≠ some ⟨⟨pool.sessions⟩⟩)
    (hown : ∀ e ∈ own, e.session = ⟨pool.sessions⟩) :
    Account view turns pool deeds own effects p where
  deeds_isPrefix := ⟨rest, hall⟩
  interleaved := ⟨_, h.interleaved⟩
  log := by
    have hdeeds : ∀ d ∈ deeds, d.transaction? ≠ some ⟨⟨pool.sessions⟩⟩ := by
      intro d hd
      refine hothers d ?_
      rw [← hall]
      exact List.mem_append_left _ hd
    exact (h.interleaved.log hdeeds hown (Nat.lt_succ_self pool.sessions)).2
  published := h.published

/-! ### The whole run -/

section run
variable {table : String} {rows : List Record} {pool : Pool σ} {s : List (List Deed) × Pool σ}

theorem insertTogether_of_error (retreat : Retreat) {failure : Failure}
    (hbegin : server.begin pool = (.ok t, p))
    (hrun : insertMany (server.among t) table rows (turns, p) = (.error failure, s)) :
    server.insertTogether turns retreat table rows pool =
      (.error failure, server.giveUp retreat t (server.turn s.1 s.2)) := by
  rw [Server.insertTogether, hbegin]
  simp only [hrun]

theorem insertTogether_of_ok (retreat : Retreat) {n : UInt64}
    (hbegin : server.begin pool = (.ok t, p))
    (hrun : insertMany (server.among t) table rows (turns, p) = (.ok n, s)) :
    server.insertTogether turns retreat table rows pool =
      ((server.finish .commit t (server.turn s.1 s.2)).1.map fun _ => n,
        (server.finish .commit t (server.turn s.1 s.2)).2) := by
  rw [Server.insertTogether, hbegin]
  simp only [hrun]
  rfl

/-- Whatever else is asked, BEGIN and the statements are asked on the session. -/
theorem session_of_mem {session : Session} (statements : List Statement) {last : List Event}
    (hlast : ∀ e ∈ last, e.session = session) :
    ∀ e ∈ .control session .begin :: statements.map (.ofStatement session) ++ last,
      e.session = session := by
  intro e he
  rcases List.mem_append.mp he with he | he
  · rcases List.mem_cons.mp he with rfl | he
    · rfl
    · obtain ⟨statement, -, rfl⟩ := List.mem_map.mp he
      exact Event.session_ofStatement session statement
  · exact hlast e he

/-- A transaction that is begun ends in one of the ways listed. -/
theorem atomic_of_begun (view : Transactional server) (retreat : Retreat) (table : String)
    (rows : List Record)
    (hothers : ∀ d ∈ turns.flatten, d.transaction? ≠ some ⟨⟨pool.sessions⟩⟩)
    (hbegin : server.begin pool = (.ok ⟨⟨pool.sessions⟩⟩, p))
    (hbegun : Underway view ⟨⟨pool.sessions⟩⟩ { pool with sessions := pool.sessions + 1 } []
      [.control ⟨pool.sessions⟩ .begin] [] p) :
    ∃ outcome final deeds own effects,
      server.insertTogether turns retreat table rows pool = (outcome, final) ∧
      Account view turns pool deeds own effects final ∧
      Ending server turns table rows pool outcome own effects := by
  obtain ⟨statements, hinserted, -⟩ :=
    Table.inserted_insertMany (server.among ⟨⟨pool.sessions⟩⟩) table rows (turns, p) []
  rcases hrun : insertMany (server.among ⟨⟨pool.sessions⟩⟩) table rows (turns, p) with ⟨outcome, s⟩
  rw [hrun] at hinserted
  cases outcome with
  | error failure =>
      obtain ⟨_, hleft, hinsert⟩ := hbegun.not_inserted hinserted rfl hothers
      obtain ⟨deeds, hleft, hturn⟩ := hinsert.turn hleft hothers
      obtain ⟨undoing, hne, hundoing, hgivenUp⟩ := hturn.giveUp retreat
      have hown := session_of_mem statements fun e he => congrArg Event.session (hundoing e he)
      exact ⟨_, _, deeds, _, _, insertTogether_of_error retreat hbegin hrun,
        hgivenUp.account hleft hothers hown, .givenUp hbegin hinserted hne hundoing⟩
  | ok n =>
      obtain ⟨_, hleft, hinsert⟩ := hbegun.inserted hinserted rfl hothers
      obtain ⟨deeds, hleft, hturn⟩ := hinsert.turn hleft hothers
      have hwhole := insertTogether_of_ok retreat hbegin hrun
      cases hcommit : (server.ask (.control ⟨pool.sessions⟩ .commit)
        (server.turn s.1 s.2).state).1 with
      | ok _ =>
          rw [Server.finish_of_ok hcommit] at hwhole
          have hlast : ∀ e ∈ [Event.control ⟨pool.sessions⟩ .commit],
              e.session = ⟨pool.sessions⟩ := List.forall_mem_singleton.mpr rfl
          exact ⟨_, _, deeds, _, _, hwhole,
            (hturn.commit hcommit).account hleft hothers (session_of_mem statements hlast),
            .committed hbegin hinserted hcommit⟩
      | error error =>
          rw [Server.finish_of_error hcommit] at hwhole
          have hlast : ∀ e ∈ [Event.control ⟨pool.sessions⟩ .commit, .control ⟨pool.sessions⟩
              .rollback], e.session = ⟨pool.sessions⟩ :=
            List.forall_mem_cons.mpr ⟨rfl, List.forall_mem_singleton.mpr rfl⟩
          have hend := (hturn.toHolding.commit_failed hcommit).rollback
          rw [← List.append_cons] at hend
          exact ⟨_, _, deeds, _, _, hwhole,
            hend.account hleft hothers (session_of_mem statements hlast),
            .uncommitted hbegin hinserted hcommit⟩

/-- **Rows inserted in a transaction among others.**  Whatever the server answers and whatever the
other holders do meanwhile, the transaction asks for BEGIN, then for the statements of the rows, then
for COMMIT only if all of them were accepted, and for ROLLBACK if anything failed; and it publishes
the effects of all the rows in order, if COMMIT was accepted, and otherwise none. -/
theorem insertTogether_atomic (view : Transactional server) (turns : List (List Deed))
    (retreat : Retreat) (table : String) (rows : List Record) (pool : Pool σ)
    (hothers : ∀ d ∈ turns.flatten, d.transaction? ≠ some ⟨⟨pool.sessions⟩⟩) :
    ∃ outcome final deeds own effects,
      server.insertTogether turns retreat table rows pool = (outcome, final) ∧
      Account view turns pool deeds own effects final ∧
      Ending server turns table rows pool outcome own effects := by
  cases hclosed : pool.closed with
  | true =>
      have hbegin : server.begin pool = (.error (.database .poolClosed), pool) :=
        Server.begin_of_closed hclosed
      refine ⟨_, pool, [], [], [], ?_, ⟨List.nil_prefix, ⟨pool.sessions, .nil pool⟩,
        ⟨[], (List.append_nil _).symm, rfl⟩, (List.append_nil _).symm⟩, .closed hclosed⟩
      rw [Server.insertTogether, hbegin]
  | false =>
      let handed : Pool σ := { pool with sessions := pool.sessions + 1 }
      have hhanded : Holding view ⟨⟨pool.sessions⟩⟩ handed [] [] [] handed :=
        ⟨.nil handed, Nat.lt_succ_self pool.sessions, (List.append_nil _).symm⟩
      have hasked := hhanded.put_unpublished
        (view.begin_published ⟨pool.sessions⟩ handed.state)
      have hbegin := @Server.begin_of_open _ server pool hclosed
      cases hask : (server.ask (.control ⟨pool.sessions⟩ .begin) pool.state).1 with
      | error error =>
          rw [hask] at hbegin
          refine ⟨_, _, [], _, [], ?_, hasked.account (List.nil_append turns.flatten) hothers
            (List.forall_mem_singleton.mpr rfl), .unbegun hclosed hbegin⟩
          rw [Server.insertTogether, hbegin]
          rfl
      | ok _ =>
          rw [hask] at hbegin
          exact atomic_of_begun view retreat table rows hothers hbegin
            ⟨hasked, view.begin_pending hask⟩

end run

/-- Two rows, while another holder begins a transaction of its own, writes in it, and commits it
before the second row is sent. -/
theorem insertTogether_atomic_two_rows :
    let bump : Statement := ⟨.raw, "UPDATE totals SET n = n + 1", []⟩
    let turns : List (List Deed) :=
      [[.begin, .sendWithin ⟨⟨2⟩⟩ .execute bump], [.send .fetchAll bump, .finish ⟨⟨2⟩⟩ .commit]]
    let rows : List Record := [.ofList [("name", .text "Ana")], .ofList [("name", .text "Bo")]]
    let pool : Pool (Playbook × Ledger) := { state := ({}, fun _ => {}), sessions := 1 }
    (∀ d ∈ turns.flatten, d.transaction? ≠ some ⟨⟨pool.sessions⟩⟩) ∧
    ∃ final deeds own effects,
      scripted.withLedger.insertTogether turns .drop "users" rows pool = (.ok 0, final) ∧
      Account scripted.ledgerView turns pool deeds own effects final ∧
      Ending scripted.withLedger turns "users" rows pool (.ok 0) own effects ∧
      own = [.control ⟨1⟩ .begin,
        .statement ⟨1⟩ "INSERT INTO users (name) VALUES (?)" [.varString "Ana"],
        .statement ⟨1⟩ "INSERT INTO users (name) VALUES (?)" [.varString "Bo"],
        .control ⟨1⟩ .commit] ∧
      effects = [("INSERT INTO users (name) VALUES (?)", [.varString "Ana"]),
        ("INSERT INTO users (name) VALUES (?)", [.varString "Bo"])] := by
  intro bump turns rows pool
  have hothers : ∀ d ∈ turns.flatten, d.transaction? ≠ some ⟨⟨pool.sessions⟩⟩ := by decide
  have hoks : (scripted.withLedger.insertTogether turns .drop "users" rows pool).1 = .ok 0 := by
    rfl
  obtain ⟨outcome, final, deeds, own, effects, hrun, haccount, hending⟩ :=
    insertTogether_atomic scripted.ledgerView turns .drop "users" rows pool hothers
  obtain rfl : .ok 0 = outcome := hoks.symm.trans (congrArg Prod.fst hrun)
  obtain rfl : (scripted.withLedger.insertTogether turns .drop "users" rows pool).2 = final :=
    congrArg Prod.snd hrun
  refine ⟨hothers, _, deeds, own, effects, hrun, haccount, hending, ?_, ?_⟩
  · obtain ⟨events, hlog, hown⟩ := haccount.log
    rw [List.nil_append] at hlog
    rw [← hown, ← hlog]
    rfl
  · have hpublished : _ = [] ++ effects := haccount.published
    exact hpublished.symm

end TableGateway.Database
