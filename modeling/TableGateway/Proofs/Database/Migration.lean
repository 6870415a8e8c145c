import TableGateway.Database.Migration
import TableGateway.Database.Scripted
import TableGateway.Proofs.Database.Exchange

/-! # Migrations as they are run

A migration that nothing goes wrong with asks for `script`: BEGIN, its statements in order, COMMIT,
all on one session.  Any of these can fail, as the server likes.  `Migrated` lists the ways a
migration can end, each with its outcome and what was asked; `Protocol` adds what that says of
COMMIT and of the outcome, and `protocol_migrate` that making and undoing any migration keep to
it. -/

namespace TableGateway.Database

/-- BEGIN and the statements, each as it is and without values. -/
def opening (session : Session) (texts : List String) : List Event :=
  .control session .begin :: texts.map fun sql => .statement session sql []

/-- What a migration asks for, up to the first event that fails. -/
def script (session : Session) (texts : List String) : List Event :=
  opening session texts ++ [.control session .commit]

variable {σ : Type} (server : Server σ)

/-- How a migration can end: its outcome, what was asked and the server behind it. -/
inductive Migrated (statements : Except Rejection (List String)) (pool : Pool σ) :
    Except Failure Unit → List Event → σ → Prop
  /-- There are no statements to run. -/
  | rejected {rejection : Rejection} :
      statements = .error rejection →
      Migrated statements pool (.error (.rejected rejection)) [] pool.state
  /-- There is no session to begin on. -/
  | closed {texts : List String} :
      statements = .ok texts → pool.closed = true →
      Migrated statements pool (.error (.database .poolClosed)) [] pool.state
  /-- BEGIN fails. -/
  | unbegun {texts : List String} {error : ServerError} :
      statements = .ok texts → pool.closed = false →
      (server.ask (.control ⟨pool.sessions⟩ .begin) pool.state).1 = .error error →
      Migrated statements pool (.error (.database (.server error)))
        [.control ⟨pool.sessions⟩ .begin]
        (server.ask (.control ⟨pool.sessions⟩ .begin) pool.state).2
  /-- A later event is the first that fails; behind it the transaction is rolled back. -/
  | stopped {texts : List String} {before after : List Event} {e : Event} {error : ServerError}
      {s t : σ} :
      statements = .ok texts → pool.closed = false →
      script ⟨pool.sessions⟩ texts = before ++ e :: after → before ≠ [] →
      Accepts server before pool.state s → server.ask e s = (.error error, t) →
      Migrated statements pool (.error (.database (.server error)))
        (before ++ [e, .control ⟨pool.sessions⟩ .rollback])
        (server.ask (.control ⟨pool.sessions⟩ .rollback) t).2
  /-- Nothing fails. -/
  | done {texts : List String} {s : σ} :
      statements = .ok texts → pool.closed = false →
      Accepts server (script ⟨pool.sessions⟩ texts) pool.state s →
      Migrated statements pool (.ok ()) (script ⟨pool.sessions⟩ texts) s

/-! ### Runs -/

variable {server} {statements : Except Rejection (List String)} {pool : Pool σ}

theorem opening_eq (session : Session) (texts : List String) :
    opening session texts = .control session .begin ::
      (texts.map Statement.schema).map (.ofStatement session) := by
  rw [opening, List.map_map]
  rfl

theorem runSchema_of_error {texts : List String} {t : Transaction} {p q : Pool σ}
    {failure : Failure} (hbegin : server.begin pool = (.ok t, p))
    (hrun : (server.within t).executeAll (texts.map .schema) 0 p = (.error failure, q)) :
    server.runSchema texts pool = (.error failure, server.abandon t q) := by
  rw [Server.runSchema, hbegin]
  simp only [hrun]

theorem runSchema_of_ok {texts : List String} {t : Transaction} {p q : Pool σ} {n : UInt64}
    (hbegin : server.begin pool = (.ok t, p))
    (hrun : (server.within t).executeAll (texts.map .schema) 0 p = (.ok n, q)) :
    server.runSchema texts pool = server.finish .commit t q := by
  rw [Server.runSchema, hbegin]
  simp only [hrun]
  rfl

/-- An event that fails, COMMIT or one before it, ends the migration. -/
theorem migrated_of_failed {texts : List String} {before after : List Event} {e : Event}
    {error : ServerError} {s : σ} {q : Pool σ} (hstatements : statements = .ok texts)
    (hclosed : pool.closed = false)
    (hrun : server.runSchema texts pool =
      (.error (.database (.server error)), server.abandon ⟨⟨pool.sessions⟩⟩ q))
    (hscript : script ⟨pool.sessions⟩ texts = before ++ e :: after) (hne : before ≠ [])
    (haccepts : Accepts server before pool.state s) (hask : server.ask e s = (.error error, q.state))
    (hlog : q.log = pool.log ++ (before ++ [e])) :
    ∃ events, (server.runSchema texts pool).2.log = pool.log ++ events ∧
      Migrated server statements pool (server.runSchema texts pool).1 events
        (server.runSchema texts pool).2.state := by
  rw [hrun]
  refine ⟨before ++ [e, .control ⟨pool.sessions⟩ .rollback], ?_,
    .stopped hstatements hclosed hscript hne haccepts hask⟩
  have happend : (server.abandon ⟨⟨pool.sessions⟩⟩ q).log =
      q.log ++ [.control ⟨pool.sessions⟩ .rollback] := rfl
  rw [happend, hlog, List.append_assoc, List.append_assoc]
  rfl

/-- Once all statements are accepted, COMMIT decides. -/
theorem migrated_of_accepts {texts : List String} {q : Pool σ}
    (hstatements : statements = .ok texts) (hclosed : pool.closed = false)
    (hrun : server.runSchema texts pool = server.finish .commit ⟨⟨pool.sessions⟩⟩ q)
    (haccepts : Accepts server (opening ⟨pool.sessions⟩ texts) pool.state q.state)
    (hlog : q.log = pool.log ++ opening ⟨pool.sessions⟩ texts) :
    ∃ events, (server.runSchema texts pool).2.log = pool.log ++ events ∧
      Migrated server statements pool (server.runSchema texts pool).1 events
        (server.runSchema texts pool).2.state := by
  let committed : Pool σ := server.put (.control ⟨pool.sessions⟩ .commit) q
  have hcommitted : committed.log = pool.log ++ script ⟨pool.sessions⟩ texts := by
    rw [script, ← List.append_assoc, ← hlog]
    rfl
  cases hcommit : (server.ask (.control ⟨pool.sessions⟩ .commit) q.state).1 with
  | ok _ =>
      rw [Server.finish_of_ok hcommit] at hrun
      rw [hrun]
      exact ⟨script ⟨pool.sessions⟩ texts, hcommitted,
        .done hstatements hclosed (haccepts.append (.single (Prod.ext hcommit rfl)))⟩
  | error error =>
      rw [Server.finish_of_error hcommit] at hrun
      exact migrated_of_failed hstatements hclosed hrun rfl (List.cons_ne_nil _ _) haccepts
        (Prod.ext hcommit rfl) hcommitted

/-- What is asked behind BEGIN, and how that ends. -/
theorem migrated_of_begun {texts : List String} (hstatements : statements = .ok texts)
    (hclosed : pool.closed = false)
    (hbegin : (server.ask (.control ⟨pool.sessions⟩ .begin) pool.state).1 = .ok ()) :
    ∃ events, (server.runSchema texts pool).2.log = pool.log ++ events ∧
      Migrated server statements pool (server.runSchema texts pool).1 events
        (server.runSchema texts pool).2.state := by
  let session : Session := ⟨pool.sessions⟩
  let begun : Pool σ :=
    server.put (.control session .begin) { pool with sessions := pool.sessions + 1 }
  have hask : server.ask (.control session .begin) pool.state = (.ok (), begun.state) :=
    Prod.ext hbegin rfl
  have hpool : server.begin pool = (.ok ⟨session⟩, begun) := by
    rw [Server.begin_of_open hclosed, hbegin]
    rfl
  have hbegun : begun.log = pool.log ++ [.control session .begin] := rfl
  have hopening := opening_eq session texts
  rcases executeAll_within_cases server ⟨session⟩ (texts.map .schema) begun with
    ⟨n, q, hrun, haccepts, hlog⟩ | ⟨before, e, after, error, s, q, htexts, hrun, haccepts, he, hlog⟩
  · have haccepts : Accepts server (opening session texts) pool.state q.state := by
      rw [hopening]
      exact .cons hask haccepts
    have hlog : q.log = pool.log ++ opening session texts := by
      rw [hlog, hbegun, hopening]
      exact (List.append_cons ..).symm
    exact migrated_of_accepts hstatements hclosed (runSchema_of_ok hpool hrun) haccepts hlog
  · have hscript : script session texts =
        (.control session .begin :: before) ++ e :: (after ++ [.control session .commit]) := by
      rw [script, hopening, htexts, List.cons_append, List.cons_append, List.append_assoc,
        List.cons_append]
    have hlog : q.log = pool.log ++ ((.control session .begin :: before) ++ [e]) := by
      rw [hlog, hbegun]
      exact (List.append_cons ..).symm
    exact migrated_of_failed hstatements hclosed (runSchema_of_error hpool hrun) hscript
      (List.cons_ne_nil _ _) (.cons hask haccepts) he hlog

theorem migrated_runSchema {texts : List String} (hstatements : statements = .ok texts) :
    ∃ events, (server.runSchema texts pool).2.log = pool.log ++ events ∧
      Migrated server statements pool (server.runSchema texts pool).1 events
        (server.runSchema texts pool).2.state := by
  cases hclosed : pool.closed with
  | true =>
      rw [Server.runSchema, Server.begin_of_closed hclosed]
      exact ⟨[], (List.append_nil _).symm, .closed hstatements hclosed⟩
  | false =>
      cases hbegin : (server.ask (.control ⟨pool.sessions⟩ .begin) pool.state).1 with
      | error error =>
          rw [Server.runSchema, Server.begin_of_open hclosed, hbegin]
          exact ⟨[.control ⟨pool.sessions⟩ .begin], rfl, .unbegun hstatements hclosed hbegin⟩
      | ok _ => exact migrated_of_begun hstatements hclosed hbegin

theorem migrated_runCompiled (server : Server σ) (statements : Except Rejection (List String))
    (pool : Pool σ) :
    ∃ events, (server.runCompiled statements pool).2.log = pool.log ++ events ∧
      Migrated server statements pool (server.runCompiled statements pool).1 events
        (server.runCompiled statements pool).2.state := by
  cases statements with
  | error rejection => exact ⟨[], (List.append_nil _).symm, .rejected rfl⟩
  | ok texts => exact migrated_runSchema rfl

/-! ### What the ways to end have in common -/

namespace Migrated

variable {outcome : Except Failure Unit} {events : List Event} {s : σ}

theorem session_script {session : Session} {texts : List String} {e : Event}
    (h : e ∈ script session texts) : e.session = session := by
  simp only [script, opening, List.cons_append, List.mem_cons, List.mem_append, List.mem_map,
    List.not_mem_nil, or_false] at h
  rcases h with rfl | ⟨text, -, rfl⟩ | rfl
  · rfl
  · rfl
  · rfl

/-- Nothing is asked outside of the transaction. -/
theorem session_eq (h : Migrated server statements pool outcome events s) :
    ∀ e ∈ events, e.session = ⟨pool.sessions⟩ := by
  intro e he
  cases h with
  | rejected | closed => cases he
  | unbegun =>
      rw [List.mem_singleton.mp he]
      rfl
  | @stopped texts before after d error s t _ _ hscript =>
      have hmem : ∀ c ∈ before ++ [d], c ∈ script ⟨pool.sessions⟩ texts := by
        intro c hc
        rw [hscript, List.append_cons]
        exact List.mem_append_left _ hc
      rw [List.append_cons] at he
      rcases List.mem_append.mp he with he | he
      · exact session_script (hmem e he)
      · rw [List.mem_singleton.mp he]
        rfl
  | done => exact session_script he

/-- The events before the last of a script, or the last, can be the first to fail. -/
theorem script_eq_append_cons {session : Session} {texts : List String} {before after : List Event}
    {e : Event} (h : script session texts = before ++ e :: after) :
    (before = opening session texts ∧ e = .control session .commit) ∨
      ∃ rest, opening session texts = before ++ e :: rest := by
  rcases List.append_eq_append_iff.mp h with ⟨middle, hbefore, hlast⟩ | ⟨middle, hopening, hlast⟩
  · cases middle with
    | nil =>
        obtain ⟨rfl, -⟩ := List.cons.inj hlast
        exact .inl ⟨by rw [hbefore, List.append_nil], rfl⟩
    | cons d middle => simp at hlast
  · cases middle with
    | nil =>
        obtain ⟨rfl, -⟩ := List.cons.inj hlast
        exact .inl ⟨by rw [hopening, List.append_nil], rfl⟩
    | cons d middle =>
        obtain ⟨rfl, -⟩ := List.cons.inj hlast
        exact .inr ⟨middle, hopening⟩

theorem commit_notMem_opening (session : Session) (texts : List String) :
    Event.control session .commit ∉ opening session texts := by
  simp [opening]

/-- COMMIT is asked for exactly when BEGIN and all the statements are accepted. -/
theorem commit_mem_iff (h : Migrated server statements pool outcome events s) :
    .control ⟨pool.sessions⟩ .commit ∈ events ↔
      ∃ texts t, statements = .ok texts ∧ pool.closed = false ∧
        Accepts server (opening ⟨pool.sessions⟩ texts) pool.state t := by
  cases h with
  | rejected hstatements => simp [hstatements]
  | closed hstatements hclosed => simp [hclosed]
  | unbegun hstatements hclosed hbegin =>
      constructor
      · intro hmem
        cases List.mem_singleton.mp hmem
      · rintro ⟨texts, t, -, -, haccepts⟩
        exact absurd haccepts ((Accepts.nil pool.state).not_append_cons (Prod.ext hbegin rfl))
  | @stopped texts before after e error t u hstatements hclosed hscript hne haccepts hask =>
      rcases script_eq_append_cons hscript with ⟨rfl, rfl⟩ | ⟨rest, hopening⟩
      · have hmem : Event.control ⟨pool.sessions⟩ .commit ∈ opening ⟨pool.sessions⟩ texts ++
            [.control ⟨pool.sessions⟩ .commit, .control ⟨pool.sessions⟩ .rollback] := by simp
        exact iff_of_true hmem ⟨texts, t, hstatements, hclosed, haccepts⟩
      · have hno := commit_notMem_opening ⟨pool.sessions⟩ texts
        rw [hopening] at hno
        refine iff_of_false ?_ ?_
        · simp only [List.mem_append, List.mem_cons, not_or] at hno ⊢
          exact ⟨hno.1, hno.2.1, by simp, List.not_mem_nil⟩
        · rintro ⟨texts', v, hstatements', -, haccepts'⟩
          obtain rfl : texts = texts' := Except.ok.inj (hstatements.symm.trans hstatements')
          rw [hopening] at haccepts'
          exact haccepts.not_append_cons hask haccepts'
  | @done texts t hstatements hclosed haccepts =>
      obtain ⟨v, hopening, -⟩ := haccepts.of_append
      have hmem : Event.control ⟨pool.sessions⟩ .commit ∈ script ⟨pool.sessions⟩ texts := by
        simp [script]
      exact iff_of_true hmem ⟨texts, v, hstatements, hclosed, hopening⟩

/-- All is well exactly when COMMIT is accepted behind all that comes before it. -/
theorem ok_iff (h : Migrated server statements pool outcome events s) :
    outcome = .ok () ↔
      ∃ texts t, statements = .ok texts ∧ pool.closed = false ∧
        Accepts server (script ⟨pool.sessions⟩ texts) pool.state t := by
  cases h with
  | rejected hstatements => simp [hstatements]
  | closed hstatements hclosed => simp [hclosed]
  | unbegun hstatements hclosed hbegin =>
      refine iff_of_false (by simp) ?_
      rintro ⟨texts, t, -, -, haccepts⟩
      exact (Accepts.nil pool.state).not_append_cons (Prod.ext hbegin rfl) haccepts
  | @stopped texts before after e error t u hstatements hclosed hscript hne haccepts hask =>
      refine iff_of_false (by simp) ?_
      rintro ⟨texts', v, hstatements', -, haccepts'⟩
      obtain rfl : texts = texts' := Except.ok.inj (hstatements.symm.trans hstatements')
      rw [hscript] at haccepts'
      exact haccepts.not_append_cons hask haccepts'
  | @done texts t hstatements hclosed haccepts =>
      exact iff_of_true rfl ⟨texts, s, hstatements, hclosed, haccepts⟩

end Migrated

/-- What a run of statements as a migration keeps to, given its outcome and the pool behind it. -/
structure Protocol (server : Server σ) (statements : Except Rejection (List String))
    (pool : Pool σ) (run : Except Failure Unit × Pool σ) (events : List Event) : Prop where
  log : run.2.log = pool.log ++ events
  ending : Migrated server statements pool run.1 events run.2.state
  inside : ∀ e ∈ events, e.session = ⟨pool.sessions⟩
  commit_iff : .control ⟨pool.sessions⟩ .commit ∈ events ↔
    ∃ texts s, statements = .ok texts ∧ pool.closed = false ∧
      Accepts server (opening ⟨pool.sessions⟩ texts) pool.state s
  ok_iff : run.1 = .ok () ↔
    ∃ texts s, statements = .ok texts ∧ pool.closed = false ∧
      Accepts server (script ⟨pool.sessions⟩ texts) pool.state s

theorem protocol_runCompiled (server : Server σ) (statements : Except Rejection (List String))
    (pool : Pool σ) :
    ∃ events, Protocol server statements pool (server.runCompiled statements pool) events := by
  obtain ⟨events, hlog, hending⟩ := migrated_runCompiled server statements pool
  exact ⟨events, hlog, hending, hending.session_eq, hending.commit_mem_iff, hending.ok_iff⟩

/-- **Migrations on a server that may fail.**  Without statements nothing is asked.  Otherwise BEGIN,
the statements and COMMIT are asked for on one session up to the first that fails, which is the
failure returned, and behind it the transaction is rolled back.  Undoing a migration is the same
with its other statements. -/
theorem protocol_migrate (server : Server σ) (m : Migration) (pool : Pool σ) :
    (∃ events, Protocol server m.up pool (server.migrate m pool) events) ∧
      ∃ events, Protocol server m.down pool (server.undo m pool) events :=
  ⟨protocol_runCompiled server m.up pool, protocol_runCompiled server m.down pool⟩

/-- The second of three statements fails: the third and COMMIT are not asked for. -/
example :
    let failure : ServerError := ⟨1050, "42S01", "Table exists"⟩
    let pool : Pool Playbook := { state := { replies := [.ok (.done {}), .error failure] } }
    (scripted.runSchema ["a", "b", "c"] pool).1 = .error (.database (.server failure)) ∧
      (scripted.runSchema ["a", "b", "c"] pool).2.log =
        [.control ⟨0⟩ .begin, .statement ⟨0⟩ "a" [], .statement ⟨0⟩ "b" [],
          .control ⟨0⟩ .rollback] := ⟨rfl, rfl⟩

end TableGateway.Database
