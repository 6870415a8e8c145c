import TableGateway.Gateway.DryRun
import TableGateway.Proofs.Gateway.Likeness

/-! # Values are confined to bindings

Two runs of the same tasks that differ in nothing but values are compared.  A `Task` has a query
compiled, wraps or sends SQL written by hand, or makes a call, and `Task.Like` relates tasks that
are the same but for their values; what they insert must be null in the same places.

`Executor.Blind` says of an executor that its replies depend on the texts it is sent and on nothing
else.  On such an executor the runs go alike, round by round (`rounds_twin`): the same errors and
answers, and the same texts, with bindings that come from the same places of what was given to the
task.  The step is `Task.Like.run`: a task keeps two states `Level`, which means that the executor
cannot tell them apart and what was sent so far is alike; `Task.Like.round` says what that makes of
one round. -/

namespace TableGateway

/-! ### Executors that look at texts only -/

namespace Executor

variable {σ : Type} (ex : Executor σ)

/-- What is replied to statements that are sent one after another. -/
def replies : Log → σ → List ((via : Via) × Except Failure via.Reply)
  | [], _ => []
  | (via, statement) :: rest, s =>
    ⟨via, (ex.send via statement s).1⟩ :: replies rest (ex.send via statement s).2

/-- The ways and the texts of what was sent. -/
def texts (log : Log) : List (Via × String) := log.map fun entry => (entry.1, entry.2.sql)

/-- The same replies come from both states to any statements with the same texts. -/
def Same (s t : σ) : Prop := ∀ a b : Log, texts a = texts b → ex.replies a s = ex.replies b t

/-- From this state on, replies depend on the texts of statements and on nothing else. -/
def Blind (s : σ) : Prop := ex.Same s s

variable {ex} {s t : σ}

theorem Same.send (h : ex.Same s t) (via : Via) {a b : Statement} (hsql : a.sql = b.sql) :
    (ex.send via a s).1 = (ex.send via b t).1 ∧
      ex.Same (ex.send via a s).2 (ex.send via b t).2 := by
  have hcons : ∀ before after : Log, texts before = texts after →
      ex.replies ((via, a) :: before) s = ex.replies ((via, b) :: after) t := by
    intro before after htexts
    refine h _ _ ?_
    rw [texts, List.map_cons, hsql]
    exact congrArg _ htexts
  constructor
  · have hnil := List.head_eq_of_cons_eq (hcons [] [] rfl)
    exact eq_of_heq (Sigma.mk.inj hnil).2
  · intro before after htexts
    exact List.tail_eq_of_cons_eq (hcons before after htexts)

/-- A dry run answers by its script and the number of statements before. -/
theorem blind_dryRun (script : Script) (sent : Log) : (dryRun script).Blind sent := by
  have hreplies : ∀ (a b sent sent' : Log), texts a = texts b → sent.length = sent'.length →
      (dryRun script).replies a sent = (dryRun script).replies b sent' := by
    intro a
    induction a with
    | nil =>
        intro b sent sent' htexts _
        obtain rfl : b = [] := List.map_eq_nil_iff.mp htexts.symm
        rfl
    | cons entry a ih =>
        intro b sent sent' htexts hlength
        cases b with
        | nil => cases htexts
        | cons other b =>
            obtain ⟨via, statement⟩ := entry
            obtain ⟨via', statement'⟩ := other
            obtain ⟨hhead, htail⟩ := List.cons.inj htexts
            obtain rfl : via = via' := (Prod.mk.inj hhead).1
            have hrest := ih b (sent ++ [(via, statement)]) (sent' ++ [(via, statement')]) htail
              (by simp [hlength])
            simp only [replies, dryRun, hlength]
            exact congrArg _ hrest
  exact fun a b htexts => hreplies a b sent sent htexts rfl

end Executor

/-! ### States that are level -/

/-- The statements were sent in the same way and are twins. -/
def SentTwin (P : Value → Value → Prop) (a b : Via × Statement) : Prop := a.1 = b.1 ∧ a.2.Twin P b.2

variable {σ α : Type} {ex : Executor σ} {P : Value → Value → Prop}

variable (ex P) in
/-- The executor cannot tell the states apart, and what was sent is alike. -/
def Level (x y : σ × Log) : Prop := ex.Same x.1 y.1 ∧ List.Forall₂ (SentTwin P) x.2 y.2

variable (ex P) in
/-- The outcomes are the same, in states that are level. -/
def Agree (x y : α × σ × Log) : Prop := x.1 = y.1 ∧ Level ex P x.2 y.2

theorem Agree.map {β : Type} {x y : α × σ × Log} (h : Agree ex P x y) (f : α → β) :
    Agree ex P (f x.1, x.2) (f y.1, y.2) := ⟨congrArg f h.1, h.2⟩

theorem send_agree {x y : σ × Log} (h : Level ex P x y) (via : Via) {a b : Statement}
    (htwin : a.Twin P b) : Agree ex P (ex.logged.send via a x) (ex.logged.send via b y) := by
  obtain ⟨hsame, hlog⟩ := h
  obtain ⟨hreply, hnext⟩ := hsame.send via htwin.sql
  exact ⟨hreply, hnext, List.rel_append hlog (.cons ⟨rfl, htwin⟩ .nil)⟩

theorem executeAll_agree {statements others : List Statement}
    (htwins : List.Forall₂ (Statement.Twin P) statements others) (total : UInt64) {x y : σ × Log}
    (h : Level ex P x y) :
    Agree ex P (ex.logged.executeAll statements total x) (ex.logged.executeAll others total y) := by
  induction htwins generalizing total x y with
  | nil => exact ⟨rfl, h⟩
  | @cons a b statements others htwin _ ih =>
      obtain ⟨hreply, hlevel⟩ := send_agree h .execute htwin
      rcases hx : ex.logged.send .execute a x with ⟨reply, x'⟩
      rcases hy : ex.logged.send .execute b y with ⟨reply', y'⟩
      rw [hx, hy] at hreply hlevel
      obtain rfl : reply = reply' := hreply
      rw [Executor.executeAll, Executor.executeAll, hx, hy]
      cases reply with
      | error failure => exact ⟨rfl, hlevel⟩
      | ok receipt => exact ih _ hlevel

/-! ### Requests -/

namespace Table.Request

variable {r p : Request}

theorem run_of_reading {table : String} {statement : Statement}
    (h : r.query.compile (some table) = .ok statement) (x : σ) :
    r.run ex table x = ((ex.send r.reading.1 statement x).1.map r.reading.2,
      (ex.send r.reading.1 statement x).2) := run_of_ok ex h x

/-- Requests that are alike do the same from states that are level. -/
theorem Like.run (h : r.Like p) (hinputs : List.Forall₂ P r.query.inputs p.query.inputs)
    (table : String) {x y : σ × Log} (hlevel : Level ex P x y) :
    Agree ex P (r.run ex.logged table x) (p.run ex.logged table y) := by
  have hcompile := h.query.compile hinputs (some table)
  generalize hr : r.query.compile (some table) = compiled at hcompile
  generalize hp : p.query.compile (some table) = compiled' at hcompile
  cases hcompile with
  | error rejection =>
      rw [run_of_error _ hr, run_of_error _ hp]
      exact ⟨rfl, hlevel⟩
  | ok htwin =>
      rw [run_of_reading hr, run_of_reading hp, h.reading]
      obtain ⟨hreply, hnext⟩ := send_agree hlevel p.reading.1 htwin
      exact ⟨congrArg (Except.map p.reading.2) hreply, hnext⟩

end Table.Request

/-! ### Several rows -/

namespace Table

variable {rows others : List Record}

theorem insertMany_agree (h : List.Forall₂ (Record.Related SameNull) rows others)
    (hinputs : List.Forall₂ P (rows.flatMap Record.values) (others.flatMap Record.values))
    (table : String) {x y : σ × Log} (hlevel : Level ex P x y) :
    Agree ex P (insertMany ex.logged table rows x) (insertMany ex.logged table others y) := by
  have hstatements := insertStatements_twin h hinputs table
  generalize hr : insertStatements table rows = statements at hstatements
  generalize ho : insertStatements table others = statements' at hstatements
  cases hstatements with
  | error rejection =>
      rw [insertMany_of_error _ hr, insertMany_of_error _ ho]
      exact ⟨rfl, hlevel⟩
  | ok htwins =>
      rw [insertMany_of_ok _ hr, insertMany_of_ok _ ho]
      exact executeAll_agree htwins 0 hlevel

end Table

/-! ### Operations of a model -/

namespace Model.Operation

variable {m : Model} {o p : Operation}

theorem Like.run (h : o.Like m p) (hinputs : List.Forall₂ P o.inputs p.inputs) {x y : σ × Log}
    (hlevel : Level ex P x y) : Agree ex P (o.run ex.logged m x) (p.run ex.logged m y) := by
  obtain ⟨hlike, hvalues⟩ := h.parallel hinputs
  have hrequest := hlike.run hvalues m.table hlevel
  rw [run_eq, run_eq, h.answer]
  exact hrequest.map (Except.map (p.answer m))

end Model.Operation

/-! ### Calls -/

namespace Call

variable {c d : Call}

theorem Like.run (h : c.Like d) (hinputs : List.Forall₂ P c.inputs d.inputs) {x y : σ × Log}
    (hlevel : Level ex P x y) : Agree ex P (c.run ex.logged x) (d.run ex.logged y) := by
  cases h with
  | request table h => exact h.run hinputs table hlevel
  | insertMany table h =>
      exact (Table.insertMany_agree h hinputs table hlevel).map (Except.map Table.Answer.tally)
  | operation m h => exact h.run hinputs hlevel

end Call

/-! ### Tasks -/

/-- A query that is compiled, SQL written by hand, or a call. -/
inductive Task where
  | compile (table : Option String) (q : Query)
  | wrap (sql : String) (bindings : List Value)
  /-- Sends SQL written by hand. -/
  | raw (sql : String) (bindings : List Value)
  | call (c : Call)
  deriving DecidableEq

/-- What comes of a task: a statement, or what was answered. -/
inductive Result where
  | statement (outcome : Except Rejection Statement)
  | answer (outcome : Except Failure Table.Answer)

/-- The results are the same error or answer, or statements that are twins. -/
inductive Result.Twin (P : Value → Value → Prop) : Result → Result → Prop
  | statement {a b : Except Rejection Statement} :
      SameOutcome (Statement.Twin P) a b → Twin P (.statement a) (.statement b)
  | answer (outcome : Except Failure Table.Answer) : Twin P (.answer outcome) (.answer outcome)

theorem Agree.answer {x y : Except Failure Table.Answer × σ × Log} (h : Agree ex P x y) :
    Result.Twin P (.answer x.1) (.answer y.1) ∧ Level ex P x.2 y.2 := by
  obtain ⟨hsame, hlevel⟩ := h
  rw [hsame]
  exact ⟨.answer _, hlevel⟩

namespace Task

/-- Does a task. -/
def run (ex : Executor σ) : Task → σ → Result × σ
  | compile table q, s => (.statement (q.compile table), s)
  | wrap sql bindings, s => (.statement (.ok (.raw sql bindings)), s)
  | raw sql bindings, s =>
    let (rows, s) := ex.raw sql bindings s
    (.answer (rows.map .rows), s)
  | call c, s =>
    let (outcome, s) := c.run ex s
    (.answer outcome, s)

/-- The tasks are the same but for their values. -/
inductive Like : Task → Task → Prop
  | compile (table : Option String) {q p : Query} :
      q.Like p → Like (.compile table q) (.compile table p)
  | wrap (sql : String) {values others : List Value} :
      values.length = others.length → Like (.wrap sql values) (.wrap sql others)
  | raw (sql : String) {values others : List Value} :
      values.length = others.length → Like (.raw sql values) (.raw sql others)
  | call {c d : Call} : c.Like d → Like (.call c) (.call d)

/-- The values that come into a task. -/
def inputs : Task → List Value
  | compile _ q => q.inputs
  | wrap _ bindings | raw _ bindings => bindings
  | call c => c.inputs

variable {a b : Task}

theorem Like.length_inputs (h : a.Like b) : a.inputs.length = b.inputs.length := by
  cases h with
  | compile table h => exact h.length_inputs
  | wrap sql h | raw sql h => exact h
  | call h => exact h.length_inputs

variable (ex) in
/-- A task does on the logged executor what it does without. -/
theorem run_logged (task : Task) (s : σ) (log : Log) :
    ∃ sent, task.run ex.logged (s, log) =
      ((task.run ex s).1, (task.run ex s).2, log ++ sent) := by
  cases task with
  | compile | wrap =>
      refine ⟨[], ?_⟩
      rw [List.append_nil]
      rfl
  | raw sql bindings => exact ⟨[(.fetchAll, .raw sql bindings)], rfl⟩
  | call c =>
      obtain ⟨sent, hrun, -⟩ := c.run_logged ex s log
      refine ⟨sent, ?_⟩
      rw [run, run, hrun]

/-- **One task.**  From states that are level, tasks that are alike come to the same, and leave
states that are level. -/
theorem Like.run (h : a.Like b) (hinputs : List.Forall₂ P a.inputs b.inputs) {x y : σ × Log}
    (hlevel : Level ex P x y) :
    Result.Twin P (a.run ex.logged x).1 (b.run ex.logged y).1 ∧
      Level ex P (a.run ex.logged x).2 (b.run ex.logged y).2 := by
  cases h with
  | compile table h => exact ⟨.statement (h.compile hinputs table), hlevel⟩
  | wrap sql _ => exact ⟨.statement (.ok ⟨rfl, rfl, hinputs⟩), hlevel⟩
  | @raw sql values others _ =>
      have htwin : (Statement.raw sql values).Twin P (.raw sql others) := ⟨rfl, rfl, hinputs⟩
      have hrows := send_agree hlevel .fetchAll htwin
      exact (hrows.map (Except.map Table.Answer.rows)).answer
  | call h => exact (h.run hinputs hlevel).answer

end Task

/-! ### Runs -/

/-- The values stand at one place of the two lists. -/
def SamePlace (values others : List Value) (v w : Value) : Prop :=
  ∃ i : ℕ, values[i]? = some v ∧ others[i]? = some w

theorem forall₂_samePlace {values others : List Value} (h : values.length = others.length) :
    List.Forall₂ (SamePlace values others) values others := by
  rw [List.forall₂_iff_get]
  refine ⟨h, fun i hi ho => ⟨i, ?_, ?_⟩⟩
  · exact List.getElem?_eq_getElem hi
  · exact List.getElem?_eq_getElem ho

/-- A task that was done, with what came of it and what was sent meanwhile. -/
structure Round where
  task : Task
  result : Result
  sent : Log

/-- The rounds have the same errors and answers, and statements of the same kinds and texts.  What
these bind in one round and in the other comes from the same places of what was given. -/
structure Round.Twin (a b : Round) : Prop where
  result : a.result.Twin (SamePlace a.task.inputs b.task.inputs) b.result
  sent : List.Forall₂ (SentTwin (SamePlace a.task.inputs b.task.inputs)) a.sent b.sent

namespace Task

/-- Does a task and keeps what comes of it. -/
def round (ex : Executor σ) (task : Task) (s : σ) : Round :=
  ⟨task, (task.run ex s).1, (task.run ex.logged (s, [])).2.2⟩

/-- **One round.**  In states that the executor cannot tell apart, tasks that are alike make rounds
that are twins, and the executor cannot tell the states afterwards apart either. -/
theorem Like.round {a b : Task} (h : a.Like b) {s t : σ} (hsame : ex.Same s t) :
    (a.round ex s).Twin (b.round ex t) ∧ ex.Same (a.run ex s).2 (b.run ex t).2 := by
  have hinputs := forall₂_samePlace h.length_inputs
  have hlevel : Level ex (SamePlace a.inputs b.inputs) (s, []) (t, []) := ⟨hsame, .nil⟩
  obtain ⟨hresult, hnext, hsent⟩ := h.run hinputs hlevel
  obtain ⟨sent, ha⟩ := a.run_logged ex s []
  obtain ⟨sent', hb⟩ := b.run_logged ex t []
  rw [ha, hb] at hresult hnext
  exact ⟨⟨hresult, hsent⟩, hnext⟩

end Task

/-- The rounds of tasks done in order, whatever comes of those before. -/
def rounds (ex : Executor σ) : List Task → σ → List Round
  | [], _ => []
  | task :: rest, s => task.round ex s :: rounds ex rest (task.run ex s).2

/-- **Values are never part of a text.**  Tasks that differ in values only are done twice, on an
executor whose replies depend on texts only.  Task by task, both runs come to the same error or
answer and send statements of the same kinds and texts, which bind equally many values; and where
the values bound differ, they are values that differed at one place of what the task was given. -/
theorem rounds_twin (ex : Executor σ) {s : σ} (hblind : ex.Blind s) {first second : List Task}
    (hlike : List.Forall₂ Task.Like first second) :
    List.Forall₂ Round.Twin (rounds ex first s) (rounds ex second s) := by
  -- The states may differ after the first round, so the induction is over any two of them.
  suffices hruns : ∀ t, ex.Same s t →
      List.Forall₂ Round.Twin (rounds ex first s) (rounds ex second t) from hruns s hblind
  clear hblind
  induction hlike generalizing s with
  | nil => exact fun _ _ => .nil
  | cons hab _ ih =>
      intro t hsame
      obtain ⟨hround, hnext⟩ := hab.round hsame
      exact .cons hround (ih _ hnext)

/-- A value made to break out of a text is only ever bound.  The first task is refused for the null,
the second changes a row and the third, without a key, makes one. -/
theorem rounds_twin_quote :
    let ex := Executor.dryRun {}
    let users : Model := { table := "users", fillable := ["name"], key := some "id" }
    let tasks : Value → Value → Value → List Task := fun name id admin =>
      [.compile (some "users") (.insert (.ofList [("name", name), ("mail", .null)])),
        .call (.request "users" (.update (.ofList [("name", name)]) ⟨"id = ?", [id]⟩)),
        .call (.operation users (.save (.ofList [("admin", admin), ("name", name)])))]
    let first := tasks (.text "Ana") (.int 7) .null
    let second := tasks (.text "'; DROP TABLE users; --") .null (.int 1)
    (ex.Blind [] ∧ List.Forall₂ Task.Like first second) ∧
      List.Forall₂ Round.Twin (rounds ex first []) (rounds ex second []) ∧
      (rounds ex second []).map (fun round => round.sent.map fun entry => entry.2.sql) =
        [[], ["UPDATE users SET name = ? WHERE id = ?"],
          ["INSERT INTO users (name) VALUES (?)"]] := by
  intro ex users tasks first second
  have hblind : ex.Blind [] := Executor.blind_dryRun {} []
  have hnames : Record.Related SameNull (.ofList [("name", .text "Ana")])
      (.ofList [("name", .text "'; DROP TABLE users; --")]) := .cons ⟨rfl, rfl⟩ .nil
  have hrefused : Record.Related SameNull (.ofList [("name", .text "Ana"), ("mail", .null)])
      (.ofList [("name", .text "'; DROP TABLE users; --"), ("mail", .null)]) :=
    .cons ⟨rfl, rfl⟩ (.cons ⟨rfl, rfl⟩ .nil)
  have hlike : List.Forall₂ Task.Like first second :=
    .cons (.compile _ (.insert hrefused))
      (.cons (.call (.request _ (.update rfl ⟨rfl, rfl⟩)))
        (.cons (.call (.operation users (.save rfl fun _ => hnames))) .nil))
  exact ⟨⟨hblind, hlike⟩, rounds_twin ex hblind hlike, by decide⟩

end TableGateway
