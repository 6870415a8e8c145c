import TableGateway.Proofs.Gateway.Assignment
import TableGateway.Proofs.Gateway.InsertMany
import TableGateway.Proofs.Query.Refusal

/-! # What calls can send

A `Call` is anything that can be asked of a table or of a model, other than SQL written by hand, and
calls are made one after another, each on any executor and with any arguments.

`Safe` lists the statements that may be sent for a table.  An INSERT or an UPDATE names columns, no
two equal and none blank, and an UPDATE or a DELETE has a condition that is not blank.  Every
statement comes of a query that was checked (`Call.run_logged`), and such statements are safe
(`safe_of_compile`); so nothing else is sent in any number of calls (`runCalls_safe`). -/

namespace TableGateway

open Text

/-! ### Safe statements -/

/-- The statements that may be sent for a table. -/
inductive Safe (table : String) : Statement → Prop
  /-- One value for each column, none of them null. -/
  | insert {columns : List String} {values : List Value} :
      ¬Blank table → columns ≠ [] → columns.Nodup → (∀ column ∈ columns, ¬Blank column) →
      values.length = columns.length → (∀ value ∈ values, value ≠ .null) →
      Safe table ⟨.insert, "INSERT INTO " ++ table ++ " (" ++ ", ".intercalate columns ++
        ") VALUES (" ++ ", ".intercalate (columns.map fun _ => "?") ++ ")", values⟩
  /-- One value for each column, and behind them those of the condition. -/
  | update {columns : List String} {values rest : List Value} {condition : String} :
      ¬Blank table → columns ≠ [] → columns.Nodup → (∀ column ∈ columns, ¬Blank column) →
      values.length = columns.length → ¬Blank condition →
      Safe table ⟨.update, "UPDATE " ++ table ++ " SET " ++
        ", ".intercalate (columns.map fun column => column ++ " = ?") ++ " WHERE " ++ condition,
        values ++ rest⟩
  | delete {values : List Value} {condition : String} :
      ¬Blank table → ¬Blank condition →
      Safe table ⟨.delete, "DELETE FROM " ++ table ++ " WHERE " ++ condition, values⟩
  /-- Rows are read, tallied or looked for. -/
  | read {kind : StatementKind} {what rest : String} {values : List Value} :
      ¬Blank table → kind = .select ∨ kind = .count ∨ kind = .exists →
      Safe table ⟨kind, "SELECT " ++ what ++ " FROM " ++ table ++ rest, values⟩
  /-- The one statement that removes all rows. -/
  | truncate : ¬Blank table → Safe table ⟨.truncate, "TRUNCATE TABLE " ++ table, []⟩

/-! ### Statements that are compiled -/

section compile
variable {table : String} {fields : Record} {c : Condition}

theorem not_blank_of_check (h : Check.condition c.sql = .ok ()) : ¬Blank c.sql := by
  rw [Check.condition_eq_ok_iff] at h
  rw [blank_iff, h]
  exact Bool.false_ne_true

theorem safe_insert (htable : ¬Blank table) (h : Check.insertFields fields = .ok ()) :
    Safe table ((Query.insert fields).statement table) := by
  obtain ⟨hne, hentries⟩ := Check.insertFields_eq_ok_iff.mp h
  have hcolumns : ∀ column ∈ fields.columns, ¬Blank column := by
    intro column hcolumn
    obtain ⟨e, he, rfl⟩ := List.mem_map.mp hcolumn
    exact (hentries e he).1
  have hvalues : ∀ value ∈ fields.values, value ≠ .null := by
    intro value hvalue
    obtain ⟨e, he, rfl⟩ := List.mem_map.mp hvalue
    exact (hentries e he).2
  exact .insert htable (Record.columns_ne_nil hne) fields.nodup_columns hcolumns
    fields.length_values_eq_length_columns hvalues

theorem safe_update (htable : ¬Blank table) (h : Check.updateFields fields = .ok ())
    (hcondition : Check.condition c.sql = .ok ()) :
    Safe table ((Query.update fields c).statement table) := by
  obtain ⟨hne, hcolumns⟩ := Check.updateFields_eq_ok_iff.mp h
  have hassign : (fun column : String => column ++ " = " ++ Sql.placeholder) =
      fun column => column ++ " = ?" := by
    funext column
    exact String.append_assoc ..
  have hsql : Sql.update table fields c.sql = "UPDATE " ++ table ++ " SET " ++
      ", ".intercalate (fields.columns.map fun column => column ++ " = ?") ++ " WHERE " ++
        c.sql := by
    unfold Sql.update Sql.commaList
    rw [hassign]
  show Safe table ⟨.update, Sql.update table fields c.sql, fields.values ++ c.bindings⟩
  rw [hsql]
  exact .update htable (Record.columns_ne_nil hne) fields.nodup_columns hcolumns
    fields.length_values_eq_length_columns (not_blank_of_check hcondition)

/-- A statement that reads, whatever is read and whatever comes behind the table. -/
theorem safe_read (htable : ¬Blank table) {kind : StatementKind}
    (hkind : kind = .select ∨ kind = .count ∨ kind = .exists) {sql what rest : String}
    (hsql : sql = "SELECT " ++ what ++ " FROM " ++ table ++ rest) (values : List Value) :
    Safe table ⟨kind, sql, values⟩ := by
  rw [hsql]
  exact .read htable hkind

theorem select_eq (table condition : String) :
    Sql.select table condition =
      "SELECT " ++ "*" ++ " FROM " ++ table ++ (" WHERE " ++ condition) := by
  unfold Sql.select
  rw [← String.append_assoc]
  rfl

theorem selectWith_eq (table condition : String) (options : SelectOptions) :
    ∃ rest, Sql.selectWith table condition options =
      "SELECT " ++ "*" ++ " FROM " ++ table ++ rest := by
  refine ⟨" WHERE " ++ condition ++ Sql.optionalClause " GROUP BY " options.groupBy ++
    Sql.optionalClause " ORDER BY " options.orderBy ++ Sql.limitClause options.limit, ?_⟩
  unfold Sql.selectWith
  rw [select_eq]
  simp only [String.append_assoc]

theorem exists_eq (table condition : String) :
    Sql.exists table condition =
      "SELECT " ++ "EXISTS (SELECT 1" ++ " FROM " ++ table ++ (" WHERE " ++ condition ++ ")") := by
  unfold Sql.exists
  rw [← String.append_assoc, ← String.append_assoc]
  rfl

/-- What comes of a query that is accepted is safe. -/
theorem safe_of_compile {q : Query} {statement : Statement}
    (h : q.compile (some table) = .ok statement) : Safe table statement := by
  obtain ⟨hnamed, hcheck, rfl⟩ := Query.compile_eq_ok_iff.mp h
  have htable : ¬Blank table := by
    rw [blank_iff, hnamed]
    exact Bool.false_ne_true
  cases q with
  | insert fields => exact safe_insert htable hcheck
  | update fields c =>
      obtain ⟨hfields, hcondition⟩ := Query.check_update_eq_ok_iff.mp hcheck
      exact safe_update htable hfields hcondition
  | delete c => exact .delete htable (not_blank_of_check hcheck)
  | truncate => exact .truncate htable
  | select c => exact safe_read htable (.inl rfl) (select_eq table c.sql) _
  | selectWith c options =>
      obtain ⟨rest, hsql⟩ := selectWith_eq table c.sql options
      exact safe_read htable (.inl rfl) hsql _
  | selectFields list c => exact .read htable (.inl rfl)
  | count c =>
      have hsql : ∀ condition, Sql.count table condition =
          "SELECT " ++ "COUNT(*)" ++ " FROM " ++ table ++ Sql.optionalClause " WHERE " condition :=
        fun _ => rfl
      exact safe_read htable (.inr (.inl rfl)) (hsql _) _
  | «exists» c => exact safe_read htable (.inr (.inr rfl)) (exists_eq table c.sql) _

end compile

/-! ### Calls -/

/-- What can be asked of a table or of a model. -/
inductive Call where
  | request (table : String) (r : Table.Request)
  | insertMany (table : String) (rows : List Record)
  | operation (m : Model) (o : Model.Operation)
  deriving DecidableEq

namespace Call

/-- The table of a call. -/
def table : Call → String
  | request table _ | insertMany table _ => table
  | operation m _ => m.table

/-- What a call has compiled. -/
def queries : Call → List Query
  | request _ r => [r.query]
  | insertMany _ rows => rows.map .insert
  | operation m o => [(o.request m).query]

/-- Makes a call. -/
def run {σ : Type} (ex : Executor σ) : Call → σ → Except Failure Table.Answer × σ
  | request table r, s => r.run ex table s
  | insertMany table rows, s =>
    let (outcome, s) := Table.insertMany ex table rows s
    (outcome.map .tally, s)
  | operation m o, s => o.run ex m s

/-- The call asks for all rows to be removed. -/
inductive Truncates : Call → Prop
  | request (table : String) : Truncates (.request table .truncate)
  | operation (m : Model) : Truncates (.operation m .truncate)

/-- The statement comes of one of the queries of the call. -/
def Compiles (c : Call) (statement : Statement) : Prop :=
  ∃ q ∈ c.queries, q.compile (some c.table) = .ok statement

variable {σ : Type} (ex : Executor σ)

/-- A request sends nothing or the statement of its query. -/
theorem compile_of_mem_sent {table : String} {r : Table.Request} {entry : Via × Statement}
    (h : entry ∈ r.sent table) : r.query.compile (some table) = .ok entry.2 := by
  cases hcompile : r.query.compile (some table) with
  | error rejection =>
      rw [Table.Request.sent_of_error hcompile] at h
      cases h
  | ok statement =>
      rw [Table.Request.sent_of_ok hcompile, List.mem_singleton] at h
      rw [h]

/-- A call does on the logged executor what it does without, and all it sends comes of its
queries. -/
theorem run_logged (c : Call) (s : σ) (log : Log) :
    ∃ sent, c.run ex.logged (s, log) = ((c.run ex s).1, (c.run ex s).2, log ++ sent) ∧
      ∀ entry ∈ sent, c.Compiles entry.2 := by
  cases c with
  | request table r =>
      refine ⟨r.sent table, r.run_logged ex table s log, fun entry hentry => ?_⟩
      exact ⟨r.query, List.mem_singleton_self _, compile_of_mem_sent hentry⟩
  | operation m o =>
      refine ⟨(o.request m).sent m.table, o.run_logged ex m s log, fun entry hentry => ?_⟩
      exact ⟨(o.request m).query, List.mem_singleton_self _, compile_of_mem_sent hentry⟩
  | insertMany table rows =>
      obtain ⟨statements, hinserted, hlogged⟩ := Table.inserted_insertMany ex table rows s log
      refine ⟨executed statements, by simp only [run, hlogged], fun entry hentry => ?_⟩
      obtain ⟨statement, hstatement, rfl⟩ := List.mem_map.mp hentry
      obtain ⟨fields, hfields, hcompile⟩ := hinserted.exists_of_mem hstatement
      exact ⟨.insert fields, List.mem_map_of_mem hfields, hcompile⟩

/-! ### Calls for all rows to be removed -/

theorem request_eq_truncate {r : Table.Request} (h : r.query = .truncate) : r = .truncate := by
  cases r with
  | truncate => rfl
  | _ => cases h

theorem operation_eq_truncate {m : Model} {o : Model.Operation} (h : o.request m = .truncate) :
    o = .truncate := by
  cases o with
  | truncate => rfl
  | save attributes =>
      -- Whether there is a key or not, attributes are written.
      rcases htake : attributes.take m.primaryKey with ⟨_ | id, rest⟩
      · simp [Model.Operation.request, htake] at h
      · simp [Model.Operation.request, htake] at h
  | _ => cases h

theorem truncates_of_mem_queries {c : Call} (h : .truncate ∈ c.queries) : c.Truncates := by
  cases c with
  | request table r =>
      obtain rfl := request_eq_truncate (List.mem_singleton.mp h).symm
      exact .request table
  | operation m o =>
      obtain rfl := operation_eq_truncate (request_eq_truncate (List.mem_singleton.mp h).symm)
      exact .operation m
  | insertMany table rows =>
      obtain ⟨fields, -, hquery⟩ := List.mem_map.mp h
      cases hquery

/-- Nothing but such a call has a TRUNCATE compiled. -/
theorem Compiles.truncates {c : Call} {statement : Statement} (h : c.Compiles statement)
    (hkind : statement.kind = .truncate) : c.Truncates := by
  obtain ⟨q, hq, hcompile⟩ := h
  obtain ⟨-, -, rfl⟩ := Query.compile_eq_ok_iff.mp hcompile
  have htruncate : q = .truncate := by
    cases q with
    | truncate => rfl
    | _ => cases hkind
  rw [htruncate] at hq
  exact truncates_of_mem_queries hq

theorem Compiles.safe {c : Call} {statement : Statement} (h : c.Compiles statement) :
    Safe c.table statement := by
  obtain ⟨q, -, hcompile⟩ := h
  exact safe_of_compile hcompile

end Call

/-! ### Runs of calls -/

/-- Makes calls in order, each on its executor, whatever comes of those before it. -/
def runCalls {σ : Type} : List (Executor σ × Call) → σ → σ
  | [], s => s
  | (ex, c) :: rest, s => runCalls rest (c.run ex s).2

/-- What is sent in a run comes of the queries of the calls. -/
theorem runCalls_logged {σ : Type} : ∀ (calls : List (Executor σ × Call)) (s : σ) (log : Log),
    ∃ sent,
      runCalls (calls.map fun call => (call.1.logged, call.2)) (s, log) =
        (runCalls calls s, log ++ sent) ∧
      ∀ entry ∈ sent, ∃ call ∈ calls, call.2.Compiles entry.2
  | [], s, log => by
      refine ⟨[], ?_, List.forall_mem_nil _⟩
      rw [List.append_nil]
      rfl
  | (ex, c) :: rest, s, log => by
      obtain ⟨sent, hcall, hsent⟩ := c.run_logged ex s log
      obtain ⟨later, hrest, hlater⟩ := runCalls_logged rest (c.run ex s).2 (log ++ sent)
      refine ⟨sent ++ later, ?_, ?_⟩
      · rw [List.map_cons, runCalls, hcall, hrest, runCalls, List.append_assoc]
      · intro entry hentry
        rcases List.mem_append.mp hentry with hentry | hentry
        · exact ⟨(ex, c), List.mem_cons_self, hsent entry hentry⟩
        · obtain ⟨call, hmem, hcompiles⟩ := hlater entry hentry
          exact ⟨call, List.mem_cons_of_mem _ hmem, hcompiles⟩

/-- **Calls on executors that may fail.**  Whatever is asked of tables and of models, in any number
of calls, every statement sent is safe for the table of a call, and a statement that removes all rows
is only sent when that is what is called for. -/
theorem runCalls_safe {σ : Type} (calls : List (Executor σ × Call)) (s : σ) (log : Log) :
    ∃ sent,
      runCalls (calls.map fun call => (call.1.logged, call.2)) (s, log) =
        (runCalls calls s, log ++ sent) ∧
      ∀ entry ∈ sent, ∃ call ∈ calls, Safe call.2.table entry.2 ∧
        (entry.2.kind = .truncate → call.2.Truncates) := by
  obtain ⟨sent, hrun, hsent⟩ := runCalls_logged calls s log
  refine ⟨sent, hrun, fun entry hentry => ?_⟩
  obtain ⟨call, hcall, hcompiles⟩ := hsent entry hentry
  exact ⟨call, hcall, hcompiles.safe, hcompiles.truncates⟩

/-- Of four calls two are refused, for a blank condition and because no attribute may be written.
The others send an UPDATE with a condition and the TRUNCATE that was called for. -/
theorem runCalls_safe_two_refused :
    let ex := Executor.dryRun {}
    let users : Model := { table := "users", fillable := ["name"], key := some "id" }
    let calls : List (Executor Log × Call) :=
      [(ex, .request "users" (.delete ⟨" ", []⟩)),
        (ex, .operation users (.update (.ofList [("admin", .int 1)]) (.int 7))),
        (ex, .operation users (.update (.ofList [("name", .text "Ana"), ("admin", .int 1)])
          (.int 7))),
        (ex, .operation users .truncate)]
    let update : Statement :=
      ⟨.update, "UPDATE users SET name = ? WHERE id = ?", [.text "Ana", .int 7]⟩
    let truncate : Statement := ⟨.truncate, "TRUNCATE TABLE users", []⟩
    runCalls (calls.map fun call => (call.1.logged, call.2)) ([], []) =
        (runCalls calls [], [(.execute, update), (.execute, truncate)]) ∧
      (∃ call ∈ calls, Safe call.2.table update) ∧ ∃ call ∈ calls, call.2.Truncates := by
  intro ex users calls update truncate
  obtain ⟨sent, hrun, hsent⟩ := runCalls_safe calls [] []
  have hlog : (runCalls (calls.map fun call => (call.1.logged, call.2)) ([], [])).2 =
      [(.execute, update), (.execute, truncate)] := by decide
  rw [hrun] at hlog
  obtain rfl : sent = [(.execute, update), (.execute, truncate)] := hlog
  obtain ⟨call, hcall, hsafe, -⟩ := hsent _ List.mem_cons_self
  obtain ⟨other, hother, -, hkind⟩ := hsent _ (List.mem_cons_of_mem _ List.mem_cons_self)
  exact ⟨hrun, ⟨call, hcall, hsafe⟩, other, hother, hkind rfl⟩

end TableGateway
