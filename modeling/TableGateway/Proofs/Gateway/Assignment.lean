import TableGateway.Gateway.DryRun
import TableGateway.Gateway.Model
import TableGateway.Proofs.Gateway.Log
import TableGateway.Proofs.Query.Accepted
import TableGateway.Record.Lemmas

/-! # Attributes that are written

Four operations of a model write attributes (`Assignment`), and none of them writes a column that is
not fillable.  `Assignment.written` are the entries that do get written, and `writeStatement` is the
statement that writes them, as a new row or to the row with a key.

`Assignment.Agree` says when two records look the same to an operation.  `assign_logged` says that
the operation then does the same on both, on any executor, and that it sends at most the one
statement that writes what may be written. -/

namespace TableGateway.Model

/-- An operation that writes attributes. -/
inductive Assignment where
  | create
  | createGetId
  | update (id : Value)
  | save
  deriving DecidableEq

/-- The statement that writes entries, to the row with a key or, without one, as a new row. -/
def writeStatement (m : Model) (entries : List Entry) : Option Value → Statement
  | none =>
    ⟨.insert,
      "INSERT INTO " ++ m.table ++ " (" ++ Sql.commaList (entries.map Prod.fst) ++ ") VALUES (" ++
        Sql.commaList ((entries.map Prod.fst).map fun _ => "?") ++ ")",
      entries.map Prod.snd⟩
  | some id =>
    ⟨.update,
      "UPDATE " ++ m.table ++ " SET " ++
        Sql.commaList ((entries.map Prod.fst).map fun column => column ++ " = " ++ "?") ++
        " WHERE " ++ (m.primaryKey ++ " = ?"),
      entries.map Prod.snd ++ [id]⟩

/-- A save answers by whether there is a key, not by the key. -/
theorem Operation.answer_save_eq {m : Model} {a b : Record}
    (h : a.contains m.primaryKey = b.contains m.primaryKey) :
    (Operation.save a).answer m = (Operation.save b).answer m := by
  funext given
  cases given with
  | tally n =>
      exact congrArg (fun found : Bool =>
        Table.Answer.saved (if found then .updated n else .created n)) h
  | scalar | flag | row | rows | saved | done => rfl

namespace Assignment

variable (m : Model) (w : Assignment)

/-- The operation on given attributes. -/
def operation : Assignment → Record → Operation
  | create, attributes => .create attributes
  | createGetId, attributes => .createGetId attributes
  | update id, attributes => .update attributes id
  | save, attributes => .save attributes

/-- Whether the operation may write a column.  A save takes the key out first. -/
def writable : Assignment → String → Bool
  | save, column => m.fillable.contains column && column != m.primaryKey
  | create, column | createGetId, column | update _, column => m.fillable.contains column

/-- The entries that are written. -/
def written (attributes : Record) : List Entry :=
  attributes.entries.filter fun e => w.writable m e.1

/-- The key of the row that is written to, if it is not a new one. -/
def target : Assignment → Record → Option Value
  | create, _ | createGetId, _ => none
  | update id, _ => some id
  | save, attributes => attributes.get? m.primaryKey

/-- The records are the same as far as they are fillable; for a save, apart from the key, which must
be absent from both or have the same value in both. -/
def Agree : Assignment → Record → Record → Prop
  | save, a, b =>
    (a.retain m.fillable).erase m.primaryKey = (b.retain m.fillable).erase m.primaryKey ∧
      a.get? m.primaryKey = b.get? m.primaryKey
  | create, a, b | createGetId, a, b | update _, a, b => a.retain m.fillable = b.retain m.fillable

instance : (w : Assignment) → (a b : Record) → Decidable (w.Agree m a b)
  | save, _, _ => inferInstanceAs (Decidable (_ ∧ _))
  | create, _, _ | createGetId, _, _ | update _, _, _ => inferInstanceAs (Decidable (_ = _))

variable {m w} {a b : Record}

theorem writable_iff {column : String} :
    w.writable m column = true ↔ column ∈ m.fillable ∧ (w = save → column ≠ m.primaryKey) := by
  cases w with
  | create | createGetId | update id => simp [writable]
  | save => simp [writable]

/-! ### Requests -/

theorem fill_erase (a : Record) (column : String) :
    m.fill (a.erase column) = (a.retain m.fillable).erase column := by
  unfold fill Record.retain Record.erase
  rw [Record.filter_filter, Record.filter_filter]
  simp only [Bool.and_comm]

theorem request_save_of_key {id : Value} (h : a.get? m.primaryKey = some id) :
    (save.operation a).request m =
      .update (m.fill (a.erase m.primaryKey)) (m.byKey id) := by
  simp only [operation, Operation.request, Record.take, h]

theorem request_save_of_keyless (h : a.get? m.primaryKey = none) :
    (save.operation a).request m = .insertGetId (m.fill (a.erase m.primaryKey)) := by
  simp only [operation, Operation.request, Record.take, h]

/-- A save writes what is fillable once the key is taken out. -/
theorem fill_erase_key (a : Record) :
    m.fill (a.erase m.primaryKey) = a.filter (save.writable m) := by
  rw [fill_erase]
  unfold Record.retain Record.erase writable
  rw [Record.filter_filter]
  simp only [Bool.and_comm]

/-- What the operation asks of the table is a matter of the entries written and of the key. -/
theorem query_request (a : Record) :
    ((w.operation a).request m).query =
      match w.target m a with
      | none => .insert (a.filter (w.writable m))
      | some id => .update (a.filter (w.writable m)) (m.byKey id) := by
  cases w with
  | create | createGetId | update id => rfl
  | save =>
      have htarget : save.target m a = a.get? m.primaryKey := rfl
      rw [htarget]
      cases h : a.get? m.primaryKey with
      | none =>
          rw [request_save_of_keyless h, fill_erase_key]
          rfl
      | some id =>
          rw [request_save_of_key h, fill_erase_key]
          rfl

theorem via_request (a : Record) : ((w.operation a).request m).via = .execute := by
  cases w with
  | create | createGetId | update id => rfl
  | save =>
      cases h : a.get? m.primaryKey with
      | none =>
          rw [request_save_of_keyless h]
          rfl
      | some id =>
          rw [request_save_of_key h]
          rfl

theorem statement_query_request (a : Record) :
    ((w.operation a).request m).query.statement m.table =
      m.writeStatement (w.written m a) (w.target m a) := by
  rw [query_request]
  cases w.target m a with
  | none => rfl
  | some id => rfl

/-! ### Two runs -/

theorem request_eq_of_agree (h : w.Agree m a b) :
    (w.operation a).request m = (w.operation b).request m := by
  cases w with
  | create => exact congrArg Table.Request.insert h
  | createGetId => exact congrArg Table.Request.insertGetId h
  | update id => exact congrArg (Table.Request.update · (m.byKey id)) h
  | save =>
      obtain ⟨hfields, hkey⟩ := h
      rw [← fill_erase, ← fill_erase] at hfields
      cases hb : b.get? m.primaryKey with
      | none =>
          rw [request_save_of_keyless (hkey.trans hb), request_save_of_keyless hb, hfields]
      | some id => rw [request_save_of_key (hkey.trans hb), request_save_of_key hb, hfields]

theorem answer_eq_of_agree (h : w.Agree m a b) :
    (w.operation a).answer m = (w.operation b).answer m := by
  cases w with
  | create | createGetId | update id => rfl
  | save =>
      refine Operation.answer_save_eq ?_
      rw [Record.contains_eq_isSome, Record.contains_eq_isSome, h.2]

/-- An attribute that cannot be written, and is not the key of a save, may have any value. -/
theorem agree_insert {column : String} (hfillable : column ∉ m.fillable)
    (hkey : w = save → column ≠ m.primaryKey) (a : Record) (value : Value) :
    w.Agree m (a.insert column value) a := by
  have hwrite : m.fillable.contains column = false := by simpa using hfillable
  have hretain : (a.insert column value).retain m.fillable = a.retain m.fillable :=
    Record.filter_insert hwrite a value
  cases w with
  | create | createGetId | update id => exact hretain
  | save =>
      refine ⟨by rw [hretain], ?_⟩
      rw [Record.get?_insert, if_neg (hkey rfl)]

end Assignment

/-! ### What is done and sent -/

namespace Operation

variable {σ : Type} (ex : Executor σ) (m : Model)

theorem run_eq (o : Operation) (s : σ) :
    o.run ex m s = (((o.request m).run ex m.table s).1.map (o.answer m),
      ((o.request m).run ex m.table s).2) := rfl

theorem run_logged (o : Operation) (s : σ) (log : Log) :
    o.run ex.logged m (s, log) =
      ((o.run ex m s).1, (o.run ex m s).2, log ++ (o.request m).sent m.table) := by
  rw [run_eq, run_eq, Table.Request.run_logged]

/-- An operation is refused and sends nothing, or it sends the statement of its query. -/
theorem sent_cases (o : Operation) (s : σ) :
    ((o.request m).sent m.table = [] ∧ (o.run ex m s).2 = s ∧
      ∃ rejection, (o.run ex m s).1 = .error (.rejected rejection)) ∨
    (o.request m).sent m.table =
      [((o.request m).via, (o.request m).query.statement m.table)] := by
  rw [run_eq]
  cases h : (o.request m).query.compile (some m.table) with
  | error rejection =>
      rw [Table.Request.run_of_error ex h]
      exact .inl ⟨Table.Request.sent_of_error h, rfl, rejection, rfl⟩
  | ok statement =>
      obtain ⟨-, -, rfl⟩ := Query.compile_eq_ok_iff.mp h
      exact .inr (Table.Request.sent_of_ok h)

end Operation

open Assignment

/-- **Attributes written on an executor that may fail.**  An operation does the same on records that
agree, so an attribute that is not fillable can be set to anything, unless it is the key of a save.
The operation is refused and sends nothing, or it sends one statement, which writes the fillable
attributes in their order, each with its value. -/
theorem assign_logged {σ : Type} (ex : Executor σ) (m : Model) (w : Assignment) (a : Record) (s : σ)
    (log : Log) :
    (∀ b, w.Agree m b a →
      (w.operation b).run ex.logged m (s, log) = (w.operation a).run ex.logged m (s, log)) ∧
    (∀ column value, column ∉ m.fillable → (w = save → column ≠ m.primaryKey) →
      (w.operation (a.insert column value)).run ex.logged m (s, log) =
        (w.operation a).run ex.logged m (s, log)) ∧
    (∃ outcome t sent,
      (w.operation a).run ex m s = (outcome, t) ∧
      (w.operation a).run ex.logged m (s, log) = (outcome, t, log ++ sent) ∧
      ((sent = [] ∧ t = s ∧ ∃ rejection, outcome = .error (.rejected rejection)) ∨
        sent = [(.execute, m.writeStatement (w.written m a) (w.target m a))])) ∧
    (w.written m a).Sublist a.entries ∧
    ∀ e ∈ w.written m a, e.1 ∈ m.fillable ∧ (w = save → e.1 ≠ m.primaryKey) := by
  have hsame : ∀ b, w.Agree m b a →
      (w.operation b).run ex.logged m (s, log) = (w.operation a).run ex.logged m (s, log) := by
    intro b h
    rw [Operation.run_eq, Operation.run_eq, request_eq_of_agree h, answer_eq_of_agree h]
  refine ⟨hsame, ?_, ?_, List.filter_sublist, ?_⟩
  · intro column value hfillable hkey
    exact hsame _ (agree_insert hfillable hkey a value)
  · refine ⟨_, _, _, rfl, Operation.run_logged ex m _ s log, ?_⟩
    rw [← statement_query_request, ← via_request (m := m) (w := w) a]
    exact Operation.sent_cases ex m (w.operation a) s
  · exact fun e he => writable_iff.mp (List.mem_filter.mp he).2

/-- A save of a row that is there.  The key is not written, and columns that are not fillable may
be named or valued as no written column may be. -/
theorem assign_logged_save :
    let m : Model := { table := "users", fillable := ["name", "id", "mail"], key := some "id" }
    let a : Record := .ofList
      [("", .int 1), ("name", .text "Ana"), ("id", .int 7), ("admin", .null), ("mail", .null)]
    let b : Record := .ofList [("id", .int 7), ("name", .text "Ana"), ("mail", .null)]
    let ex := Executor.dryRun { receipt := { rowsAffected := 1 } }
    save.Agree m b a ∧
      (save.operation b).run ex.logged m ([], []) = (save.operation a).run ex.logged m ([], []) ∧
      ("admin" ∉ m.fillable ∧ (save = save → "admin" ≠ m.primaryKey)) ∧
      (save.operation (a.insert "admin" (.int 1))).run ex.logged m ([], []) =
        (save.operation a).run ex.logged m ([], []) ∧
      (∃ t, (save.operation a).run ex.logged m ([], []) = (.ok (.saved (.updated 1)), t,
        [(.execute, ⟨.update, "UPDATE users SET name = ?, mail = ? WHERE id = ?",
          [.text "Ana", .null, .int 7]⟩)])) ∧
      ("mail", .null) ∈ save.written m a ∧ "mail" ∈ m.fillable ∧ "mail" ≠ m.primaryKey := by
  intro m a b ex
  have hagree : save.Agree m b a := by decide
  have hcolumn : "admin" ∉ m.fillable ∧ (save = save → "admin" ≠ m.primaryKey) := by decide
  have hmail : ("mail", .null) ∈ save.written m a := by decide
  have hrequest : (save.operation a).request m =
      .update (.ofList [("name", .text "Ana"), ("mail", .null)]) ⟨"id = ?", [.int 7]⟩ := by rfl
  have hcompile : (Query.update (.ofList [("name", .text "Ana"), ("mail", .null)])
      ⟨"id = ?", [.int 7]⟩).compile (some "users") =
      .ok ⟨.update, "UPDATE users SET name = ?, mail = ? WHERE id = ?",
        [.text "Ana", .null, .int 7]⟩ := by rfl
  have hanswer : ((save.operation a).run ex m []).1 = .ok (.saved (.updated 1)) := by
    rw [Operation.run_eq, hrequest, Table.Request.run_of_ok ex hcompile]
    rfl
  have hstatement : m.writeStatement (save.written m a) (save.target m a) =
      ⟨.update, "UPDATE users SET name = ?, mail = ? WHERE id = ?",
        [.text "Ana", .null, .int 7]⟩ := by rfl
  obtain ⟨hsame, hinsert, ⟨outcome, t, sent, hrun, hlogged, hsent⟩, -, hwritten⟩ :=
    assign_logged ex m save a [] []
  obtain rfl : .ok (.saved (.updated 1)) = outcome :=
    hanswer.symm.trans (congrArg Prod.fst hrun)
  obtain ⟨-, -, rejection, hrejected⟩ | rfl := hsent
  · cases hrejected
  · rw [hstatement] at hlogged
    obtain ⟨hfillable, hkey⟩ := hwritten _ hmail
    exact ⟨hagree, hsame b hagree, hcolumn, hinsert "admin" (.int 1) hcolumn.1 hcolumn.2,
      ⟨t, hlogged⟩, hmail, hfillable, hkey rfl⟩

end TableGateway.Model
