import TableGateway.Proofs.Gateway.Assignment
import TableGateway.Proofs.Query.Refusal

/-! # Saving

A save makes a new row of attributes without a key, and changes the row whose key is among them.
`Changes` lists what can come of changing a row, whatever the executor: the checks of an update in
their order, and then one statement, for which the executor answers.  `save_logged` says that this
is what a save with a key comes to, that a save without one is an insert, and that the place of the
key among the attributes makes no difference. -/

namespace TableGateway.Model

open Text Table Assignment

variable {σ : Type} (ex : Executor σ) (m : Model)

/-! ### Changing a row -/

/-- What can come of writing entries to the row with a key: the number of rows changed or why there
is none, the state behind it and what was sent. -/
inductive Changes (entries : List Entry) (id : Value) (s : σ) :
    Except Failure UInt64 → σ → Log → Prop
  | unnamed : Blank m.table → Changes entries id s (.error (.rejected .tableNotSet)) s []
  | nothing :
      ¬Blank m.table → entries = [] →
      Changes entries id s (.error (.rejected (.emptyFields .update))) s []
  | blankColumn {e : Entry} :
      ¬Blank m.table → e ∈ entries → Blank e.1 →
      Changes entries id s (.error (.rejected .invalidField)) s []
  | sent {reply : Except Failure Receipt} {t : σ} :
      ¬Blank m.table → entries ≠ [] → (∀ e ∈ entries, ¬Blank e.1) →
      ex.send .execute (m.writeStatement entries (some id)) s = (reply, t) →
      Changes entries id s (reply.map Receipt.rowsAffected) t
        [(.execute, m.writeStatement entries (some id))]

theorem not_blank_byKey (id : Value) : ¬Blank (m.byKey id).sql := by
  have hsql : (m.byKey id).sql = m.primaryKey ++ " = ?" := rfl
  rw [blank_iff, hsql, isBlank_append]
  have hmark : isBlank " = ?" = false := by decide
  rw [hmark, Bool.and_false]
  exact Bool.false_ne_true

theorem changes_run (fields : Record) (id : Value) (s : σ) :
    ∃ outcome t, Changes ex m fields.entries id s outcome t
        ((Request.update fields (m.byKey id)).sent m.table) ∧
      (Request.update fields (m.byKey id)).run ex m.table s = (outcome.map .tally, t) := by
  cases h : (Request.update fields (m.byKey id)).query.compile (some m.table) with
  | error rejection =>
      rw [Request.run_of_error ex h, Request.sent_of_error h]
      refine ⟨.error (.rejected rejection), s, ?_, rfl⟩
      cases Query.compile_eq_error_iff.mp h with
      | blankTable _ htable => exact .unnamed htable
      | fault htable hfault =>
          cases hfault with
          | condition _ hc hblank =>
              -- The condition on the key is not blank even where the key's name is.
              cases hc
              exact absurd hblank (m.not_blank_byKey id)
          | fields hfield =>
              cases hfield with
              | updateNothing hnil => exact .nothing htable hnil
              | updateBlank hcolumn hblank =>
                  obtain ⟨e, he, rfl⟩ := List.mem_map.mp hcolumn
                  exact .blankColumn htable he hblank
  | ok statement =>
      have hrun : (Request.update fields (m.byKey id)).run ex m.table s =
          ((ex.send .execute statement s).1.map fun receipt => .tally receipt.rowsAffected,
            (ex.send .execute statement s).2) := Request.run_of_ok ex h s
      obtain ⟨htable, hcheck, hstatement⟩ := Query.compile_eq_ok_iff.mp h
      obtain ⟨hne, hcolumns⟩ :=
        Check.updateFields_eq_ok_iff.mp (Query.check_update_eq_ok_iff.mp hcheck).1
      obtain rfl : m.writeStatement fields.entries (some id) = statement := hstatement
      rw [hrun, Request.sent_of_ok h]
      rcases hsend : ex.send .execute (m.writeStatement fields.entries (some id)) s with ⟨reply, t⟩
      have hnamed : ¬Blank m.table := by simp [blank_iff, htable]
      refine ⟨reply.map Receipt.rowsAffected, t, ?_, ?_⟩
      · exact .sent hnamed hne (fun e he => hcolumns e.1 (List.mem_map_of_mem he)) hsend
      · cases reply with
        | error failure => rfl
        | ok receipt => rfl

/-- An insert that asks for the identifier answers with it, or fails. -/
theorem exists_run_insertGetId (table : String) (fields : Record) (s : σ) :
    ∃ (outcome : Except Failure UInt64) (t : σ),
      (Request.insertGetId fields).run ex table s = (outcome.map .tally, t) := by
  cases h : (Request.insertGetId fields).query.compile (some table) with
  | error rejection => exact ⟨.error (.rejected rejection), s, Request.run_of_error ex h s⟩
  | ok statement =>
      have hrun : (Request.insertGetId fields).run ex table s =
          ((ex.send .execute statement s).1.map fun receipt => .tally receipt.lastInsertId,
            (ex.send .execute statement s).2) := Request.run_of_ok ex h s
      rw [hrun]
      cases (ex.send .execute statement s).1 with
      | error failure => exact ⟨.error failure, _, rfl⟩
      | ok receipt => exact ⟨.ok receipt.lastInsertId, _, rfl⟩

/-! ### Saving attributes -/

section save
variable {ex m} {a : Record}

theorem mem_written_save {e : Entry} :
    e ∈ save.written m a ↔ e ∈ a.entries ∧ e.1 ∈ m.fillable ∧ e.1 ≠ m.primaryKey := by
  rw [written, List.mem_filter, writable_iff]
  simp

theorem get?_eq_none_of_not_mem (h : m.primaryKey ∉ a.columns) : a.get? m.primaryKey = none := by
  rw [← Option.not_isSome_iff_eq_none, Record.get?_isSome]
  exact h

/-- An operation whose request answers a number reads that number. -/
theorem run_of_tally {o : Operation} {s t : σ} {outcome : Except Failure UInt64}
    (h : (o.request m).run ex m.table s = (outcome.map .tally, t)) :
    o.run ex m s = (outcome.map fun n => o.answer m (.tally n), t) := by
  rw [Operation.run_eq, h]
  cases outcome with
  | error failure => rfl
  | ok n => rfl

/-- Without a key a save asks for what inserting the attributes does. -/
theorem request_save_of_not_mem (h : m.primaryKey ∉ a.columns) :
    (Operation.save a).request m = (Operation.createGetId a).request m := by
  have hrequest := request_save_of_keyless (get?_eq_none_of_not_mem h)
  rwa [Record.erase_of_not_mem h] at hrequest

theorem answer_save_of_not_mem (h : m.primaryKey ∉ a.columns) (n : UInt64) :
    (Operation.save a).answer m (.tally n) = .saved (.created n) := by
  have hcontains : ¬a.contains m.primaryKey = true := Record.contains_iff.not.mpr h
  rw [Operation.answer, if_neg hcontains]

theorem answer_save_of_key {id : Value} (h : a.get? m.primaryKey = some id) (n : UInt64) :
    (Operation.save a).answer m (.tally n) = .saved (.updated n) := by
  have hcontains : a.contains m.primaryKey = true := by
    rw [Record.contains_eq_isSome, h, Option.isSome_some]
  rw [Operation.answer, if_pos hcontains]

theorem sent_save_of_not_mem (ex : Executor σ) (h : m.primaryKey ∉ a.columns) (s : σ) :
    ((Operation.save a).request m).sent m.table = [] ∨
      ((Operation.save a).request m).sent m.table =
        [(.execute, m.writeStatement (save.written m a) none)] := by
  have htarget : save.target m a = none := get?_eq_none_of_not_mem h
  rw [← htarget, ← statement_query_request, ← via_request (m := m) (w := save) a]
  exact (Operation.sent_cases ex m (.save a) s).imp_left And.left

end save

/-- **Saving on an executor that may fail.**  Without a key among the attributes, a save does what
inserting them does and answers with the identifier of the new row.  With a key it changes the row,
writing to it the fillable attributes apart from the key in their order, and answers with the number
of rows changed.  The key is never written, and its place among the attributes makes no
difference. -/
theorem save_logged (a : Record) (s : σ) (log : Log) :
    (m.primaryKey ∉ a.columns → ∃ (outcome : Except Failure UInt64) (t : σ) (sent : Log),
      (Operation.createGetId a).run ex.logged m (s, log) = (outcome.map .tally, t, log ++ sent) ∧
      (Operation.save a).run ex.logged m (s, log) =
        (outcome.map fun id => .saved (.created id), t, log ++ sent) ∧
      (sent = [] ∨ sent = [(.execute, m.writeStatement (save.written m a) none)])) ∧
    (∀ id, a.get? m.primaryKey = some id → ∃ outcome t sent,
      Changes ex m (save.written m a) id s outcome t sent ∧
      (Operation.save a).run ex.logged m (s, log) =
        (outcome.map fun rows => .saved (.updated rows), t, log ++ sent)) ∧
    (save.written m a).Sublist a.entries ∧
    (∀ e, e ∈ save.written m a ↔ e ∈ a.entries ∧ e.1 ∈ m.fillable ∧ e.1 ≠ m.primaryKey) ∧
    ∀ b, b.get? m.primaryKey = a.get? m.primaryKey →
      b.erase m.primaryKey = a.erase m.primaryKey →
      (Operation.save b).run ex.logged m (s, log) =
        (Operation.save a).run ex.logged m (s, log) := by
  refine ⟨?_, ?_, List.filter_sublist, fun e => mem_written_save, ?_⟩
  · intro h
    obtain ⟨outcome, t, hcreate⟩ := exists_run_insertGetId ex m.table (m.fill a) s
    have hrequest := request_save_of_not_mem h
    have hsave : ((Operation.save a).request m).run ex m.table s = (outcome.map .tally, t) := by
      rw [hrequest]
      exact hcreate
    refine ⟨outcome, t, ((Operation.save a).request m).sent m.table, ?_, ?_,
      sent_save_of_not_mem ex h s⟩
    · have hrun := run_of_tally (o := .createGetId a) hcreate
      rw [Operation.run_logged, hrun, hrequest]
      rfl
    · rw [Operation.run_logged, run_of_tally hsave]
      simp only [answer_save_of_not_mem h]
  · intro id h
    obtain ⟨outcome, t, hchanges, hrun⟩ := changes_run ex m (m.fill (a.erase m.primaryKey)) id s
    have hrequest : (Operation.save a).request m =
        .update (m.fill (a.erase m.primaryKey)) (m.byKey id) := request_save_of_key h
    rw [← hrequest] at hchanges hrun
    rw [fill_erase_key] at hchanges
    refine ⟨outcome, t, _, hchanges, ?_⟩
    rw [Operation.run_logged, run_of_tally hrun]
    simp only [answer_save_of_key h]
  · intro b hget herase
    have hagree : save.Agree m b a := ⟨by rw [← fill_erase, ← fill_erase, herase], hget⟩
    have hrequest : (Operation.save b).request m = (Operation.save a).request m :=
      request_eq_of_agree hagree
    have hanswer : (Operation.save b).answer m = (Operation.save a).answer m :=
      answer_eq_of_agree hagree
    rw [Operation.run_eq, Operation.run_eq, hrequest, hanswer]

/-- A row whose key is fillable, with the key first or in between, and one without a key. -/
theorem save_logged_fillable_key :
    let m : Model := { table := "users", fillable := ["name", "id", "mail"], key := some "id" }
    let a : Record := .ofList [("name", .text "Ana"), ("id", .int 7), ("mail", .null)]
    let b : Record := .ofList [("id", .int 7), ("name", .text "Ana"), ("mail", .null)]
    let new : Record := .ofList [("name", .text "Rui"), ("admin", .bool true)]
    let ex := Executor.dryRun { receipt := { rowsAffected := 1, lastInsertId := 8 } }
    a.get? m.primaryKey = some (.int 7) ∧
      (∃ t, (Operation.save a).run ex.logged m ([], []) = (.ok (.saved (.updated 1)), t,
        [(.execute, ⟨.update, "UPDATE users SET name = ?, mail = ? WHERE id = ?",
          [.text "Ana", .null, .int 7]⟩)])) ∧
      (b.get? m.primaryKey = a.get? m.primaryKey ∧
        b.erase m.primaryKey = a.erase m.primaryKey) ∧
      (Operation.save b).run ex.logged m ([], []) = (Operation.save a).run ex.logged m ([], []) ∧
      m.primaryKey ∉ new.columns ∧
      ∃ t sent, (Operation.createGetId new).run ex.logged m ([], []) = (.ok (.tally 8), t, sent) ∧
        (Operation.save new).run ex.logged m ([], []) = (.ok (.saved (.created 8)), t, sent) := by
  intro m a b new ex
  have hkey : a.get? m.primaryKey = some (.int 7) := by decide
  have hmoved : b.get? m.primaryKey = a.get? m.primaryKey ∧
      b.erase m.primaryKey = a.erase m.primaryKey := by decide
  have hnew : m.primaryKey ∉ new.columns := by decide
  obtain ⟨-, hchange, -, -, hplace⟩ := save_logged ex m a [] []
  obtain ⟨hcreate, -⟩ := save_logged ex m new [] []
  refine ⟨hkey, ?_, hmoved, hplace b hmoved.1 hmoved.2, hnew, ?_⟩
  · have hcolumns : ∀ e ∈ save.written m a, ¬Blank e.1 := by decide
    have hstatement : m.writeStatement (save.written m a) (some (.int 7)) =
        ⟨.update, "UPDATE users SET name = ?, mail = ? WHERE id = ?",
          [.text "Ana", .null, .int 7]⟩ := by rfl
    obtain ⟨outcome, t, sent, hchanges, hrun⟩ := hchange (.int 7) hkey
    cases hchanges with
    | unnamed hblank => exact absurd hblank (by decide)
    | nothing _ hnil => exact absurd hnil (by decide)
    | blankColumn _ he hblank => exact absurd hblank (hcolumns _ he)
    | sent _ _ _ hsend =>
        obtain rfl := congrArg Prod.fst hsend
        rw [hstatement] at hrun
        exact ⟨t, hrun⟩
  · obtain ⟨outcome, t, sent, hinsert, hsave, -⟩ := hcreate hnew
    have hrequest : (Operation.createGetId new).request m =
        .insertGetId (.ofList [("name", .text "Rui")]) := by rfl
    have hcompile : (Query.insert (.ofList [("name", .text "Rui")])).compile (some "users") =
        .ok ⟨.insert, "INSERT INTO users (name) VALUES (?)", [.text "Rui"]⟩ := by rfl
    have hanswer : ((Operation.createGetId new).run ex m []).1 = .ok (.tally 8) := by
      rw [Operation.run_eq, hrequest, Request.run_of_ok ex hcompile]
      rfl
    have hid : outcome.map Answer.tally = .ok (.tally 8) := by
      rw [Operation.run_logged, hanswer] at hinsert
      exact (congrArg Prod.fst hinsert).symm
    cases outcome with
    | error failure => cases hid
    | ok n =>
        obtain rfl : n = 8 := by cases hid; rfl
        exact ⟨t, _, hinsert, hsave⟩

/-- A save with nothing to write need not be refused for that: a blank table comes first. -/
theorem not_forall_save_emptyFields :
    ¬∀ (m : Model) (a : Record) (id : Value) (script : Script),
      a.get? m.primaryKey = some id → save.written m a = [] →
      ((Operation.save a).run (Executor.dryRun script) m []).1 =
        .error (.rejected (.emptyFields .update)) := by
  intro h
  let m : Model := { table := "", fillable := ["a"] }
  let a : Record := .ofList [("_id", .int 1)]
  have hkey : a.get? m.primaryKey = some (.int 1) := by decide +kernel
  have hnothing : save.written m a = [] := by decide +kernel
  have hrequest : (Operation.save a).request m = .update (.ofList []) (m.byKey (.int 1)) := by
    decide +kernel
  have hrefused : (Query.update (.ofList []) (m.byKey (.int 1))).compile (some m.table) =
      .error .tableNotSet := rfl
  have hfails := h m a (.int 1) {} hkey hnothing
  rw [Operation.run_eq, hrequest, Request.run_of_error _ hrefused] at hfails
  cases hfails

end TableGateway.Model
