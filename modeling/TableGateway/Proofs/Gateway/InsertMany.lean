import Mathlib.Algebra.GroupWithZero.Nat
import TableGateway.Proofs.Gateway.Log
import TableGateway.Proofs.Traversal

/-! # Inserting several rows

Rows are inserted in two passes: all are compiled, and only then are the statements executed in
order.  `Serves` says that an executor answers statements with receipts; `serves_or_fails` splits
any statements at the first one that fails.  `Inserted` lists the three ways an insertion can end,
and `insertMany_logged` says that it ends in one of them, having sent what is listed. -/

namespace TableGateway

variable {σ : Type} (ex : Executor σ)

/-! ### Statements executed in order -/

/-- The number of rows in receipts. -/
def totalAffected (receipts : List Receipt) : Nat :=
  (receipts.map fun receipt => receipt.rowsAffected.toNat).sum

/-- The executor answers all the statements, in order, with the receipts. -/
inductive Serves : List Statement → List Receipt → σ → σ → Prop
  | nil (s : σ) : Serves [] [] s s
  | cons {statement : Statement} {receipt : Receipt} {rest : List Statement}
      {receipts : List Receipt} {s t u : σ} :
      ex.send .execute statement s = (.ok receipt, t) → Serves rest receipts t u →
      Serves (statement :: rest) (receipt :: receipts) s u

/-- The statements as they are logged. -/
def executed (statements : List Statement) : Log := statements.map fun s => (.execute, s)

variable {ex}

theorem Serves.logged {statements : List Statement} {receipts : List Receipt} {s t : σ}
    (h : Serves ex statements receipts s t) (log : Log) :
    Serves ex.logged statements receipts (s, log) (t, log ++ executed statements) := by
  induction h generalizing log with
  | nil s =>
      rw [executed, List.map_nil, List.append_nil]
      exact .nil _
  | @cons statement receipt rest receipts s t u hsend _ ih =>
      have hlogged : ex.logged.send .execute statement (s, log) =
          (.ok receipt, t, log ++ [(.execute, statement)]) := by
        rw [Executor.send_logged, hsend]
      rw [executed, List.map_cons, List.append_cons]
      exact .cons hlogged (ih _)

/-- Statements that are served are passed over, and their rows are counted. -/
theorem Serves.executeAll_append {before : List Statement} {receipts : List Receipt} {s t : σ}
    (h : Serves ex before receipts s t) (after : List Statement) (total : UInt64) :
    ex.executeAll (before ++ after) total s =
      ex.executeAll after (total + .ofNat (totalAffected receipts)) t := by
  induction h generalizing total with
  | nil s =>
      show _ = ex.executeAll after (total + 0) s
      rw [UInt64.add_zero]
      rfl
  | @cons statement receipt rest receipts s t u hsend _ ih =>
      have hstep : ex.executeAll (statement :: rest ++ after) total s =
          ex.executeAll (rest ++ after) (total + receipt.rowsAffected) t := by
        rw [List.cons_append, Executor.executeAll, hsend]
      have hsum : totalAffected (receipt :: receipts) =
          receipt.rowsAffected.toNat + totalAffected receipts := by
        rw [totalAffected, List.map_cons, List.sum_cons]
        rfl
      rw [hstep, ih, hsum, UInt64.ofNat_add, UInt64.ofNat_toNat, UInt64.add_assoc]

theorem Serves.executeAll {statements : List Statement} {receipts : List Receipt} {s t : σ}
    (h : Serves ex statements receipts s t) :
    ex.executeAll statements 0 s = (.ok (.ofNat (totalAffected receipts)), t) := by
  have happend := h.executeAll_append [] 0
  rw [List.append_nil, UInt64.zero_add] at happend
  exact happend

/-- Nothing is executed behind a statement that fails. -/
theorem Serves.executeAll_failed {before : List Statement} {receipts : List Receipt} {s t u : σ}
    (h : Serves ex before receipts s t) {statement : Statement} {failure : Failure}
    (hsend : ex.send .execute statement t = (.error failure, u)) (after : List Statement) :
    ex.executeAll (before ++ statement :: after) 0 s = (.error failure, u) := by
  rw [h.executeAll_append, Executor.executeAll, hsend]

variable (ex)

/-- Statements are all served, or those before one that fails are. -/
theorem serves_or_fails : ∀ (statements : List Statement) (s : σ),
    (∃ receipts t, Serves ex statements receipts s t) ∨
      ∃ before statement after receipts failure t u,
        statements = before ++ statement :: after ∧ Serves ex before receipts s t ∧
          ex.send .execute statement t = (.error failure, u)
  | [], s => .inl ⟨[], s, .nil s⟩
  | statement :: rest, s => by
      rcases hsend : ex.send .execute statement s with ⟨reply, t⟩
      cases reply with
      | error failure => exact .inr ⟨[], statement, rest, [], failure, s, t, rfl, .nil s, hsend⟩
      | ok receipt =>
          rcases serves_or_fails rest t with ⟨receipts, u, h⟩ | h
          · exact .inl ⟨receipt :: receipts, u, .cons hsend h⟩
          · obtain ⟨before, failing, after, receipts, failure, u, v, rfl, h, hfail⟩ := h
            exact .inr ⟨statement :: before, failing, after, receipt :: receipts, failure, u, v,
              rfl, .cons hsend h, hfail⟩

namespace Table

/-! ### Rows compiled -/

variable {table : String}

theorem insertStatements_cons (fields : Record) (rows : List Record) :
    insertStatements table (fields :: rows) = do
      let statement ← (Query.insert fields).compile (some table)
      let rest ← insertStatements table rows
      return statement :: rest := by
  unfold insertStatements
  exact List.mapM_cons

/-- There is one statement for each row, in order. -/
theorem map_of_insertStatements_ok {rows : List Record} {statements : List Statement}
    (h : insertStatements table rows = .ok statements) :
    rows.map (fun fields => (Query.insert fields).compile (some table)) = statements.map .ok :=
  mapM_eq_ok_iff.mp h

theorem exists_of_mem_statements {rows : List Record} {statements : List Statement}
    (h : rows.map (fun fields => (Query.insert fields).compile (some table)) = statements.map .ok)
    {statement : Statement} (hmem : statement ∈ statements) :
    ∃ fields ∈ rows, (Query.insert fields).compile (some table) = .ok statement := by
  have hcompiled : .ok statement ∈
      rows.map fun fields => (Query.insert fields).compile (some table) := by
    rw [h]
    exact List.mem_map_of_mem hmem
  exact List.mem_map.mp hcompiled

/-- The rejection is that of the first row that is rejected. -/
theorem first_of_insertStatements_error {rows : List Record} {rejection : Rejection}
    (h : insertStatements table rows = .error rejection) :
    ∃ before row after, rows = before ++ row :: after ∧
      (∀ fields ∈ before, ∃ s, (Query.insert fields).compile (some table) = .ok s) ∧
      (Query.insert row).compile (some table) = .error rejection :=
  mapM_eq_error_iff.mp h

/-! ### How an insertion ends -/

/-- How the insertion of rows can end: its outcome, the state behind it and the statements it
executed. -/
inductive Inserted (table : String) (rows : List Record) (s : σ) :
    Except Failure UInt64 → σ → List Statement → Prop
  /-- A row is rejected, and none before it is. -/
  | rejected {before after : List Record} {row : Record} {rejection : Rejection} :
      rows = before ++ row :: after →
      (∀ fields ∈ before, ∃ s, (Query.insert fields).compile (some table) = .ok s) →
      (Query.insert row).compile (some table) = .error rejection →
      Inserted table rows s (.error (.rejected rejection)) s []
  /-- A statement fails, and none before it does. -/
  | failed {before after : List Statement} {statement : Statement} {receipts : List Receipt}
      {failure : Failure} {t u : σ} :
      rows.map (fun fields => (Query.insert fields).compile (some table)) =
        (before ++ statement :: after).map .ok →
      Serves ex before receipts s t → ex.send .execute statement t = (.error failure, u) →
      Inserted table rows s (.error failure) u (before ++ [statement])
  /-- All statements are executed; the answer is exact up to the largest number there is. -/
  | done {statements : List Statement} {receipts : List Receipt} {n : UInt64} {t : σ} :
      rows.map (fun fields => (Query.insert fields).compile (some table)) = statements.map .ok →
      Serves ex statements receipts s t →
      (totalAffected receipts < 2 ^ 64 → n.toNat = totalAffected receipts) →
      Inserted table rows s (.ok n) t statements

variable {ex} in
/-- What is executed inserts rows. -/
theorem Inserted.exists_of_mem {rows : List Record} {s t : σ} {outcome : Except Failure UInt64}
    {statements : List Statement} (h : Inserted ex table rows s outcome t statements)
    {statement : Statement} (hmem : statement ∈ statements) :
    ∃ fields ∈ rows, (Query.insert fields).compile (some table) = .ok statement := by
  cases h with
  | rejected => cases hmem
  | @failed before after failing _ _ _ _ hmap =>
      have hsent : before ++ [failing] <+: before ++ failing :: after :=
        ⟨after, (List.append_cons before failing after).symm⟩
      exact exists_of_mem_statements hmap (hsent.subset hmem)
  | done hmap => exact exists_of_mem_statements hmap hmem

theorem insertMany_of_error {rows : List Record} {rejection : Rejection}
    (h : insertStatements table rows = .error rejection) (s : σ) :
    insertMany ex table rows s = (.error (.rejected rejection), s) := by
  unfold insertMany
  rw [h]

theorem insertMany_of_ok {rows : List Record} {statements : List Statement}
    (h : insertStatements table rows = .ok statements) (s : σ) :
    insertMany ex table rows s = ex.executeAll statements 0 s := by
  unfold insertMany
  rw [h]

/-- An insertion ends in one of the ways listed, and on the logged executor it does the same and
leaves what it executed. -/
theorem inserted_insertMany (table : String) (rows : List Record) (s : σ) (log : Log) :
    ∃ statements,
      Inserted ex table rows s (insertMany ex table rows s).1 (insertMany ex table rows s).2
        statements ∧
      insertMany ex.logged table rows (s, log) =
        ((insertMany ex table rows s).1, (insertMany ex table rows s).2,
          log ++ executed statements) := by
  cases hrows : insertStatements table rows with
  | error rejection =>
      obtain ⟨before, row, after, heq, hbefore, hrow⟩ := first_of_insertStatements_error hrows
      rw [insertMany_of_error ex hrows, insertMany_of_error ex.logged hrows]
      refine ⟨[], .rejected heq hbefore hrow, ?_⟩
      rw [executed, List.map_nil, List.append_nil]
  | ok statements =>
      have hmap := map_of_insertStatements_ok hrows
      rw [insertMany_of_ok ex hrows, insertMany_of_ok ex.logged hrows]
      rcases serves_or_fails ex statements s with ⟨receipts, t, h⟩ | hfails
      · rw [h.executeAll, (h.logged log).executeAll]
        exact ⟨statements, .done hmap h fun hlt => UInt64.toNat_ofNat_of_lt' hlt, rfl⟩
      · obtain ⟨before, statement, after, receipts, failure, t, u, rfl, h, hsend⟩ := hfails
        have hlogged : ex.logged.send .execute statement (t, log ++ executed before) =
            (.error failure, u, log ++ executed (before ++ [statement])) := by
          rw [Executor.send_logged, hsend, executed, executed, List.map_append, List.append_assoc]
          rfl
        rw [h.executeAll_failed hsend after, (h.logged log).executeAll_failed hlogged after]
        exact ⟨before ++ [statement], .failed hmap h hsend, rfl⟩

/-- **Rows inserted on an executor that may fail.**  Nothing is sent when any row is rejected.
Otherwise the statements of the rows are sent in order, up to the first that fails, and the rows
affected are added up when none does; without rows there is nothing to send or to add. -/
theorem insertMany_logged (table : String) (rows : List Record) (s : σ) (log : Log) :
    (∃ outcome t statements,
      insertMany ex table rows s = (outcome, t) ∧
      insertMany ex.logged table rows (s, log) = (outcome, t, log ++ executed statements) ∧
      Inserted ex table rows s outcome t statements) ∧
    insertMany ex.logged table [] (s, log) = (.ok 0, s, log) := by
  obtain ⟨statements, hinserted, hlogged⟩ := inserted_insertMany ex table rows s log
  exact ⟨⟨_, _, statements, rfl, hlogged, hinserted⟩, rfl⟩

end Table

end TableGateway
