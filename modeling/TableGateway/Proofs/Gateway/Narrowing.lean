import TableGateway.Gateway.DryRun
import TableGateway.Proofs.Gateway.Assignment
import TableGateway.Proofs.Query.Narrowing

/-! # Surveys on executors

What a condition that may be left out does to a survey, it does to what is sent for it: a blank one
is as good as none (`Survey.run_of_blank`), and any other is sent with its values
(`Survey.run_logged_cases`).  A model that is asked for all rows, or for those that meet a
condition, decides the same once more (`Model.run_findAll_of_blank`).  `Survey.narrowed_logged` puts
these together. -/

namespace TableGateway

open Text Table

variable {σ : Type} (ex : Executor σ) {condition : Option Condition}

namespace Survey

variable {n : Survey} {table : String}

/-- The survey as a request. -/
def request : Survey → Option Condition → Request
  | count => .count
  | fields list => .selectFields list

/-- The way a survey is sent. -/
def via : Survey → Via
  | count => .fetchScalar
  | fields _ => .fetchAll

theorem query_request (n : Survey) (condition : Option Condition) :
    (n.request condition).query = n.query condition := by
  cases n with
  | count => rfl
  | fields list => rfl

theorem via_request (n : Survey) (condition : Option Condition) :
    (n.request condition).via = n.via := by
  cases n with
  | count => rfl
  | fields list => rfl

/-- A survey with a blank condition is run as the one without. -/
theorem run_of_blank (h : ∀ c ∈ condition, Blank c.sql) (s : σ) :
    (n.request condition).run ex table s = (n.request none).run ex table s := by
  have hcompile : (n.request condition).query.compile (some table) =
      (n.request none).query.compile (some table) := by
    rw [query_request, query_request, compile_of_blank h]
  cases hnone : (n.request none).query.compile (some table) with
  | error r =>
      rw [Request.run_of_error ex hnone, Request.run_of_error ex (hcompile.trans hnone)]
  | ok statement =>
      rw [Request.run_of_ok ex hnone, Request.run_of_ok ex (hcompile.trans hnone)]
      cases n with
      | count => rfl
      | fields list => rfl

/-- A survey is refused, whatever its condition, or sends the statement that it is compiled to. -/
theorem run_logged_cases (n : Survey) (table : String) (condition : Option Condition) (s : σ)
    (log : Log) :
    (∃ r, Query.Refused (some table) (n.query none) r ∧
      (n.query condition).compile (some table) = .error r ∧
      (n.request condition).run ex.logged table (s, log) = (.error (.rejected r), s, log)) ∨
    (n.query condition).compile (some table) = .ok ((n.query condition).statement table) ∧
      (n.request condition).run ex.logged table (s, log) =
        (((n.request condition).run ex table s).1, ((n.request condition).run ex table s).2,
          log ++ [(n.via, (n.query condition).statement table)]) := by
  rcases compile_cases table n with ⟨r, hr, hrefused⟩ | hok
  · have h := hrefused condition
    refine .inl ⟨r, hr, h, ?_⟩
    rw [← query_request] at h
    rw [Request.run_of_error _ h]
  · have h := hok condition
    refine .inr ⟨h, ?_⟩
    rw [← query_request] at h
    rw [Request.run_logged, Request.sent_of_ok h, via_request, query_request]

end Survey

namespace Model

variable (m : Model)

theorem run_findAll_of_blank (h : ∀ c ∈ condition, Blank c.sql) (s : σ) :
    (Operation.findAll condition).run ex m s = Operation.all.run ex m s := by
  have hrequest : (Operation.findAll condition).request m = .select
      ((Query.effective condition).getD always) := rfl
  rw [Query.effective_of_blank h] at hrequest
  rw [Operation.run_eq, Operation.run_eq, hrequest]
  rfl

theorem run_findAll_of_not_blank {c : Condition} (h : ¬Blank c.sql) (s : σ) :
    (Operation.findAll (some c)).run ex m s = (Operation.filter c).run ex m s := by
  have hrequest : (Operation.findAll (some c)).request m = .select
      ((Query.effective (some c)).getD always) := rfl
  rw [Query.effective_of_not_blank h] at hrequest
  rw [Operation.run_eq, Operation.run_eq, hrequest]
  rfl

end Model

/-- **Conditions that may be left out.**  Whether there is a WHERE in the text and whether the
values of the condition are in the statement are one question, for any text and on any executor:
both are there for a condition that is not blank, and neither for one that is missing or blank.  A
model asked for all rows, or for those that meet a condition, sends what it sends for all rows or
for a filter, and divides the cases likewise. -/
theorem Survey.narrowed_logged (n : Survey) (table : String) (condition : Option Condition)
    (m : Model) (s : σ) (log : Log) :
    (∀ text, n.Narrows table (n.sql table text) ↔ ∃ t ∈ text, ¬Blank t) ∧
    (∀ c : Condition, n.Narrows table (n.sql table (some c.sql)) ↔ c.isBlank = false) ∧
    ((∃ r, Query.Refused (some table) (n.query none) r ∧
        (n.query condition).compile (some table) = .error r ∧
        (n.request condition).run ex.logged table (s, log) = (.error (.rejected r), s, log)) ∨
      ∃ statement outcome t, (n.query condition).compile (some table) = .ok statement ∧
        n.Narrowed table condition statement ∧
        statement.sql = n.sql table (condition.map Condition.sql) ∧
        (n.Narrows table statement.sql ↔ Stands condition) ∧
        (∀ c ∈ condition, c.bindings ≠ [] →
          (statement.bindings = c.bindings ↔ Stands condition)) ∧
        (n.request condition).run ex.logged table (s, log) =
          (outcome, t, log ++ [(n.via, statement)])) ∧
    (¬Stands condition →
      (n.query condition).compile (some table) = (n.query none).compile (some table) ∧
      (n.request condition).run ex.logged table (s, log) =
        (n.request none).run ex.logged table (s, log) ∧
      (Model.Operation.findAll condition).run ex.logged m (s, log) =
        Model.Operation.all.run ex.logged m (s, log)) ∧
    ∀ c ∈ condition, ¬Blank c.sql →
      (Model.Operation.findAll condition).run ex.logged m (s, log) =
        (Model.Operation.filter c).run ex.logged m (s, log) := by
  refine ⟨fun text => narrows_sql_iff, fun c => ?_, ?_, fun h => ?_, ?_⟩
  · rw [narrows_sql_iff]
    simp [blank_iff, Condition.isBlank]
  · rcases run_logged_cases ex n table condition s log with hrefused | ⟨hcompile, hrun⟩
    · exact .inl hrefused
    · have hnarrowed : n.Narrowed table condition ((n.query condition).statement table) :=
        narrowed_statement condition
      refine .inr ⟨_, _, _, hcompile, hnarrowed, sql_statement condition,
        narrows_iff_of_narrowed hnarrowed, ?_, hrun⟩
      rintro c rfl hc
      exact bindings_iff_of_narrowed hnarrowed hc
  · have hblank := not_stands_iff.mp h
    exact ⟨compile_of_blank hblank, run_of_blank _ hblank _, m.run_findAll_of_blank _ hblank _⟩
  · rintro c rfl hc
    exact m.run_findAll_of_not_blank _ hc _

/-- Spaces that are not those of ASCII are blank too, so the value is not sent; and a condition that
is sent with its value. -/
theorem Survey.narrowed_logged_wide_spaces :
    let blank : Condition := ⟨"\u2003\u00a0", [.int 7]⟩
    let adult : Condition := ⟨"age > ?", [.int 18]⟩
    let ex := Executor.dryRun { scalar := 3 }
    let m : Model := { table := "users" }
    ¬Stands (some blank) ∧
      (count.request (some blank)).run ex.logged "users" ([], []) =
        (count.request none).run ex.logged "users" ([], []) ∧
      (Model.Operation.findAll (some blank)).run ex.logged m ([], []) =
        Model.Operation.all.run ex.logged m ([], []) ∧
      ¬Blank adult.sql ∧ adult.bindings ≠ [] ∧
      (∃ outcome t, (count.request (some adult)).run ex.logged "users" ([], []) =
        (outcome, t, [(.fetchScalar,
          ⟨.count, "SELECT COUNT(*) FROM users WHERE age > ?", [.int 18]⟩)])) ∧
      (Model.Operation.findAll (some adult)).run ex.logged m ([], []) =
        (Model.Operation.filter adult).run ex.logged m ([], []) := by
  intro blank adult ex m
  have hblank : ¬Stands (some blank) := by
    rw [not_stands_iff]
    rintro c ⟨⟩
    decide
  have hadult : ¬Blank adult.sql := by decide
  obtain ⟨-, -, -, hnone, -⟩ := narrowed_logged ex count "users" (some blank) m [] []
  obtain ⟨-, -, hsent, -, hfilter⟩ := narrowed_logged ex count "users" (some adult) m [] []
  refine ⟨hblank, (hnone hblank).2.1, (hnone hblank).2.2, hadult, List.cons_ne_nil _ _, ?_,
    hfilter adult rfl hadult⟩
  have hcompile : (count.query (some adult)).compile (some "users") =
      .ok ⟨.count, "SELECT COUNT(*) FROM users WHERE age > ?", [.int 18]⟩ := by decide +kernel
  obtain ⟨r, -, hrefused, -⟩ | ⟨statement, outcome, t, hok, -, -, -, -, hrun⟩ := hsent
  · rw [hcompile] at hrefused
    cases hrefused
  · rw [hcompile] at hok
    cases hok
    exact ⟨outcome, t, hrun⟩

end TableGateway
