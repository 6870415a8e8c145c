import TableGateway.Proofs.Query.Refusal

/-! # Conditions that may be left out

A `Survey` counts the rows of a table or lists some columns of them, of all rows or of those that
meet a condition.  Whether a condition counts is decided twice: where the text is written, so that
there is a WHERE (`Survey.sql`), and where the values are bound.  Both decisions are the same for
every text (`Survey.narrows_sql_iff`), hence a survey is `Narrowed` by its condition in text and
values alike, or in neither (`Survey.compile_cases`). -/

namespace TableGateway

open Text

/-! ### Conditions that stand -/

/-- The condition is there, and it is not blank. -/
def Stands (condition : Option Condition) : Prop := ∃ c ∈ condition, ¬Blank c.sql

theorem not_stands_iff {condition : Option Condition} :
    ¬Stands condition ↔ ∀ c ∈ condition, Blank c.sql := by
  simp [Stands]

namespace Query

theorem effective_of_blank {condition : Option Condition} (h : ∀ c ∈ condition, Blank c.sql) :
    effective condition = none := by
  cases condition with
  | none => rfl
  | some c => exact effective_of_isBlank (blank_iff.mp (h c rfl))

theorem effective_of_not_blank {c : Condition} (h : ¬Blank c.sql) :
    effective (some c) = some c :=
  effective_of_isBlank_eq_false (Bool.eq_false_iff.mpr (blank_iff.not.mp h))

/-- Queries that pass their checks alike come to a statement alike. -/
theorem compile_eq_of_check_eq {q p : Query} (h : q.check = p.check) (table : String) :
    q.compile (some table) = (p.compile (some table)).map fun _ => q.statement table := by
  unfold compile
  rw [h]
  by_cases hblank : isBlank table = true
  · have htable : Check.table (some table) = .error .tableNotSet := if_pos hblank
    rw [htable]
    rfl
  · have htable : Check.table (some table) = .ok table := if_neg hblank
    rw [htable]
    cases p.check with
    | error r => rfl
    | ok _ => rfl

end Query

/-! ### Surveys -/

/-- A question about a table that a condition may narrow down. -/
inductive Survey where
  | count
  | fields (list : String)
  deriving DecidableEq, Repr

namespace Survey

/-- The survey as a query. -/
def query : Survey → Option Condition → Query
  | count => .count
  | fields list => .selectFields list

/-- What the statement of a survey does. -/
def kind : Survey → StatementKind
  | count => .count
  | fields _ => .select

/-- The text of a survey, whose condition may be missing or blank. -/
def sql (table : String) : Survey → Option String → String
  | count => Sql.count table
  | fields list => Sql.selectFields table list

/-- The text of a survey of all rows. -/
def whole (table : String) : Survey → String
  | count => "SELECT COUNT(*) FROM " ++ table
  | fields list => "SELECT " ++ list ++ " FROM " ++ table

/-- The text of a survey of the rows that meet a condition. -/
def narrow (table : String) (n : Survey) (condition : String) : String :=
  n.whole table ++ " WHERE " ++ condition

/-- The text has a WHERE behind that of the survey of all rows. -/
def Narrows (table : String) (n : Survey) (text : String) : Prop :=
  ∃ condition, text = n.narrow table condition

/-- What a survey is compiled to.  Both the text and the values of a condition come into the
statement, or neither does. -/
inductive Narrowed (table : String) (n : Survey) : Option Condition → Statement → Prop
  | kept {c : Condition} :
      ¬Blank c.sql → Narrowed table n (some c) ⟨n.kind, n.narrow table c.sql, c.bindings⟩
  | dropped {condition : Option Condition} :
      (∀ c ∈ condition, Blank c.sql) → Narrowed table n condition ⟨n.kind, n.whole table, []⟩

variable {table : String} {n : Survey} {condition : Option Condition}

/-! ### Texts -/

theorem sql_eq (text : Option String) :
    n.sql table text = n.whole table ++ Sql.optionalClause " WHERE " text := by
  cases n with
  | count => rfl
  | fields list => rfl

theorem sql_of_blank {text : Option String} (h : ∀ t ∈ text, Blank t) :
    n.sql table text = n.whole table := by
  have hclause : Sql.optionalClause " WHERE " text = "" := by
    cases text with
    | none => rfl
    | some t => exact Sql.optionalClause_of_isBlank (blank_iff.mp (h t rfl))
  rw [sql_eq, hclause, String.append_empty]

theorem sql_of_not_blank {t : String} (h : ¬Blank t) :
    n.sql table (some t) = n.narrow table t := by
  have hblank : isBlank t = false := Bool.eq_false_iff.mpr (blank_iff.not.mp h)
  rw [sql_eq, Sql.optionalClause_of_isBlank_eq_false hblank, ← String.append_assoc]
  rfl

theorem narrows_narrow (t : String) : n.Narrows table (n.narrow table t) := ⟨t, rfl⟩

/-- A survey of all rows has no WHERE, for want of length. -/
theorem not_narrows_whole : ¬n.Narrows table (n.whole table) := by
  rintro ⟨t, h⟩
  have hlength := congrArg String.length h
  rw [narrow, String.length_append, String.length_append] at hlength
  have hwhere : " WHERE ".length = 7 := by decide
  omega

/-- A WHERE is written for the texts that are not blank. -/
theorem narrows_sql_iff {text : Option String} :
    n.Narrows table (n.sql table text) ↔ ∃ t ∈ text, ¬Blank t := by
  by_cases h : ∀ t ∈ text, Blank t
  · rw [sql_of_blank h]
    exact iff_of_false not_narrows_whole fun ⟨t, ht, hnot⟩ => hnot (h t ht)
  · simp only [not_forall] at h
    obtain ⟨t, rfl, hnot⟩ := h
    rw [sql_of_not_blank hnot]
    exact iff_of_true (narrows_narrow t) ⟨t, rfl, hnot⟩

/-! ### Statements -/

theorem narrows_iff_of_narrowed {statement : Statement}
    (h : n.Narrowed table condition statement) :
    n.Narrows table statement.sql ↔ Stands condition := by
  cases h with
  | kept hc => exact iff_of_true (narrows_narrow _) ⟨_, rfl, hc⟩
  | dropped hblank => exact iff_of_false not_narrows_whole (not_stands_iff.mpr hblank)

/-- Values of a condition come into the statement exactly when it stands. -/
theorem bindings_iff_of_narrowed {statement : Statement} {c : Condition}
    (h : n.Narrowed table (some c) statement) (hc : c.bindings ≠ []) :
    statement.bindings = c.bindings ↔ Stands (some c) := by
  cases h with
  | kept hnot => exact iff_of_true rfl ⟨c, rfl, hnot⟩
  | dropped hblank => exact iff_of_false (Ne.symm hc) (not_stands_iff.mpr hblank)

/-- The condition is none of what is checked. -/
theorem check_query (n : Survey) (condition other : Option Condition) :
    (n.query condition).check = (n.query other).check := by
  cases n with
  | count => rfl
  | fields list => rfl

theorem statement_query (condition : Option Condition) :
    (n.query condition).statement table =
      ⟨n.kind, n.sql table ((Query.effective condition).map Condition.sql),
        Query.bindings (Query.effective condition)⟩ := by
  cases n with
  | count => rfl
  | fields list => rfl

theorem statement_of_blank (h : ∀ c ∈ condition, Blank c.sql) :
    (n.query condition).statement table = ⟨n.kind, n.whole table, []⟩ := by
  have hnone : ∀ t ∈ (none : Option String), Blank t := fun t ht => nomatch ht
  rw [statement_query, Query.effective_of_blank h, Option.map_none, sql_of_blank hnone]
  rfl

theorem statement_of_not_blank {c : Condition} (h : ¬Blank c.sql) :
    (n.query (some c)).statement table = ⟨n.kind, n.narrow table c.sql, c.bindings⟩ := by
  rw [statement_query, Query.effective_of_not_blank h, Option.map_some, sql_of_not_blank h]
  rfl

theorem narrowed_statement (condition : Option Condition) :
    n.Narrowed table condition ((n.query condition).statement table) := by
  by_cases h : ∀ c ∈ condition, Blank c.sql
  · rw [statement_of_blank h]
    exact .dropped h
  · simp only [not_forall] at h
    obtain ⟨c, rfl, hnot⟩ := h
    rw [statement_of_not_blank hnot]
    exact .kept hnot

/-- The text is that of the condition as it is given: what is decided for the values is decided once
more for the text, and alike. -/
theorem sql_statement (condition : Option Condition) :
    ((n.query condition).statement table).sql = n.sql table (condition.map Condition.sql) := by
  by_cases h : ∀ c ∈ condition, Blank c.sql
  · have htext : ∀ t ∈ condition.map Condition.sql, Blank t := by
      intro t ht
      obtain ⟨c, hc, rfl⟩ := Option.map_eq_some_iff.mp ht
      exact h c hc
    rw [statement_of_blank h, sql_of_blank htext]
  · simp only [not_forall] at h
    obtain ⟨c, rfl, hnot⟩ := h
    rw [statement_of_not_blank hnot, Option.map_some, sql_of_not_blank hnot]

/-- Whether a survey is refused has nothing to do with its condition. -/
theorem compile_cases (table : String) (n : Survey) :
    (∃ r, Query.Refused (some table) (n.query none) r ∧
      ∀ condition, (n.query condition).compile (some table) = .error r) ∨
    ∀ condition, (n.query condition).compile (some table) =
      .ok ((n.query condition).statement table) := by
  cases h : (n.query none).compile (some table) with
  | error r =>
      refine .inl ⟨r, Query.compile_eq_error_iff.mp h, fun condition => ?_⟩
      rw [Query.compile_eq_of_check_eq (n.check_query condition none), h]
      rfl
  | ok statement =>
      refine .inr fun condition => ?_
      rw [Query.compile_eq_of_check_eq (n.check_query condition none), h]
      rfl

/-- A blank condition is as good as none, whatever values it has. -/
theorem compile_of_blank (h : ∀ c ∈ condition, Blank c.sql) :
    (n.query condition).compile (some table) = (n.query none).compile (some table) := by
  rcases compile_cases table n with ⟨r, -, hrefused⟩ | hok
  · rw [hrefused, hrefused]
  · have hnone : ∀ c ∈ (none : Option Condition), Blank c.sql := fun c hc => nomatch hc
    rw [hok, hok, statement_of_blank h, statement_of_blank hnone]

end Survey

end TableGateway
