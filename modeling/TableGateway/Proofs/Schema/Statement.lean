import TableGateway.Proofs.Schema.Declared

/-! # The statement of a declared table

The text of what a list of calls declares: `Call.clauses` are the texts of the fragments in the
order of the calls, then one clause for the primary key, then the other constraints category by
category.  `createSql_run` says that the statement written from the blueprint consists of exactly
these clauses, or is refused. -/

namespace TableGateway.Schema

/-! ### The clauses of a declaration -/

/-- The text of a fragment, with `add` before a declared column. -/
def Fragment.sql (add : String) : Fragment → String
  | column definition => add ++ definition.sql
  | dropColumn name => "DROP COLUMN " ++ name
  | renameColumn old new => "RENAME COLUMN " ++ old ++ " TO " ++ new
  | changeColumn name definition =>
    if name = definition.name then "MODIFY COLUMN " ++ definition.sql
    else "CHANGE COLUMN " ++ name ++ " " ++ definition.sql
  | renameTable name => "RENAME TO " ++ name

/-- The categories of the constraints that have a clause each. -/
inductive Category where
  | unique
  | index
  | foreignKey
  | check
  deriving DecidableEq, Repr

/-- The categories in the order of their clauses. -/
def Category.inOrder : List Category := [unique, index, foreignKey, check]

/-- The text of a constraint of a category. -/
def Constraint.sql? : Category → Constraint → Option String
  | .unique, .unique column => some ("UNIQUE (" ++ column ++ ")")
  | .index, .index column => some ("INDEX (" ++ column ++ ")")
  | .foreignKey, .foreignKey key => some key.sql
  | .check, .check expression => some ("CHECK (" ++ expression ++ ")")
  | _, _ => none

/-- One clause for all columns of the primary key, if there are any. -/
def primaryKeyClause : List String → List String
  | [] => []
  | columns => ["PRIMARY KEY (" ++ Sql.commaList columns ++ ")"]

/-- The clauses of constraints, the primary key first and then category by category. -/
def constraintClauses (constraints : List Constraint) : List String :=
  primaryKeyClause (constraints.filterMap Constraint.primary?) ++
    Category.inOrder.flatMap fun category => constraints.filterMap (Constraint.sql? category)

/-- The clauses of a list of calls. -/
def Call.clauses (calls : List Call) : List String :=
  (fragmentsOf calls).map (Fragment.sql "") ++ constraintClauses (constraintsOf calls)

/-! ### The clauses of a blueprint -/

/-- Clauses numbered from the end of `before` have the texts of their fragments, once the columns of
the fragments stand behind `before`, whatever follows. -/
theorem filterMap_clausesFrom (add : String) :
    ∀ (fragments : List Fragment) (before after : List Column),
    (clausesFrom before.length fragments).filterMap
        (Clause.sql? (before ++ fragments.filterMap Fragment.column? ++ after) add) =
      fragments.map (Fragment.sql add)
  | [], _, _ => rfl
  | .column definition :: fragments, before, after => by
      have ih := filterMap_clausesFrom add fragments (before ++ [definition]) after
      rw [List.length_append, List.length_singleton] at ih
      have hcols : before ++ (Fragment.column definition :: fragments).filterMap Fragment.column? ++
          after = before ++ [definition] ++ fragments.filterMap Fragment.column? ++ after := by
        simp [Fragment.column?]
      have hcol : (before ++ [definition] ++ fragments.filterMap Fragment.column? ++
          after)[before.length]? = some definition := by simp
      rw [hcols, clausesFrom, filterMap_cons_toList, ih, Clause.sql?, hcol]
      rfl
  | .dropColumn _ :: fragments, before, after | .renameColumn _ _ :: fragments, before, after
  | .changeColumn _ _ :: fragments, before, after | .renameTable _ :: fragments, before, after => by
      rw [clausesFrom, filterMap_cons_toList]
      exact congrArg (_ :: ·) (filterMap_clausesFrom add fragments before after)

theorem primaryKeyClause_eq (columns : List String) :
    primaryKeyClause columns =
      if columns.isEmpty then [] else ["PRIMARY KEY (" ++ Sql.commaList columns ++ ")"] := by
  cases columns <;> rfl

theorem filterMap_sql? (constraints : List Constraint) :
    constraints.filterMap (Constraint.sql? .unique) =
        (constraints.filterMap Constraint.unique?).map
          (fun column => "UNIQUE (" ++ column ++ ")") ∧
      constraints.filterMap (Constraint.sql? .index) =
        (constraints.filterMap Constraint.index?).map (fun column => "INDEX (" ++ column ++ ")") ∧
      constraints.filterMap (Constraint.sql? .foreignKey) =
        (constraints.filterMap Constraint.foreignKey?).map ForeignKey.sql ∧
      constraints.filterMap (Constraint.sql? .check) =
        (constraints.filterMap Constraint.check?).map
          (fun expression => "CHECK (" ++ expression ++ ")") := by
  simp only [List.map_filterMap]
  refine ⟨?_, ?_, ?_, ?_⟩ <;>
  · congr 1
    funext c
    cases c <;> rfl

namespace Blueprint

variable (table : String) (fragments : List Fragment) (constraints : List Constraint)

theorem clauseTexts_extend (add : String) :
    (({ table } : Blueprint).extend fragments constraints).clauseTexts add =
      fragments.map (Fragment.sql add) := by
  have h := filterMap_clausesFrom add fragments [] []
  rw [List.append_nil] at h
  exact h

theorem constraintTexts_eq (b : Blueprint) :
    b.constraintTexts = primaryKeyClause b.primaryKey ++
      b.uniques.map (fun column => "UNIQUE (" ++ column ++ ")") ++
      b.indexes.map (fun column => "INDEX (" ++ column ++ ")") ++
      b.foreignKeys.map ForeignKey.sql ++
      b.checks.map (fun expression => "CHECK (" ++ expression ++ ")") := by
  rw [primaryKeyClause_eq]
  rfl

theorem constraintTexts_extend :
    (({ table } : Blueprint).extend fragments constraints).constraintTexts =
      constraintClauses constraints := by
  obtain ⟨hunique, hindex, hkey, hcheck⟩ := filterMap_sql? constraints
  rw [constraintTexts_eq, constraintClauses, Category.inOrder]
  simp only [extend, List.nil_append, List.flatMap_cons, List.flatMap_nil, List.append_nil, hunique,
    hindex, hkey, hcheck, List.append_assoc]

/-- The clauses of a table's statement are those that its calls declare, in the same order. -/
theorem texts_run (calls : List Call) :
    let b := ({ table } : Blueprint).run calls
    b.clauseTexts "" ++ b.constraintTexts = Call.clauses calls := by
  intro b
  have hb : b = extend { table } (Call.fragmentsOf calls) (Call.constraintsOf calls) :=
    run_eq_extend _ calls
  rw [hb, clauseTexts_extend, constraintTexts_extend]
  rfl

/-- A blueprint has a column exactly when one of the calls declares one itself. -/
theorem hasColumns_run (calls : List Call) :
    (({ table } : Blueprint).run calls).hasColumns = calls.any Call.declaresColumn := by
  have hcols : (({ table } : Blueprint).run calls).columns = calls.flatMap Call.columns := by
    rw [run_eq_extend, ← Call.filterMap_column?_fragmentsOf]
    rfl
  have hiff : calls.flatMap Call.columns = [] ↔ calls.any Call.declaresColumn = false :=
    Call.flatMap_columns_eq_nil_iff
  unfold hasColumns
  rw [hcols]
  cases h : calls.any Call.declaresColumn with
  | false => rw [hiff.mpr h]; rfl
  | true =>
      have hne : calls.flatMap Call.columns ≠ [] := fun hnil => by
        rw [hiff.mp hnil] at h
        cases h
      rw [List.isEmpty_eq_false_iff.mpr hne]
      rfl

theorem table_run (calls : List Call) : (({ table } : Blueprint).run calls).table = table := by
  rw [run_eq_extend]
  rfl

/-- On a named table all that can fail is that there is no column. -/
theorem createSql_of_named {b : Blueprint} (named : Text.isBlank b.table = false) :
    b.createSql =
      if b.hasColumns then
        .ok ("CREATE TABLE " ++ b.table ++ " (" ++
          Sql.commaList (b.clauseTexts "" ++ b.constraintTexts) ++ ")")
      else .error (.emptyBlueprint b.table) := by
  have htable : Check.table (some b.table) = .ok b.table := if_neg (by rw [named]; decide)
  unfold createSql
  rw [htable]
  rfl

/-- On a named table all that can fail is that there is nothing to alter. -/
theorem alterSql_of_named {b : Blueprint} (named : Text.isBlank b.table = false) :
    b.alterSql =
      if b.isEmpty then .error (.emptyBlueprint b.table)
      else .ok ("ALTER TABLE " ++ b.table ++ " " ++
        Sql.commaList (b.clauseTexts "ADD COLUMN " ++ b.constraintTexts.map ("ADD " ++ ·))) := by
  have htable : Check.table (some b.table) = .ok b.table := if_neg (by rw [named]; decide)
  unfold alterSql
  rw [htable]
  rfl

theorem named_of_createSql {b : Blueprint} {sql : String} (h : b.createSql = .ok sql) :
    Text.isBlank b.table = false := by
  cases hblank : Text.isBlank b.table with
  | false => rfl
  | true =>
      have hunnamed : Check.table (some b.table) = .error .tableNotSet := if_pos hblank
      unfold createSql at h
      rw [hunnamed] at h
      cases h

/-- **The statement that creates a table.**  On a named table it is refused exactly when no call
declares a column itself; otherwise it consists of the clauses that the calls declare. -/
theorem createSql_run (calls : List Call) (named : Text.isBlank table = false) :
    (({ table } : Blueprint).run calls).createSql =
      if calls.any Call.declaresColumn then
        .ok ("CREATE TABLE " ++ table ++ " (" ++ Sql.commaList (Call.clauses calls) ++ ")")
      else .error (.emptyBlueprint table) := by
  have htable : Check.table (some (({ table } : Blueprint).run calls).table) = .ok table := by
    rw [table_run, Check.table, if_neg (by rw [named]; decide)]
  unfold createSql
  rw [htable]
  simp only [bind, Except.bind]
  rw [hasColumns_run, texts_run]
  rfl

/-- A definition nested twice, whose constraints come out between those around it and whose inner
column is not declared. -/
theorem createSql_run_nested :
    Text.isBlank "users" = false ∧
      (({ table := "users" } : Blueprint).run
        [.unique "a", .column "id" .integer [.modify .unsigned, .primary],
          .changeColumn "mail"
            [.column "email" .text [.unique],
              .changeColumn "x" [.timestamps, .foreign "o" "orgs" "id" [.onDelete .setNull]]],
          .column "tag" .text [.primary, .modify (.comment "it's"), .unique]]).createSql =
        .ok ("CREATE TABLE users (id INT UNSIGNED, CHANGE COLUMN mail email TEXT, " ++
          "tag TEXT COMMENT 'it''s', PRIMARY KEY (id, tag), UNIQUE (a), UNIQUE (email), " ++
          "UNIQUE (tag), FOREIGN KEY (o) REFERENCES orgs(id) ON DELETE SET NULL " ++
          "ON UPDATE CASCADE)") := by
  have named : Text.isBlank "users" = false := by decide
  refine ⟨named, ?_⟩
  rw [createSql_run "users" _ named, if_pos (by decide)]
  exact congrArg Except.ok (by decide +kernel)

end Blueprint

end TableGateway.Schema
