import TableGateway.Proofs.Schema.Statement

/-! # The statement that alters a table

The same calls can be written as the creation of a table or as its alteration.  `Call.contributes`
says which calls leave anything to be written, and `Blueprint.isEmpty_run` that a blueprint is empty
exactly when none of its calls does.  `Call.classified` gives the clauses of calls each with its
kind, and the kind alone decides what the alteration puts before a clause (`ClauseKind.lead`), so
that the two statements agree clause by clause (`Blueprint.alterSql_run`). -/

namespace TableGateway.Schema

/-! ### Calls that contribute -/

/-- Whether an edit puts a constraint on its column. -/
def ColumnEdit.constrains : ColumnEdit → Bool
  | modify _ => false
  | unique | index | primary => true

namespace Call

mutual

/-- Whether a call puts a constraint on the table, be it from inside of a definition. -/
def constrains : Call → Bool
  | column _ _ edits => edits.any ColumnEdit.constrains
  | primary names => !names.isEmpty
  | unique _ | index _ | check _ | foreign _ _ _ _ => true
  | changeColumn _ definition => anyConstrains definition
  | timestamps | dropColumn _ | renameColumn _ _ | renameTable _ => false

/-- Whether one of the calls puts a constraint on the table. -/
def anyConstrains : List Call → Bool
  | [] => false
  | c :: calls => c.constrains || anyConstrains calls

end

/-- Whether a call leaves anything to be written.  A primary key without columns does not, nor does
a changed column whose definition neither declares a column itself nor has a constraint anywhere. -/
def contributes : Call → Bool
  | primary names => !names.isEmpty
  | changeColumn _ definition => definition.any declaresColumn || anyConstrains definition
  | _ => true

theorem filterMap_constraint?_eq_nil_iff (name : String) (edits : List ColumnEdit) :
    edits.filterMap (ColumnEdit.constraint? name) = [] ↔
      edits.any ColumnEdit.constrains = false := by
  rw [List.filterMap_eq_nil_iff, List.any_eq_false]
  have hedit : ∀ e : ColumnEdit, e.constraint? name = none ↔ ¬e.constrains = true := by
    intro e
    cases e <;> simp [ColumnEdit.constraint?, ColumnEdit.constrains]
  simp only [hedit]

mutual

theorem constraints_eq_nil_iff : ∀ c : Call, c.constraints = [] ↔ c.constrains = false
  | .column name _ edits => filterMap_constraint?_eq_nil_iff name edits
  | .primary names => by simp [constraints, constrains]
  | .changeColumn _ definition => constraintsOf_eq_nil_iff definition
  | .unique _ | .index _ | .check _ | .foreign _ _ _ _ => by simp [constraints, constrains]
  | .timestamps | .dropColumn _ | .renameColumn _ _ | .renameTable _ => by
      simp [constraints, constrains]

theorem constraintsOf_eq_nil_iff :
    ∀ calls : List Call, constraintsOf calls = [] ↔ anyConstrains calls = false
  | [] => by simp [constraintsOf, anyConstrains]
  | c :: calls => by
      rw [constraintsOf, anyConstrains, List.append_eq_nil_iff, Bool.or_eq_false_iff,
        constraints_eq_nil_iff c, constraintsOf_eq_nil_iff calls]

end

theorem changeColumn_fragments_eq_nil_iff (name : String) (definition : List Call) :
    (changeColumn name definition).fragments = [] ↔ definition.any declaresColumn = false := by
  rw [← flatMap_columns_eq_nil_iff, ← List.getLast?_eq_none_iff]
  unfold fragments
  cases (definition.flatMap columns).getLast? <;> simp

/-- A call contributes exactly when it has a fragment or a constraint. -/
theorem contributes_eq_false_iff (c : Call) :
    c.contributes = false ↔ c.fragments = [] ∧ c.constraints = [] := by
  cases c with
  | primary names => simp [contributes, fragments, columns, constraints]
  | changeColumn name definition =>
      rw [contributes, Bool.or_eq_false_iff, changeColumn_fragments_eq_nil_iff,
        ← constraintsOf_eq_nil_iff]
      rfl
  | _ => simp [contributes, fragments, columns, constraints]

theorem any_contributes_eq_false_iff (calls : List Call) :
    calls.any contributes = false ↔ fragmentsOf calls = [] ∧ constraintsOf calls = [] := by
  induction calls with
  | nil => simp [fragmentsOf, constraintsOf]
  | cons c calls ih =>
      have hfragments : fragmentsOf (c :: calls) = c.fragments ++ fragmentsOf calls :=
        List.flatMap_cons
      rw [List.any_cons, Bool.or_eq_false_iff, ih, contributes_eq_false_iff, hfragments,
        constraintsOf, List.append_eq_nil_iff, List.append_eq_nil_iff, and_and_and_comm]

theorem contributes_of_declaresColumn {c : Call} (h : c.declaresColumn = true) :
    c.contributes = true := by
  cases c with
  | column name type edits => rfl
  | timestamps => rfl
  | _ => cases h

end Call

/-! ### Empty blueprints -/

theorem clausesFrom_eq_nil_iff {n : Nat} {fragments : List Fragment} :
    clausesFrom n fragments = [] ↔ fragments = [] := by
  cases fragments with
  | nil => simp [clausesFrom]
  | cons f fragments => cases f <;> simp [clausesFrom]

/-- A constraint is of one of the five categories. -/
theorem constraints_eq_nil_iff_categories {constraints : List Constraint} :
    constraints = [] ↔
      constraints.filterMap Constraint.primary? = [] ∧
        constraints.filterMap Constraint.unique? = [] ∧
        constraints.filterMap Constraint.index? = [] ∧
        constraints.filterMap Constraint.foreignKey? = [] ∧
        constraints.filterMap Constraint.check? = [] := by
  constructor
  · rintro rfl
    simp
  · rintro ⟨hprimary, hunique, hindex, hkey, hcheck⟩
    cases constraints with
    | nil => rfl
    | cons c constraints =>
        rw [filterMap_cons_toList] at hprimary hunique hindex hkey hcheck
        cases c with
        | primary column => cases hprimary
        | unique column => cases hunique
        | index column => cases hindex
        | foreignKey key => cases hkey
        | check expression => cases hcheck

namespace Blueprint

theorem isEmpty_extend (table : String) (fragments : List Fragment)
    (constraints : List Constraint) :
    (({ table } : Blueprint).extend fragments constraints).isEmpty = true ↔
      fragments = [] ∧ constraints = [] := by
  rw [constraints_eq_nil_iff_categories]
  simp only [isEmpty, extend, List.nil_append, Bool.and_eq_true, List.isEmpty_iff,
    clausesFrom_eq_nil_iff, and_assoc]

/-- A blueprint is empty exactly when none of its calls contributes. -/
theorem isEmpty_run (table : String) (calls : List Call) :
    (({ table } : Blueprint).run calls).isEmpty = !calls.any Call.contributes := by
  have hiff : (({ table } : Blueprint).run calls).isEmpty = true ↔
      calls.any Call.contributes = false := by
    rw [run_eq_extend, isEmpty_extend, Call.any_contributes_eq_false_iff]
  cases h : calls.any Call.contributes with
  | false => exact hiff.mpr h
  | true =>
      rw [h] at hiff
      simpa using hiff

end Blueprint

/-! ### Clauses with their kinds -/

/-- What a clause of a table's definition is. -/
inductive ClauseKind where
  /-- A declared column. -/
  | column
  /-- A change of what the table has. -/
  | alteration
  | constraint
  deriving DecidableEq, Repr

/-- What the alteration of a table puts before a clause. -/
def ClauseKind.lead : ClauseKind → String
  | column => "ADD COLUMN "
  | alteration => ""
  | constraint => "ADD "

/-- A fragment's kind. -/
def Fragment.kind : Fragment → ClauseKind
  | column _ => .column
  | dropColumn _ | renameColumn _ _ | changeColumn _ _ | renameTable _ => .alteration

theorem Fragment.sql_add (f : Fragment) : f.sql "ADD COLUMN " = f.kind.lead ++ f.sql "" := by
  cases f with
  | column definition => exact congrArg ("ADD COLUMN " ++ ·) String.empty_append.symm
  | _ => exact String.empty_append.symm

/-- The clauses of calls as a table is created, each with its kind. -/
def Call.classified (calls : List Call) : List (ClauseKind × String) :=
  (fragmentsOf calls).map (fun f => (f.kind, f.sql "")) ++
    (constraintClauses (constraintsOf calls)).map fun clause => (.constraint, clause)

theorem Call.map_snd_classified (calls : List Call) :
    (classified calls).map Prod.snd = clauses calls := by
  simp [classified, clauses, Function.comp_def]

namespace Blueprint

/-- The clauses of an alteration are those of the creation, each behind what its kind asks for. -/
theorem alterTexts_run (table : String) (calls : List Call) :
    let b := ({ table } : Blueprint).run calls
    b.clauseTexts "ADD COLUMN " ++ b.constraintTexts.map ("ADD " ++ ·) =
      (Call.classified calls).map fun clause => clause.1.lead ++ clause.2 := by
  intro b
  have hb : b = extend { table } (Call.fragmentsOf calls) (Call.constraintsOf calls) :=
    run_eq_extend _ calls
  rw [hb, clauseTexts_extend, constraintTexts_extend, Call.classified, List.map_append,
    List.map_map, List.map_map]
  congr 1
  exact List.map_congr_left fun f _ => f.sql_add

/-- **The statement that alters a table.**  On a named table there is one exactly when the blueprint
is not empty, that is, when a call contributes.  Wherever there is a statement that creates the
table there is one that alters it as well, and it has the same clauses in the same order, with
`ADD COLUMN` before each declared column, `ADD` before each constraint and nothing before the
rest. -/
theorem alterSql_run (table : String) (calls : List Call) (named : Text.isBlank table = false) :
    let b := ({ table } : Blueprint).run calls
    ((∃ sql, b.alterSql = .ok sql) ↔ b.isEmpty = false) ∧
      (b.isEmpty = false ↔ calls.any Call.contributes = true) ∧
      (b.isEmpty = true → b.alterSql = .error (.emptyBlueprint table)) ∧
      (b.isEmpty = false → b.alterSql = .ok ("ALTER TABLE " ++ table ++ " " ++
        Sql.commaList ((Call.classified calls).map fun clause => clause.1.lead ++ clause.2))) ∧
      (∀ sql, b.createSql = .ok sql → b.isEmpty = false ∧
        sql = "CREATE TABLE " ++ table ++ " (" ++
          Sql.commaList ((Call.classified calls).map Prod.snd) ++ ")") := by
  intro b
  have htable : b.table = table := table_run table calls
  have hnamed : Text.isBlank b.table = false := by rw [htable]; exact named
  have halter := alterSql_of_named hnamed
  have hcreate := createSql_of_named hnamed
  rw [alterTexts_run, htable] at halter
  rw [texts_run, htable, ← Call.map_snd_classified] at hcreate
  have hempty : b.isEmpty = !calls.any Call.contributes := isEmpty_run table calls
  refine ⟨?_, ?_, ?_, ?_, ?_⟩
  · cases h : b.isEmpty with
    | false => simp [halter, h]
    | true => simp [halter, h]
  · rw [hempty]
    simp
  · intro h
    rw [halter, if_pos h]
  · intro h
    rw [halter, if_neg (by rw [h]; decide)]
  · intro sql h
    rw [hcreate] at h
    cases hcolumns : b.hasColumns with
    | false =>
        rw [hcolumns] at h
        cases h
    | true =>
        rw [hcolumns] at h
        have hany : calls.any Call.declaresColumn = true := (hasColumns_run table calls).symm.trans
          hcolumns
        obtain ⟨c, hc, hdeclares⟩ := List.any_eq_true.mp hany
        have hcontributes : calls.any Call.contributes = true :=
          List.any_eq_true.mpr ⟨c, hc, Call.contributes_of_declaresColumn hdeclares⟩
        refine ⟨?_, (Except.ok.inj h).symm⟩
        rw [hempty, hcontributes]
        rfl

/-- Of two changed columns the second is nowhere to be seen, since the columns of its definition are
all inside of another one, and a primary key without columns is none. -/
theorem alterSql_run_nested :
    let calls : List Call :=
      [.primary [], .unique "a", .column "id" .integer [.modify .unsigned, .primary],
        .changeColumn "mail" [.column "email" .text [.unique]],
        .changeColumn "x" [.changeColumn "y" [.timestamps]], .dropColumn "fax"]
    let b := ({ table := "users" } : Blueprint).run calls
    Text.isBlank "users" = false ∧ b.isEmpty = false ∧
      b.alterSql = .ok ("ALTER TABLE users ADD COLUMN id INT UNSIGNED, " ++
        "CHANGE COLUMN mail email TEXT, DROP COLUMN fax, ADD PRIMARY KEY (id), ADD UNIQUE (a), " ++
        "ADD UNIQUE (email)") ∧
      b.createSql = .ok ("CREATE TABLE users (id INT UNSIGNED, " ++
        "CHANGE COLUMN mail email TEXT, DROP COLUMN fax, PRIMARY KEY (id), UNIQUE (a), " ++
        "UNIQUE (email))") := by
  intro calls b
  have named : Text.isBlank "users" = false := by decide
  obtain ⟨-, hcontributes, -, halter, hcreate⟩ := alterSql_run "users" calls named
  have hempty : b.isEmpty = false := hcontributes.mpr (by decide)
  have hcolumns : b.hasColumns = true := (hasColumns_run "users" calls).trans (by decide)
  have htable : Text.isBlank b.table = false := (table_run "users" calls).symm ▸ named
  have hsql := createSql_of_named htable
  rw [if_pos hcolumns] at hsql
  refine ⟨named, hempty, ?_, ?_⟩
  · rw [halter hempty]
    exact congrArg Except.ok (by decide +kernel)
  · rw [hsql, (hcreate _ hsql).2]
    exact congrArg Except.ok (by decide +kernel)

end Blueprint

end TableGateway.Schema
