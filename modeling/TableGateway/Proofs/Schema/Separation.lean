import Mathlib.Data.List.Basic
import TableGateway.Proofs.Schema.Statement
import TableGateway.Proofs.Text.Nesting

/-! # Clauses that can be told apart

Names and expressions go into the definition of a table as they are (`Call.verbatim`); the values of
defaults and enumerations and the texts of comments go in as literals.  Where the former are bare
each clause is closed, whatever the latter say (`Call.closed_clauses`).  So the statement can be
taken apart into its clauses again, and no value reaches beyond its own (`createSql_parts`). -/

namespace TableGateway

open Text

variable {commas : Bool}

/-! ### Numbers -/

theorem bare_natural (n : Nat) : Bare n.repr := by
  intro c hc
  rw [Nat.toList_repr] at hc
  exact not_structural_of_isDigit (Nat.isDigit_of_mem_toDigits (by decide) (by decide) hc)

theorem bare_integer (n : Int) : Bare n.repr := by
  cases n with
  | ofNat n => exact bare_natural n
  | negSucc n =>
      have hsign : Bare "-" := by decide
      exact bare_append.mpr ⟨hsign, bare_natural (n + 1)⟩

theorem Decimal.bare_text (n : Nat) : Bare (Decimal.text n) := by
  have hwhole := bare_natural (n / Nat.pow 10 places)
  have hpoint : Bare "." := by decide
  have hfraction : Bare (String.ofList (trimmed (Text.padded places (n % Nat.pow 10 places)))) := by
    intro c hc
    rw [String.toList_ofList] at hc
    -- Trimming keeps some of the digits, and padding adds zeros.
    have hpadded : c ∈ Text.padded places (n % Nat.pow 10 places) := by
      have hkept := (List.dropWhile_sublist _).subset (List.mem_reverse.mp hc)
      exact List.mem_reverse.mp hkept
    rcases List.mem_append.mp hpadded with hzero | hdigit
    · rw [List.eq_of_mem_replicate hzero]
      decide
    · exact not_structural_of_isDigit (Nat.isDigit_of_mem_toDigits (by decide) (by decide) hdigit)
  unfold Decimal.text
  by_cases hempty : (trimmed (Text.padded places (n % Nat.pow 10 places))).isEmpty = true
  · simp only [hempty, if_true]
    exact hwhole
  · simp only [hempty]
    exact bare_append.mpr ⟨bare_append.mpr ⟨hwhole, hpoint⟩, hfraction⟩

theorem Binary64.bare_text (x : Binary64) : Bare x.text := by
  have hsign : Bare (if x.isNegative then "-" else "") := by
    cases x.isNegative <;> decide
  unfold Binary64.text
  by_cases hnan : x.isNaN = true
  · rw [if_pos hnan]
    decide
  rw [if_neg hnan]
  by_cases hinfinite : x.isInfinite = true
  · rw [if_pos hinfinite]
    exact bare_append.mpr ⟨hsign, by decide⟩
  rw [if_neg hinfinite]
  by_cases hzero : x.isZero = true
  · rw [if_pos hzero]
    exact bare_append.mpr ⟨hsign, by decide⟩
  · rw [if_neg hzero]
    exact bare_append.mpr ⟨hsign, Decimal.bare_text _⟩

namespace Schema

/-! ### Texts written as they are -/

/-- The expression or the name in a modifier. -/
def Modifier.verbatim : Modifier → List String
  | default (.expression sql) => [sql]
  | onUpdate expression => [expression]
  | after column => [column]
  | default _ | nullable | notNullable | unsigned | comment _ | first => []

/-- The name of a column, and what is in its modifiers. -/
def Column.verbatim (c : Column) : List String := c.name :: c.modifiers.flatMap Modifier.verbatim

/-- The three names of a foreign key. -/
def ForeignKey.verbatim (k : ForeignKey) : List String := [k.column, k.table, k.references]

/-- The names and expressions in a fragment. -/
def Fragment.verbatim : Fragment → List String
  | column definition => definition.verbatim
  | dropColumn name | renameTable name => [name]
  | renameColumn old new => [old, new]
  | changeColumn name definition => name :: definition.verbatim

/-- The names or the expression in a constraint. -/
def Constraint.verbatim : Constraint → List String
  | primary text | unique text | index text | check text => [text]
  | foreignKey key => key.verbatim

namespace Call

mutual

/-- The names and expressions in a call, and in the definition inside of it. -/
def verbatim : Call → List String
  | column name _ edits => name :: (edits.filterMap ColumnEdit.modifier?).flatMap Modifier.verbatim
  | timestamps => []
  | primary names => names
  | unique text | index text | check text | dropColumn text | renameTable text => [text]
  | foreign name table references _ => [name, table, references]
  | renameColumn old new => [old, new]
  | changeColumn name definition => name :: verbatimOf definition

/-- The names and expressions in calls. -/
def verbatimOf : List Call → List String
  | [] => []
  | c :: calls => c.verbatim ++ verbatimOf calls

end

end Call

/-! ### Closed clauses -/

/-- A name with a list in parentheses behind it, the parenthesis being part of `head`. -/
theorem closed_listed {head s : String} (name : String) (hname : Bare name)
    (hhead : name ++ "(" = head) (h : Closed true s) : Closed commas (head ++ s ++ ")") := by
  have hsplit : head ++ s ++ ")" = name ++ ("(" ++ s ++ ")") := by
    rw [← hhead]
    simp only [String.append_assoc]
  rw [hsplit]
  exact hname.closed.append h.enclosed

theorem closed_scaled {name : String} (hname : Bare name) (precision scale : UInt8) :
    Closed commas (scaled name precision scale) := by
  have hlist : Closed true (precision.toNat.repr ++ ", " ++ scale.toNat.repr) :=
    ((bare_natural _).closed.append closed_separator).append (bare_natural _).closed
  have hsplit : scaled name precision scale =
      name ++ "(" ++ (precision.toNat.repr ++ ", " ++ scale.toNat.repr) ++ ")" := by
    simp only [scaled, String.append_assoc]
  rw [hsplit]
  exact closed_listed name hname rfl hlist

/-- The values of an enumeration may be any text. -/
theorem ColumnType.closed_sql (type : ColumnType) : Closed commas type.sql := by
  cases type with
  | string length => exact closed_listed "VARCHAR" (by decide) (by decide) (bare_natural _).closed
  | boolean =>
      have hone : Bare "1" := by decide
      have hsplit : "TINYINT(1)" = "TINYINT(" ++ "1" ++ ")" := by decide
      rw [ColumnType.sql, hsplit]
      exact closed_listed "TINYINT" (by decide) (by decide) hone.closed
  | decimal precision scale => exact closed_scaled (by decide) precision scale
  | float precision scale => exact closed_scaled (by decide) precision scale
  | double precision scale => exact closed_scaled (by decide) precision scale
  | enumeration values =>
      refine closed_listed "ENUM" (by decide) (by decide) (closed_commaList ?_)
      intro s hs
      obtain ⟨value, -, rfl⟩ := List.mem_map.mp hs
      exact closed_quoted value
  | _ => exact Bare.closed (by decide)

/-- A default that is a string may be any text. -/
theorem DefaultValue.closed_sql {value : DefaultValue}
    (h : ∀ sql, value = .expression sql → Bare sql) : Closed commas value.sql := by
  cases value with
  | null => exact Bare.closed (by decide)
  | boolean b => cases b <;> exact Bare.closed (by decide)
  | integer n => exact (bare_integer _).closed
  | float x => exact x.bare_text.closed
  | string s => exact closed_quoted s
  | expression sql => exact (h sql rfl).closed

/-- A comment may be any text. -/
theorem Modifier.closed_sql {modifier : Modifier} (h : ∀ text ∈ modifier.verbatim, Bare text) :
    Closed commas modifier.sql := by
  have hdefault : Bare "DEFAULT " := by decide
  have honUpdate : Bare "ON UPDATE " := by decide
  have hcomment : Bare "COMMENT " := by decide
  have hafter : Bare "AFTER " := by decide
  cases modifier with
  | default value =>
      have hvalue : ∀ sql, value = .expression sql → Bare sql := by
        rintro sql rfl
        exact h sql List.mem_cons_self
      exact hdefault.closed.append (DefaultValue.closed_sql hvalue)
  | onUpdate expression => exact honUpdate.closed.append (h _ List.mem_cons_self).closed
  | comment text => exact hcomment.closed.append (closed_quoted text)
  | after column => exact hafter.closed.append (h _ List.mem_cons_self).closed
  | _ => exact Bare.closed (by decide)

theorem Column.closed_sql {c : Column} (h : ∀ text ∈ c.verbatim, Bare text) :
    Closed commas c.sql := by
  obtain ⟨hname, hmodifiers⟩ := List.forall_mem_cons.mp h
  have hspace : Bare " " := by decide
  refine closed_intercalate hspace.closed ?_
  simp only [List.forall_mem_cons, List.forall_mem_map]
  refine ⟨hname.closed, c.type.closed_sql, fun modifier hmodifier => ?_⟩
  exact Modifier.closed_sql fun text htext =>
    hmodifiers text (List.mem_flatMap.mpr ⟨modifier, hmodifier, htext⟩)

theorem ForeignKey.closed_sql {k : ForeignKey} (h : ∀ text ∈ k.verbatim, Bare text) :
    Closed commas k.sql := by
  simp only [ForeignKey.verbatim, List.forall_mem_cons] at h
  obtain ⟨hcolumn, htable, hreferences, -⟩ := h
  have haction : ∀ action : ForeignKeyAction, Bare action.sql := by
    intro action
    cases action <;> decide
  have hmiddle : Bare (" REFERENCES " ++ k.table) := bare_append.mpr ⟨by decide, htable⟩
  have hactions : Bare (" ON DELETE " ++ k.onDelete.sql ++ " ON UPDATE " ++ k.onUpdate.sql) := by
    simp only [bare_append, haction, and_true]
    decide
  -- Each of the two closing parentheses is taken off the text behind it.
  have hsplit : ∀ refers deletes : String, ")" ++ " REFERENCES " = refers →
      ")" ++ " ON DELETE " = deletes →
      "FOREIGN KEY (" ++ k.column ++ refers ++ k.table ++ "(" ++ k.references ++ deletes ++
          k.onDelete.sql ++ " ON UPDATE " ++ k.onUpdate.sql =
        "FOREIGN KEY (" ++ k.column ++ ")" ++
          (" REFERENCES " ++ k.table ++ "(" ++ k.references ++ ")" ++
            (" ON DELETE " ++ k.onDelete.sql ++ " ON UPDATE " ++ k.onUpdate.sql)) := by
    rintro _ _ rfl rfl
    simp only [String.append_assoc]
  have hsql : k.sql = _ := hsplit ") REFERENCES " ") ON DELETE " (by decide) (by decide)
  rw [hsql]
  refine (closed_listed "FOREIGN KEY " (by decide) (by decide) hcolumn.closed).append ?_
  exact (closed_listed _ hmiddle rfl hreferences.closed).append hactions.closed

theorem Fragment.closed_sql {f : Fragment} (h : ∀ text ∈ f.verbatim, Bare text) :
    Closed commas (f.sql "") := by
  have hmodify : Bare "MODIFY COLUMN " := by decide
  have hchange : Bare "CHANGE COLUMN " := by decide
  have hspace : Bare " " := by decide
  have hdrop : Bare "DROP COLUMN " := by decide
  have hrename : Bare "RENAME COLUMN " := by decide
  have hto : Bare " TO " := by decide
  have hmove : Bare "RENAME TO " := by decide
  cases f with
  | column definition =>
      have hsql : Fragment.sql "" (.column definition) = definition.sql := String.empty_append
      rw [hsql]
      exact Column.closed_sql h
  | dropColumn name => exact hdrop.closed.append (h _ List.mem_cons_self).closed
  | renameColumn old new =>
      simp only [Fragment.verbatim, List.forall_mem_cons] at h
      exact ((hrename.closed.append h.1.closed).append hto.closed).append h.2.1.closed
  | changeColumn name definition =>
      obtain ⟨hname, hdefinition⟩ := List.forall_mem_cons.mp h
      have hcolumn : Closed commas definition.sql := Column.closed_sql hdefinition
      by_cases hsame : name = definition.name
      · have hsql : Fragment.sql "" (.changeColumn name definition) =
            "MODIFY COLUMN " ++ definition.sql := if_pos hsame
        rw [hsql]
        exact hmodify.closed.append hcolumn
      · have hsql : Fragment.sql "" (.changeColumn name definition) =
            "CHANGE COLUMN " ++ name ++ " " ++ definition.sql := if_neg hsame
        rw [hsql]
        exact ((hchange.closed.append hname.closed).append hspace.closed).append hcolumn
  | renameTable name => exact hmove.closed.append (h _ List.mem_cons_self).closed

theorem Constraint.closed_sql? {category : Category} {c : Constraint} {clause : String}
    (h : ∀ text ∈ c.verbatim, Bare text) (hclause : c.sql? category = some clause) :
    Closed commas clause := by
  cases category <;> cases c <;> cases hclause
  · exact closed_listed "UNIQUE " (by decide) (by decide) (h _ List.mem_cons_self).closed
  · exact closed_listed "INDEX " (by decide) (by decide) (h _ List.mem_cons_self).closed
  · exact ForeignKey.closed_sql h
  · exact closed_listed "CHECK " (by decide) (by decide) (h _ List.mem_cons_self).closed

theorem closed_primaryKeyClause {columns : List String} (h : ∀ column ∈ columns, Bare column) :
    ∀ clause ∈ primaryKeyClause columns, Closed commas clause := by
  intro clause hclause
  cases columns with
  | nil => cases hclause
  | cons column columns =>
      rw [List.mem_singleton.mp hclause]
      refine closed_listed "PRIMARY KEY " (by decide) (by decide) (closed_commaList ?_)
      exact fun column hcolumn => (h column hcolumn).closed

theorem closed_constraintClauses {constraints : List Constraint}
    (h : ∀ c ∈ constraints, ∀ text ∈ c.verbatim, Bare text) :
    ∀ clause ∈ constraintClauses constraints, Closed commas clause := by
  intro clause hclause
  rcases List.mem_append.mp hclause with hprimary | hother
  · refine closed_primaryKeyClause ?_ clause hprimary
    intro column hcolumn
    obtain ⟨c, hc, hsome⟩ := List.mem_filterMap.mp hcolumn
    cases c with
    | primary name =>
        cases hsome
        exact h _ hc _ List.mem_cons_self
    | _ => cases hsome
  · obtain ⟨category, -, hin⟩ := List.mem_flatMap.mp hother
    obtain ⟨c, hc, hsome⟩ := List.mem_filterMap.mp hin
    exact Constraint.closed_sql? (h c hc) hsome

/-! ### The clauses of calls -/

namespace Call

theorem mem_verbatimOf {text : String} {calls : List Call} :
    text ∈ verbatimOf calls ↔ ∃ c ∈ calls, text ∈ c.verbatim := by
  induction calls with
  | nil => simp [verbatimOf]
  | cons c calls ih => rw [verbatimOf, List.mem_append, ih, List.exists_mem_cons_iff]

theorem bare_columns {c : Call} (h : ∀ text ∈ c.verbatim, Bare text) :
    ∀ d ∈ c.columns, ∀ text ∈ d.verbatim, Bare text := by
  intro d hd
  cases c with
  | column name type edits =>
      rw [List.mem_singleton.mp hd]
      exact h
  | timestamps =>
      have hboth : ∀ text ∈ createdAt.verbatim ++ updatedAt.verbatim, Bare text := by
        intro text htext
        simp only [createdAt, updatedAt, Column.verbatim, Modifier.verbatim, List.mem_append,
          List.flatMap_cons, List.flatMap_nil, List.mem_cons, List.not_mem_nil, or_false] at htext
        rcases htext with (rfl | rfl) | rfl | rfl | rfl <;> decide
      rcases List.mem_cons.mp hd with rfl | hd
      · exact fun text ht => hboth text (List.mem_append_left _ ht)
      · rw [List.mem_singleton.mp hd]
        exact fun text ht => hboth text (List.mem_append_right _ ht)
  | _ => cases hd

theorem bare_fragments {c : Call} (h : ∀ text ∈ c.verbatim, Bare text) :
    ∀ f ∈ c.fragments, ∀ text ∈ f.verbatim, Bare text := by
  intro f hf
  cases c with
  | column name type edits =>
      obtain ⟨d, hd, rfl⟩ := List.mem_map.mp hf
      exact bare_columns h d hd
  | timestamps =>
      obtain ⟨d, hd, rfl⟩ := List.mem_map.mp hf
      exact bare_columns h d hd
  | dropColumn name | renameColumn old new | renameTable name =>
      rw [List.mem_singleton.mp hf]
      exact h
  | changeColumn name definition =>
      obtain ⟨hname, hdefinition⟩ := List.forall_mem_cons.mp h
      obtain ⟨last, hlast, rfl⟩ := Option.map_eq_some_iff.mp (Option.mem_toList.mp hf)
      obtain ⟨d, hd, hcolumn⟩ := List.mem_flatMap.mp (List.mem_of_getLast? hlast)
      have hd' : ∀ text ∈ d.verbatim, Bare text := fun text ht =>
        hdefinition text (mem_verbatimOf.mpr ⟨d, hd, ht⟩)
      exact List.forall_mem_cons.mpr ⟨hname, bare_columns hd' last hcolumn⟩
  | _ => cases hf

mutual

theorem bare_constraints : ∀ {c : Call}, (∀ text ∈ c.verbatim, Bare text) →
    ∀ k ∈ c.constraints, ∀ text ∈ k.verbatim, Bare text
  | .column name _ edits, h, k, hk => by
      obtain ⟨edit, -, hsome⟩ := List.mem_filterMap.mp hk
      have hname := h name List.mem_cons_self
      cases edit with
      | modify modifier => cases hsome
      | unique | index | primary =>
          cases hsome
          exact fun text ht => List.mem_singleton.mp ht ▸ hname
  | .primary names, h, k, hk => by
      obtain ⟨name, hname, rfl⟩ := List.mem_map.mp hk
      exact fun text ht => List.mem_singleton.mp ht ▸ h name hname
  | .unique _, h, k, hk | .index _, h, k, hk | .check _, h, k, hk | .foreign _ _ _ _, h, k, hk => by
      rw [List.mem_singleton.mp hk]
      exact h
  | .changeColumn _ definition, h, k, hk =>
      bare_constraintsOf (List.forall_mem_cons.mp h).2 k hk
  | .timestamps, _, k, hk | .dropColumn _, _, k, hk | .renameColumn _ _, _, k, hk
  | .renameTable _, _, k, hk => by cases hk

theorem bare_constraintsOf : ∀ {calls : List Call}, (∀ text ∈ verbatimOf calls, Bare text) →
    ∀ k ∈ constraintsOf calls, ∀ text ∈ k.verbatim, Bare text
  | [], _, k, hk => by cases hk
  | c :: calls, h, k, hk => by
      obtain ⟨hc, hcalls⟩ := List.forall_mem_append.mp h
      rcases List.mem_append.mp hk with hk | hk
      · exact bare_constraints hc k hk
      · exact bare_constraintsOf hcalls k hk

end

/-- Each clause is closed, whatever the literals in it say. -/
theorem closed_clauses {calls : List Call} (h : ∀ text ∈ verbatimOf calls, Bare text) :
    ∀ clause ∈ clauses calls, Closed commas clause := by
  intro clause hclause
  rcases List.mem_append.mp hclause with hfragment | hconstraint
  · obtain ⟨f, hf, rfl⟩ := List.mem_map.mp hfragment
    obtain ⟨c, hc, hmem⟩ := List.mem_flatMap.mp hf
    have hcall : ∀ text ∈ c.verbatim, Bare text := fun text ht =>
      h text (mem_verbatimOf.mpr ⟨c, hc, ht⟩)
    exact Fragment.closed_sql (bare_fragments hcall f hmem)
  · exact closed_constraintClauses (bare_constraintsOf h) clause hconstraint

theorem clauses_ne_nil {calls : List Call} (h : calls.any declaresColumn = true) :
    clauses calls ≠ [] := by
  intro hnil
  have hfragments : fragmentsOf calls = [] :=
    List.map_eq_nil_iff.mp (List.append_eq_nil_iff.mp hnil).1
  have hcolumns : calls.flatMap columns = [] := by
    rw [← filterMap_column?_fragmentsOf, hfragments]
    rfl
  rw [flatMap_columns_eq_nil_iff.mp hcolumns] at h
  cases h

end Call

namespace Blueprint

/-- **No value reaches beyond its clause.**  Where names and expressions are bare, and whatever the
literals say, what follows the name of a table that is created is one list in parentheses: a scan of
it ends outside of literals, the depth is first back at zero behind its last character, and taking
it apart at the commas outside of literals and inner parentheses gives the clauses. -/
theorem createSql_parts (table : String) (calls : List Call) (sql : String)
    (bare : ∀ text ∈ Call.verbatimOf calls, Bare text)
    (h : (({ table } : Blueprint).run calls).createSql = .ok sql) :
    ∃ body : String, sql = "CREATE TABLE " ++ table ++ " " ++ ("(" ++ body ++ ")") ∧
      scan ⟨false, 0⟩ ("(" ++ body ++ ")").toList = ⟨false, 0⟩ ∧
      behindClosing ⟨false, 0⟩ ("(" ++ body ++ ")").toList = some [] ∧
      body = Sql.commaList (Call.clauses calls) ∧ parts body = Call.clauses calls := by
  have hnamed := named_of_createSql h
  rw [createSql_of_named hnamed, table_run, texts_run, hasColumns_run] at h
  cases hany : calls.any Call.declaresColumn with
  | false =>
      rw [hany] at h
      cases h
  | true =>
      rw [hany, if_pos rfl] at h
      have hclosed : Closed true (Sql.commaList (Call.clauses calls)) :=
        closed_commaList (Call.closed_clauses bare)
      obtain ⟨hscan, hclosing⟩ := scan_enclosed hclosed
      have hsplit : ∀ opening body : String, " " ++ "(" = opening →
          "CREATE TABLE " ++ table ++ opening ++ body ++ ")" =
            "CREATE TABLE " ++ table ++ " " ++ ("(" ++ body ++ ")") := by
        rintro _ body rfl
        simp only [String.append_assoc]
      refine ⟨Sql.commaList (Call.clauses calls), ?_, hscan, hclosing, rfl,
        parts_commaList (Call.clauses_ne_nil hany) (Call.closed_clauses bare)⟩
      rw [← Except.ok.inj h]
      exact hsplit _ _ (by decide)

/-- Quotes, commas and parentheses in a default, in a comment and in the values of an
enumeration. -/
theorem createSql_parts_quotes :
    let calls : List Call :=
      [.column "kind" (.enumeration ["it's", "), (", ""])
          [.modify (.default (.string "'), b TEXT, c ENUM('")), .modify (.comment "a, ')b(")],
        .changeColumn "cost" [.column "price" (.decimal 8 2) [.primary, .unique]],
        .column "id" .integer [.primary]]
    let clauses : List String :=
      ["kind ENUM('it''s', '), (', '') DEFAULT '''), b TEXT, c ENUM(''' COMMENT 'a, '')b('",
        "CHANGE COLUMN cost price DECIMAL(8, 2)", "id INT", "PRIMARY KEY (price, id)",
        "UNIQUE (price)"]
    let sql := "CREATE TABLE goods (" ++ Sql.commaList clauses ++ ")"
    (∀ text ∈ Call.verbatimOf calls, Bare text) ∧
      (({ table := "goods" } : Blueprint).run calls).createSql = .ok sql ∧
      ∃ body : String, sql = "CREATE TABLE goods " ++ ("(" ++ body ++ ")") ∧
        behindClosing ⟨false, 0⟩ ("(" ++ body ++ ")").toList = some [] ∧ parts body = clauses := by
  intro calls clauses sql
  have bare : ∀ text ∈ Call.verbatimOf calls, Bare text := by decide
  have hclauses : Call.clauses calls = clauses := by decide +kernel
  have hok : (({ table := "goods" } : Blueprint).run calls).createSql = .ok sql := by
    have hnamed : Text.isBlank (({ table := "goods" } : Blueprint).run calls).table = false := by
      rw [table_run]
      decide
    rw [createSql_of_named hnamed, table_run, texts_run, hasColumns_run, hclauses]
    exact if_pos (by decide)
  obtain ⟨body, hsql, -, hclosing, -, hparts⟩ := createSql_parts "goods" calls sql bare hok
  exact ⟨bare, hok, body, hsql, hclosing, hparts.trans hclauses⟩

end Blueprint

end Schema

end TableGateway
