import TableGateway.Proofs.Query.Accepted
import TableGateway.Proofs.Text.Outside

/-! # Placeholders and values

The statement of a query has one placeholder for each value, provided that its condition has.
`placeholders_insert` and its siblings count the placeholders of each form of statement, whatever
the text of the condition; `placeholders_compile` compares the count with the values bound. -/

namespace TableGateway

open Text

/-! ### Conditions built by calls -/

namespace Condition

/-- One call that binds values to a condition. -/
inductive Binding where
  | one (value : Value)
  | all (values : List Value)
  deriving DecidableEq, Repr

/-- The values of a call. -/
def Binding.values : Binding → List Value
  | one value => [value]
  | all values => values

/-- Makes one call. -/
def apply (c : Condition) : Binding → Condition
  | .one value => c.bind value
  | .all values => c.bindAll values

/-- The condition that calls build on a text. -/
def build (sql : String) (calls : List Binding) : Condition := calls.foldl apply { sql }

theorem foldl_apply (calls : List Binding) (c : Condition) :
    calls.foldl apply c = ⟨c.sql, c.bindings ++ calls.flatMap Binding.values⟩ := by
  induction calls generalizing c with
  | nil => simp
  | cons call calls ih =>
      rw [List.foldl_cons, ih, List.flatMap_cons]
      cases call with
      | one value => simp [apply, bind, toValue, Binding.values]
      | all values => simp [apply, bindAll, toValue, Binding.values]

/-- Values stand in the order of the calls that bound them. -/
theorem build_eq (sql : String) (calls : List Binding) :
    build sql calls = ⟨sql, calls.flatMap Binding.values⟩ := by
  unfold build
  rw [foldl_apply, List.nil_append]

end Condition

/-! ### The parts of a query -/

namespace Query

/-- The fields that a query writes. -/
def fields : Query → Record
  | insert fields | update fields _ => fields
  | _ => {}

/-- The condition that a query is given. -/
def given : Query → Option Condition
  | select c | selectWith c _ | update _ c | delete c | .exists c => some c
  | selectFields _ c | count c => c
  | insert _ | truncate => none

/-- The condition that comes into the statement, which a blank one does not. -/
def rendered (q : Query) : Option Condition := q.given.filter fun c => !c.isBlank

/-- The texts that come into the statement as they are, apart from conditions and options. -/
def names (table : String) : Query → List String
  | insert fields | update fields _ => table :: fields.columns
  | selectFields list _ => [table, list]
  | _ => [table]

/-- The texts of the options. -/
def trailers : Query → List String
  | selectWith _ options => options.groupBy.toList ++ options.orderBy.toList
  | _ => []

end Query

/-! ### Text with neither quote nor placeholder -/

/-- The text has neither a quote nor a placeholder. -/
def Plain (s : String) : Prop := Lacks quote s ∧ Lacks mark s

instance (s : String) : Decidable (Plain s) :=
  inferInstanceAs (Decidable (Lacks quote s ∧ Lacks mark s))

theorem plain_append {s t : String} : Plain (s ++ t) ↔ Plain s ∧ Plain t := by
  unfold Plain
  rw [lacks_append, lacks_append, and_and_and_comm]

theorem plain_commaList {parts : List String} (h : ∀ s ∈ parts, Plain s) :
    Plain (Sql.commaList parts) :=
  ⟨lacks_commaList (by decide) fun s hs => (h s hs).1,
    lacks_commaList (by decide) fun s hs => (h s hs).2⟩

theorem placeholders_plain {s : String} (h : Plain s) : placeholders s = 0 :=
  placeholders_of_markless h.2

/-- Plain text in front changes nothing. -/
theorem placeholders_plain_append {s : String} (h : Plain s) (t : String) :
    placeholders (s ++ t) = placeholders t := by
  rw [placeholders_append h.1, placeholders_plain h, Nat.zero_add]

/-- A list with one placeholder to each part. -/
theorem placeholders_commaList_map {α : Type} (f : α → String) (xs : List α)
    (h : ∀ x ∈ xs, Lacks quote (f x) ∧ placeholders (f x) = 1) :
    placeholders (Sql.commaList (xs.map f)) = xs.length := by
  have hq : ∀ s ∈ xs.map f, Lacks quote s := by
    intro s hs
    obtain ⟨x, hx, rfl⟩ := List.mem_map.mp hs
    exact (h x hx).1
  have hone : (xs.map f).map placeholders = List.replicate xs.length 1 := by
    rw [List.map_map, List.eq_replicate_iff]
    refine ⟨List.length_map .., fun n hn => ?_⟩
    obtain ⟨x, hx, rfl⟩ := List.mem_map.mp hn
    exact (h x hx).2
  rw [placeholders_commaList hq, hone, List.sum_replicate_nat, Nat.mul_one]

/-! ### Optional clauses -/

theorem markless_optionalClause {keyword : String} {text : Option String}
    (hkeyword : Lacks mark keyword) (htext : ∀ t ∈ text, Lacks mark t) :
    Lacks mark (Sql.optionalClause keyword text) := by
  cases text with
  | none => exact List.not_mem_nil
  | some t =>
      cases hblank : isBlank t with
      | true =>
          rw [Sql.optionalClause_of_isBlank hblank]
          exact List.not_mem_nil
      | false =>
          rw [Sql.optionalClause_of_isBlank_eq_false hblank]
          exact lacks_append.mpr ⟨hkeyword, htext t rfl⟩

theorem markless_limitClause (limit : Option UInt64) : Lacks mark (Sql.limitClause limit) := by
  cases limit with
  | none => exact List.not_mem_nil
  | some rows =>
      by_cases hzero : rows = 0
      · rw [Sql.limitClause, if_pos hzero]
        exact List.not_mem_nil
      · rw [Sql.limitClause, if_neg hzero, lacks_append]
        refine ⟨by decide, fun hmem => ?_⟩
        rw [Nat.toList_repr] at hmem
        have hdigit := Nat.isDigit_of_mem_toDigits (by decide) (by decide) hmem
        exact absurd hdigit (by decide)

/-- The clause of a condition that may be left out is there exactly when the condition counts. -/
theorem optionalClause_effective (keyword : String) (condition : Option Condition) :
    Sql.optionalClause keyword ((Query.effective condition).map Condition.sql) =
      ((Query.effective condition).map fun c => keyword ++ c.sql).getD "" := by
  cases h : Query.effective condition with
  | none => rfl
  | some c =>
      have hblank : c.isBlank = false := by
        have hc := (Option.filter_eq_some_iff.mp h).2
        simpa using hc
      exact Sql.optionalClause_of_isBlank_eq_false hblank

/-! ### The forms of statements -/

section forms
variable {table : String} (htable : Plain table)
include htable

theorem placeholders_insert {fields : Record} (h : ∀ column ∈ fields.columns, Plain column) :
    placeholders (Sql.insert table fields) = fields.size := by
  have hhead : Plain ("INSERT INTO " ++ table ++ " (" ++ Sql.commaList fields.columns ++
      ") VALUES (") := by
    simp only [plain_append, htable, plain_commaList h, and_true]
    decide
  have hone : Lacks quote Sql.placeholder ∧ placeholders Sql.placeholder = 1 := by decide
  have hmarks := placeholders_commaList_map (fun _ => Sql.placeholder) fields.columns
    fun _ _ => hone
  unfold Sql.insert
  rw [placeholders_append_markless _ (by decide), placeholders_plain_append hhead, hmarks,
    Record.length_columns]

theorem placeholders_update {fields : Record} (h : ∀ column ∈ fields.columns, Plain column)
    (condition : String) :
    placeholders (Sql.update table fields condition) = fields.size + placeholders condition := by
  have hhead : Plain ("UPDATE " ++ table ++ " SET ") := by
    simp only [plain_append, htable, and_true]
    decide
  have hone : ∀ column ∈ fields.columns, Lacks quote (column ++ " = " ++ Sql.placeholder) ∧
      placeholders (column ++ " = " ++ Sql.placeholder) = 1 := by
    intro column hcolumn
    have hplain : Plain (column ++ " = ") := plain_append.mpr ⟨h column hcolumn, by decide⟩
    refine ⟨lacks_append.mpr ⟨hplain.1, by decide⟩, ?_⟩
    rw [placeholders_plain_append hplain]
    decide
  have hset := placeholders_commaList_map (fun column => column ++ " = " ++ Sql.placeholder)
    fields.columns hone
  have hquote : Lacks quote ("UPDATE " ++ table ++ " SET " ++
      Sql.commaList (fields.columns.map fun column => column ++ " = " ++ Sql.placeholder) ++
      " WHERE ") := by
    rw [lacks_append, lacks_append]
    refine ⟨⟨hhead.1, lacks_commaList (by decide) fun s hs => ?_⟩, by decide⟩
    obtain ⟨column, hcolumn, rfl⟩ := List.mem_map.mp hs
    exact (hone column hcolumn).1
  unfold Sql.update
  rw [placeholders_append hquote, placeholders_append_markless _ (by decide),
    placeholders_plain_append hhead, hset, Record.length_columns]

theorem placeholders_select (condition : String) :
    placeholders (Sql.select table condition) = placeholders condition := by
  have hhead : Plain ("SELECT * FROM " ++ table ++ " WHERE ") := by
    simp only [plain_append, htable, and_true]
    decide
  unfold Sql.select
  rw [placeholders_plain_append hhead]

/-- The options follow the condition, so that they must not have a placeholder, but may have
quotes. -/
theorem placeholders_selectWith (condition : String) {options : SelectOptions}
    (h : ∀ text ∈ options.groupBy.toList ++ options.orderBy.toList, Lacks mark text) :
    placeholders (Sql.selectWith table condition options) = placeholders condition := by
  have hgroup : Lacks mark (Sql.optionalClause " GROUP BY " options.groupBy) :=
    markless_optionalClause (by decide) fun t ht =>
      h t (List.mem_append_left _ (Option.mem_toList.mpr ht))
  have horder : Lacks mark (Sql.optionalClause " ORDER BY " options.orderBy) :=
    markless_optionalClause (by decide) fun t ht =>
      h t (List.mem_append_right _ (Option.mem_toList.mpr ht))
  unfold Sql.selectWith
  rw [placeholders_append_markless _ (markless_limitClause options.limit),
    placeholders_append_markless _ horder, placeholders_append_markless _ hgroup,
    placeholders_select htable]

theorem placeholders_delete (condition : String) :
    placeholders (Sql.delete table condition) = placeholders condition := by
  have hhead : Plain ("DELETE FROM " ++ table ++ " WHERE ") := by
    simp only [plain_append, htable, and_true]
    decide
  unfold Sql.delete
  rw [placeholders_plain_append hhead]

theorem placeholders_exists (condition : String) :
    placeholders (Sql.exists table condition) = placeholders condition := by
  have hhead : Plain ("SELECT EXISTS (SELECT 1 FROM " ++ table ++ " WHERE ") := by
    simp only [plain_append, htable, and_true]
    decide
  unfold Sql.exists
  rw [placeholders_append_markless _ (by decide), placeholders_plain_append hhead]

end forms

/-- The placeholders of plain text with a condition that may be left out. -/
theorem placeholders_optional {head : String} (hhead : Plain head) (condition : Option Condition) :
    placeholders (head ++
        Sql.optionalClause " WHERE " ((Query.effective condition).map Condition.sql)) =
      ((Query.effective condition).map fun c => placeholders c.sql).getD 0 := by
  rw [optionalClause_effective, placeholders_plain_append hhead]
  cases Query.effective condition with
  | none => rfl
  | some c => exact placeholders_plain_append (by decide) c.sql

/-! ### Statements -/

namespace Query

/-- A condition that passes its check comes into the statement. -/
theorem effective_of_check {c : Condition} (h : Check.condition c.sql = .ok ()) :
    effective (some c) = some c :=
  effective_of_isBlank_eq_false (Check.condition_eq_ok_iff.mp h)

/-- The placeholders of a statement are one for each field and those of its condition. -/
theorem placeholders_statement {table : String} {q : Query} (hcheck : q.check = .ok ())
    (hnames : ∀ name ∈ q.names table, Plain name)
    (htrailers : ∀ text ∈ q.trailers, Lacks mark text) :
    placeholders (q.statement table).sql =
      q.fields.size + (q.rendered.map fun c => placeholders c.sql).getD 0 := by
  have htable : Plain table := hnames table (by cases q <;> exact List.mem_cons_self)
  cases q with
  | insert fields =>
      exact placeholders_insert htable fun column h => hnames column (List.mem_cons_of_mem _ h)
  | update fields c =>
      have hrendered : (update fields c).rendered = some c :=
        effective_of_check (check_update_eq_ok_iff.mp hcheck).2
      rw [hrendered]
      exact placeholders_update htable
        (fun column h => hnames column (List.mem_cons_of_mem _ h)) c.sql
  | select c =>
      have hrendered : (select c).rendered = some c := effective_of_check hcheck
      rw [hrendered]
      exact (placeholders_select htable c.sql).trans (Nat.zero_add _).symm
  | selectWith c options =>
      have hrendered : (selectWith c options).rendered = some c := effective_of_check hcheck
      rw [hrendered]
      exact (placeholders_selectWith htable c.sql htrailers).trans (Nat.zero_add _).symm
  | delete c =>
      have hrendered : (delete c).rendered = some c := effective_of_check hcheck
      rw [hrendered]
      exact (placeholders_delete htable c.sql).trans (Nat.zero_add _).symm
  | «exists» c =>
      have hrendered : (Query.exists c).rendered = some c := effective_of_check hcheck
      rw [hrendered]
      exact (placeholders_exists htable c.sql).trans (Nat.zero_add _).symm
  | selectFields list condition =>
      have hlist : Plain list := hnames list (List.mem_cons_of_mem _ List.mem_cons_self)
      have hhead : Plain ("SELECT " ++ list ++ " FROM " ++ table) := by
        simp only [plain_append, htable, hlist, and_true]
        decide
      rw [show (selectFields list condition).fields.size = 0 from rfl, Nat.zero_add]
      exact placeholders_optional hhead condition
  | count condition =>
      have hhead : Plain ("SELECT COUNT(*) FROM " ++ table) :=
        plain_append.mpr ⟨by decide, htable⟩
      rw [show (count condition).fields.size = 0 from rfl, Nat.zero_add]
      exact placeholders_optional hhead condition
  | truncate => exact placeholders_plain (plain_append.mpr ⟨by decide, htable⟩)

/-- A statement binds the values of the fields and then those of its condition. -/
theorem bindings_statement {table : String} {q : Query} (hcheck : q.check = .ok ()) :
    (q.statement table).bindings = q.fields.values ++ bindings q.rendered := by
  cases q with
  | insert fields => exact (List.append_nil _).symm
  | update fields c =>
      have hrendered : (update fields c).rendered = some c :=
        effective_of_check (check_update_eq_ok_iff.mp hcheck).2
      rw [hrendered]
      rfl
  | select c | selectWith c _ | delete c | «exists» c =>
      show _ = [] ++ bindings (effective (some c))
      rw [effective_of_check hcheck]
      rfl
  | selectFields _ _ | count _ | truncate => rfl

theorem length_bindings_statement {table : String} {q : Query} (hcheck : q.check = .ok ()) :
    (q.statement table).bindings.length =
      q.fields.size + (q.rendered.map fun c => c.bindings.length).getD 0 := by
  rw [bindings_statement hcheck, List.length_append, Record.length_values]
  cases q.rendered <;> rfl

/-- Two counts over what is rendered agree exactly when nothing was given, or it is blank, or they
agree on what was given. -/
theorem rendered_count_eq_iff (q : Query) (f g : Condition → Nat) :
    (q.rendered.map f).getD 0 = (q.rendered.map g).getD 0 ↔
      q.given = none ∨ ∃ c, q.given = some c ∧ (c.isBlank = true ∨ f c = g c) := by
  unfold rendered
  cases q.given with
  | none => simp
  | some c =>
      cases hblank : c.isBlank with
      | true => simp [Option.filter, hblank]
      | false => simp [Option.filter, hblank]

/-- **Placeholders and values.**  Where only the condition may have quotes and placeholders of its
own, a statement has one placeholder for each field and those of its condition, binds the values of
the fields and then those of the condition, and has as many of the one as of the other exactly when
the condition has, or none is rendered. -/
theorem placeholders_compile (table : String) (q : Query) (s : Statement)
    (hnames : ∀ name ∈ q.names table, Plain name)
    (htrailers : ∀ text ∈ q.trailers, Lacks mark text) (h : q.compile (some table) = .ok s) :
    placeholders s.sql = q.fields.size + (q.rendered.map fun c => placeholders c.sql).getD 0 ∧
      s.bindings = q.fields.values ++ bindings q.rendered ∧
      (∀ sql calls, q.rendered = some (Condition.build sql calls) →
        s.bindings = q.fields.values ++ calls.flatMap Condition.Binding.values) ∧
      (placeholders s.sql = s.bindings.length ↔
        q.given = none ∨ ∃ c, q.given = some c ∧
          (c.isBlank = true ∨ placeholders c.sql = c.bindings.length)) := by
  obtain ⟨-, hcheck, rfl⟩ := compile_eq_ok_iff.mp h
  have hmarks := placeholders_statement hcheck hnames htrailers
  have hvalues : (q.statement table).bindings = q.fields.values ++ bindings q.rendered :=
    bindings_statement hcheck
  refine ⟨hmarks, hvalues, ?_, ?_⟩
  · intro sql calls hbuilt
    rw [hvalues, hbuilt, Condition.build_eq]
    rfl
  · rw [hmarks, length_bindings_statement hcheck, Nat.add_left_cancel_iff]
    exact q.rendered_count_eq_iff _ _

/-- A condition that ends inside of a literal. -/
theorem placeholders_compile_open_literal :
    let q : Query := .update (.ofList [("name", .text "Bob"), ("age", .null)])
      (.build "id IN (?, ?) AND note = 'why?" [.one (.int 7), .all [.int 8]])
    let s : Statement :=
      ⟨.update, "UPDATE users SET name = ?, age = ? WHERE id IN (?, ?) AND note = 'why?",
        [.text "Bob", .null, .int 7, .int 8]⟩
    ((∀ name ∈ q.names "users", Plain name) ∧ (∀ text ∈ q.trailers, Lacks mark text) ∧
        q.compile (some "users") = .ok s) ∧
      placeholders s.sql = 4 ∧ placeholders s.sql = s.bindings.length := by
  intro q s
  have hnames : ∀ name ∈ q.names "users", Plain name := by decide
  have htrailers : ∀ text ∈ q.trailers, Lacks mark text := by decide
  have hcompile : q.compile (some "users") = .ok s := by rfl
  obtain ⟨hmarks, -, -, heq⟩ := placeholders_compile "users" q s hnames htrailers hcompile
  refine ⟨⟨hnames, htrailers, hcompile⟩, ?_, ?_⟩
  · rw [hmarks]
    decide
  · exact heq.mpr (.inr ⟨_, rfl, .inr (by decide)⟩)

end Query

end TableGateway
