import TableGateway.Proofs.Query.Placeholders
import TableGateway.Proofs.Query.Reading
import TableGateway.Proofs.Query.Refusal
import TableGateway.Record.Lemmas

/-! # Reading undoes compiling

The text of a statement gives back what went into it, and its values are those of the columns and
then those of the condition, in order: each column has the placeholder and the value with as many
before it (`ReadBack`).  So no two queries come out as the same text with the same values
(`readBack_compile`). -/

namespace TableGateway.Query

open Text

/-! ### Queries that can be read back -/

/-- The query is of one of the four forms, and the table and the columns are names. -/
inductive Legible (table : String) : Query → Prop
  | insert {fields : Record} :
      Named table → (∀ column ∈ fields.columns, Named column) → Legible table (.insert fields)
  | update {fields : Record} {c : Condition} :
      Named table → (∀ column ∈ fields.columns, Named column) → Legible table (.update fields c)
  | delete {c : Condition} : Named table → Legible table (.delete c)
  | exists {c : Condition} : Named table → Legible table (.exists c)

/-! ### Placeholders and columns -/

/-- The text in front of the placeholder of a column, behind those of the entries before it. -/
def leading (table : String) (q : Query) (before : List Entry) (column : String) : String :=
  match q with
  | insert fields =>
    "INSERT INTO " ++ table ++ " (" ++ Sql.commaList fields.columns ++ ") VALUES (" ++
      String.join (before.map fun _ => "?, ")
  | update _ _ =>
    "UPDATE " ++ table ++ " SET " ++ String.join (before.map fun e => e.1 ++ " = ?, ") ++
      (column ++ " = ")
  | _ => ""

/-- Texts with one placeholder each, one behind the other. -/
theorem placeholders_join {xs : List String}
    (h : ∀ s ∈ xs, Lacks quote s ∧ placeholders s = 1) :
    placeholders (String.join xs) = xs.length := by
  induction xs with
  | nil => rfl
  | cons s xs ih =>
      obtain ⟨⟨hquote, hone⟩, hxs⟩ := List.forall_mem_cons.mp h
      rw [String.join_cons, placeholders_append hquote, hone, ih hxs, List.length_cons, Nat.add_comm]

theorem plain_of_named {s : String} (h : Named s) : Plain s :=
  ⟨h.lacks (by decide), h.lacks (by decide)⟩

section placed
variable {table : String} {fields : Record} {before after : List Entry} {e : Entry}

theorem columns_of_entries (h : fields.entries = before ++ e :: after) :
    fields.columns = before.map Prod.fst ++ e.1 :: after.map Prod.fst := by
  unfold Record.columns
  rw [h, List.map_append, List.map_cons]

/-- The placeholder of a column in the list of values, which is as long as that of the columns. -/
theorem insert_eq_leading (h : fields.entries = before ++ e :: after) :
    ∃ right, Sql.insert table fields =
      leading table (.insert fields) before e.1 ++ "?" ++ right := by
  obtain ⟨right, hmarks⟩ : ∃ right, Sql.commaList (fields.columns.map fun _ => Sql.placeholder) =
      String.join (before.map fun _ => "?, ") ++ ("?" ++ right) := by
    rw [columns_of_entries h, List.map_append, List.map_cons, commaList_append_cons, List.map_map,
      List.map_map]
    exact ⟨_, rfl⟩
  refine ⟨right ++ ")", ?_⟩
  unfold Sql.insert leading
  rw [hmarks]
  simp only [String.append_assoc]

/-- The placeholder of a column in its assignment. -/
theorem update_eq_leading (h : fields.entries = before ++ e :: after) (c : Condition) :
    ∃ right, Sql.update table fields c.sql =
      leading table (.update fields c) before e.1 ++ "?" ++ right := by
  have hcomma : (fun d : Entry => assignment d.1 ++ ", ") = fun d => d.1 ++ " = ?, " := by
    funext d
    unfold assignment
    rw [String.append_assoc, String.append_assoc]
    rfl
  obtain ⟨right, hassignments⟩ : ∃ right, Sql.commaList (fields.columns.map assignment) =
      String.join (before.map fun d => d.1 ++ " = ?, ") ++ (assignment e.1 ++ right) := by
    rw [columns_of_entries h, List.map_append, List.map_cons, commaList_append_cons, List.map_map,
      List.map_map, ← hcomma]
    exact ⟨_, rfl⟩
  refine ⟨right ++ (" WHERE " ++ c.sql), ?_⟩
  rw [update_eq, hassignments]
  unfold leading assignment Sql.placeholder
  simp only [String.append_assoc]

theorem placeholders_leading_insert (htable : Named table)
    (hcolumns : ∀ column ∈ fields.columns, Named column) (column : String) :
    placeholders (leading table (.insert fields) before column) = before.length := by
  have hlist : Plain (Sql.commaList fields.columns) :=
    plain_commaList fun s hs => plain_of_named (hcolumns s hs)
  have hfixed : Plain "INSERT INTO " ∧ Plain " (" ∧ Plain ") VALUES (" := by decide
  have hhead : Plain ("INSERT INTO " ++ table ++ " (" ++ Sql.commaList fields.columns ++
      ") VALUES (") := by
    simp only [plain_append]
    exact ⟨⟨⟨⟨hfixed.1, plain_of_named htable⟩, hfixed.2.1⟩, hlist⟩, hfixed.2.2⟩
  have hone : ∀ s ∈ before.map fun _ => "?, ", Lacks quote s ∧ placeholders s = 1 := by
    intro s hs
    obtain ⟨d, -, rfl⟩ := List.mem_map.mp hs
    decide
  unfold leading
  rw [placeholders_plain_append hhead, placeholders_join hone, List.length_map]

theorem placeholders_leading_update (htable : Named table)
    (hbefore : ∀ d ∈ before, Named d.1) {column : String} (hcolumn : Named column) (c : Condition) :
    placeholders (leading table (.update fields c) before column) = before.length := by
  have hfixed : Plain "UPDATE " ∧ Plain " SET " := by decide
  have hhead : Plain ("UPDATE " ++ table ++ " SET ") := by
    simp only [plain_append]
    exact ⟨⟨hfixed.1, plain_of_named htable⟩, hfixed.2⟩
  have hone : ∀ s ∈ before.map fun d => d.1 ++ " = ?, ", Lacks quote s ∧ placeholders s = 1 := by
    intro s hs
    obtain ⟨d, hd, rfl⟩ := List.mem_map.mp hs
    have hplain := plain_of_named (hbefore d hd)
    have hrest : Lacks quote " = ?, " ∧ placeholders " = ?, " = 1 := by decide
    rw [placeholders_plain_append hplain]
    exact ⟨lacks_append.mpr ⟨hplain.1, hrest.1⟩, hrest.2⟩
  have hlast : Lacks mark (column ++ " = ") :=
    lacks_append.mpr ⟨(plain_of_named hcolumn).2, by decide⟩
  unfold leading
  rw [placeholders_append_markless _ hlast, placeholders_plain_append hhead, placeholders_join hone,
    List.length_map]

end placed

/-! ### Reading undoes compiling -/

/-- What is read off a statement of a query on a table. -/
structure ReadBack (table : String) (q : Query) (s : Statement) : Prop where
  content : content? s.sql =
    some ⟨s.kind, table, q.fields.columns, q.required.map Condition.sql⟩
  /-- The columns and the first values bound are the entries. -/
  entries : q.fields.columns.zip s.bindings = q.fields.entries
  /-- The values behind them are those of the condition. -/
  rest : s.bindings.drop q.fields.columns.length = bindings q.required
  /-- Each column has the placeholder, and the value bound, with as many before it. -/
  placed : ∀ before e after, q.fields.entries = before ++ e :: after →
    s.bindings[before.length]? = some e.2 ∧
    placeholders (leading table q before e.1) = before.length ∧
    ∃ right, s.sql = leading table q before e.1 ++ "?" ++ right

variable {table : String} {q : Query}

theorem readBack_insert {fields : Record} (htable : Named table)
    (hcolumns : ∀ column ∈ fields.columns, Named column) (hne : fields.entries ≠ []) :
    ReadBack table (.insert fields) ((Query.insert fields).statement table) where
  content := content?_insert htable hcolumns (Record.columns_ne_nil hne)
  entries := by
    have hzip := fields.zip_columns_values_append []
    rw [List.append_nil] at hzip
    exact hzip
  rest := by
    have hdrop := fields.drop_values_append []
    rw [List.append_nil] at hdrop
    exact hdrop
  placed := by
    intro before e after hentries
    have hvalue := Record.getElem?_values_append hentries []
    rw [List.append_nil] at hvalue
    exact ⟨hvalue, placeholders_leading_insert htable hcolumns e.1, insert_eq_leading hentries⟩

theorem readBack_update {fields : Record} (htable : Named table)
    (hcolumns : ∀ column ∈ fields.columns, Named column) (hne : fields.entries ≠ [])
    (c : Condition) :
    ReadBack table (.update fields c) ((Query.update fields c).statement table) where
  content := content?_update htable hcolumns (Record.columns_ne_nil hne) c.sql
  entries := fields.zip_columns_values_append c.bindings
  rest := fields.drop_values_append c.bindings
  placed := by
    intro before e after hentries
    have hsplit : ∀ column ∈ before.map Prod.fst ++ e.1 :: after.map Prod.fst, Named column := by
      rw [← columns_of_entries hentries]
      exact hcolumns
    have hbefore : ∀ d ∈ before, Named d.1 := fun d hd =>
      hsplit d.1 (List.mem_append_left _ (List.mem_map_of_mem hd))
    have hcolumn : Named e.1 := hsplit e.1 (List.mem_append_right _ List.mem_cons_self)
    exact ⟨Record.getElem?_values_append hentries c.bindings,
      placeholders_leading_update htable hbefore hcolumn c, update_eq_leading hentries c⟩

/-- Without fields there is nothing to place. -/
theorem readBack_of_fieldless {s : Statement} (hfields : q.fields.entries = [])
    (hcontent : content? s.sql = some ⟨s.kind, table, [], q.required.map Condition.sql⟩)
    (hbindings : s.bindings = bindings q.required) : ReadBack table q s := by
  have hcolumns : q.fields.columns = [] := by
    unfold Record.columns
    rw [hfields, List.map_nil]
  refine ⟨?_, ?_, ?_, ?_⟩
  · rw [hcolumns, hcontent]
  · rw [hcolumns, hfields, List.zip_nil_left]
  · rw [hcolumns, hbindings]
    rfl
  · intro before e after hentries
    rw [hfields] at hentries
    exact absurd hentries.symm (List.append_ne_nil_of_right_ne_nil _ (List.cons_ne_nil _ _))

theorem readBack_of_compile {s : Statement} (hlegible : Legible table q)
    (h : q.compile (some table) = .ok s) : ReadBack table q s := by
  obtain ⟨-, hcheck, rfl⟩ := compile_eq_ok_iff.mp h
  cases hlegible with
  | insert htable hcolumns =>
      obtain ⟨hne, -⟩ := Check.insertFields_eq_ok_iff.mp hcheck
      exact readBack_insert htable hcolumns hne
  | @update fields c htable hcolumns =>
      obtain ⟨hfields, -⟩ := check_update_eq_ok_iff.mp hcheck
      obtain ⟨hne, -⟩ := Check.updateFields_eq_ok_iff.mp hfields
      exact readBack_update htable hcolumns hne c
  | @delete c htable => exact readBack_of_fieldless rfl (content?_delete htable c.sql) rfl
  | @«exists» c htable => exact readBack_of_fieldless rfl (content?_exists htable c.sql) rfl

/-! ### Queries told apart -/

theorem required_ext {c d : Option Condition} (hsql : c.map Condition.sql = d.map Condition.sql)
    (hbindings : bindings c = bindings d) : c = d := by
  cases c with
  | none =>
      cases d with
      | none => rfl
      | some d => cases hsql
  | some c =>
      cases d with
      | none => cases hsql
      | some d =>
          obtain ⟨sql, values⟩ := c
          obtain ⟨sql', values'⟩ := d
          obtain rfl : sql = sql' := Option.some.inj hsql
          obtain rfl : values = values' := hbindings
          rfl

/-- A query that can be read back is a matter of its form, its fields and its condition. -/
theorem Legible.ext {table' : String} {q' : Query} (h : Legible table q) (h' : Legible table' q')
    (hkind : (q.statement table).kind = (q'.statement table').kind) (hfields : q.fields = q'.fields)
    (hrequired : q.required = q'.required) : q = q' := by
  cases h with
  | insert =>
      cases h' with
      | insert => exact congrArg Query.insert hfields
      | _ => cases hkind
  | update =>
      cases h' with
      | update =>
          obtain rfl := hfields
          obtain rfl := Option.some.inj hrequired
          rfl
      | _ => cases hkind
  | delete =>
      cases h' with
      | delete => exact congrArg Query.delete (Option.some.inj hrequired)
      | _ => cases hkind
  | «exists» =>
      cases h' with
      | «exists» => exact congrArg Query.exists (Option.some.inj hrequired)
      | _ => cases hkind

/-- Statements that are read back the same are of the same query. -/
theorem ReadBack.unique {table' : String} {q' : Query} (hlegible : Legible table q)
    (hlegible' : Legible table' q') (h : ReadBack table q (q.statement table))
    (h' : ReadBack table' q' (q'.statement table'))
    (hsql : (q'.statement table').sql = (q.statement table).sql)
    (hbindings : (q'.statement table').bindings = (q.statement table).bindings) :
    table' = table ∧ q' = q := by
  have hcontent := h'.content
  rw [hsql, h.content, Option.some.injEq, Content.mk.injEq] at hcontent
  obtain ⟨hkind, rfl, hcolumns, hcondition⟩ := hcontent
  have hfields : q'.fields = q.fields := by
    apply Record.ext
    rw [← h.entries, ← h'.entries, hbindings, hcolumns]
  have hrest : bindings q'.required = bindings q.required := by
    rw [← h.rest, ← h'.rest, hbindings, hcolumns]
  have hrequired := required_ext hcondition.symm hrest
  exact ⟨rfl, hlegible'.ext hlegible hkind.symm hfields hrequired⟩

/-- **Nothing is lost in a statement.**  An INSERT, an UPDATE, a DELETE or an EXISTS whose table and
columns are names can be read back, with each placeholder and each value at its column, whatever the
condition says; and no other such query, on this table or another, comes out as the same text with
the same values. -/
theorem readBack_compile {s : Statement} (hlegible : Legible table q)
    (h : q.compile (some table) = .ok s) :
    ReadBack table q s ∧
      ∀ table' q' s', Legible table' q' → q'.compile (some table') = .ok s' →
        s'.sql = s.sql → s'.bindings = s.bindings → table' = table ∧ q' = q := by
  refine ⟨readBack_of_compile hlegible h, ?_⟩
  intro table' q' s' hlegible' h' hsql hbindings
  have hread := readBack_of_compile hlegible h
  have hread' := readBack_of_compile hlegible' h'
  obtain ⟨-, -, rfl⟩ := compile_eq_ok_iff.mp h
  obtain ⟨-, -, rfl⟩ := compile_eq_ok_iff.mp h'
  exact hread.unique hlegible hlegible' hread' hsql hbindings

/-- A column that is called as the word behind the list, and a condition that says the same as the
text before it. -/
theorem readBack_compile_where :
    let c : Condition := ⟨"note = ' = ? WHERE ' OR id = ?", [.int 7]⟩
    let q : Query := .update (.ofList [("name", .text "Ana"), ("WHERE", .null)]) c
    let s : Statement :=
      ⟨.update, "UPDATE users SET name = ?, WHERE = ? WHERE note = ' = ? WHERE ' OR id = ?",
        [.text "Ana", .null, .int 7]⟩
    Legible "users" q ∧ q.compile (some "users") = .ok s ∧
      content? s.sql = some ⟨.update, "users", ["name", "WHERE"], some c.sql⟩ ∧
      ["name", "WHERE"].zip s.bindings = [("name", .text "Ana"), ("WHERE", .null)] ∧
      s.bindings.drop 2 = [.int 7] ∧
      (∃ right, s.sql = "UPDATE users SET name = ?, WHERE = " ++ "?" ++ right) ∧
      ∀ table' q' s', Legible table' q' → q'.compile (some table') = .ok s' →
        s'.sql = s.sql → s'.bindings = s.bindings → table' = "users" ∧ q' = q := by
  intro c q s
  have hlegible : Legible "users" q := .update (by decide) (by decide)
  have hcompile : q.compile (some "users") = .ok s := by decide
  obtain ⟨hread, hunique⟩ := readBack_compile hlegible hcompile
  have hentries : q.fields.entries = [("name", .text "Ana")] ++ ("WHERE", .null) :: [] := by rfl
  obtain ⟨-, -, hplaced⟩ := hread.placed _ _ _ hentries
  exact ⟨hlegible, hcompile, hread.content, hread.entries, hread.rest, hplaced, hunique⟩

end TableGateway.Query
