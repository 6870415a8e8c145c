import TableGateway.Proofs.Text.Cutting
import TableGateway.Query

/-! # Reading statements

`content?` reads the text of an INSERT, an UPDATE, a DELETE or an EXISTS from left to right and says
what it was made of.  It finds its way by fixed words alone, and looks at no more of a condition than
where it starts; so a condition may say what it likes.

Where the table and the columns are names, it reads what was written (`content?_insert`,
`content?_update`, `content?_delete`, `content?_exists`). -/

namespace TableGateway.Query

open Text

/-! ### Reading -/

/-- What the text of a statement is made of. -/
structure Content where
  kind : StatementKind
  table : String
  columns : List String := []
  condition : Option String := none
  deriving DecidableEq, Repr

/-- Reads what stands behind an opening. -/
def after? (opening : String) (read : String → Option Content) (sql : String) : Option Content :=
  (behind? opening sql).bind read

/-- Reads an INSERT. -/
def insert? : String → Option Content :=
  after? "INSERT INTO " fun sql => do
    let (table, sql) ← cut? " (" sql
    let (columns, _) ← cut? ") VALUES (" sql
    return { kind := .insert, table, columns := parts columns }

/-- Reads an UPDATE.  Its assignments end at the first placeholder with no comma behind it. -/
def update? : String → Option Content :=
  after? "UPDATE " fun sql => do
    let (table, sql) ← cut? " SET " sql
    let (assignments, condition) ← cut? "? WHERE " sql
    let columns := (parts (assignments ++ "?")).map leadingName
    return { kind := .update, table, columns, condition }

/-- Reads a DELETE. -/
def delete? : String → Option Content :=
  after? "DELETE FROM " fun sql => do
    let (table, condition) ← cut? " WHERE " sql
    return { kind := .delete, table, condition }

/-- Reads an EXISTS.  The last character closes the parenthesis. -/
def exists? : String → Option Content :=
  after? "SELECT EXISTS (SELECT 1 FROM " fun sql => do
    let (table, condition) ← cut? " WHERE " sql
    return { kind := .exists, table, condition := String.ofList condition.toList.dropLast }

/-- Reads a statement of one of the four forms. -/
def content? (sql : String) : Option Content :=
  insert? sql <|> update? sql <|> delete? sql <|> exists? sql

theorem after?_append (opening : String) (read : String → Option Content) (t : String) :
    after? opening read (opening ++ t) = read t := by
  unfold after?
  rw [behind?_append, Option.bind_some]

theorem after?_append_of_ne {opening other : String} {read : String → Option Content} {c x : Char}
    {rest rest' : List Char} (hopening : opening.toList = x :: rest)
    (hother : other.toList = c :: rest') (h : c ≠ x) (t : String) :
    after? opening read (other ++ t) = none := by
  unfold after?
  rw [behind?_append_of_ne hopening hother h, Option.bind_none]

/-! ### Tables and columns -/

section text
variable {table : String} {columns : List String}

/-- A table ends at the first space. -/
theorem cut?_table {mark : String} {rest : List Char} (htable : Named table)
    (hmark : mark.toList = ' ' :: rest) (t : String) :
    cut? mark (table ++ (mark ++ t)) = some (table, t) :=
  cut?_append hmark (htable.lacks (by decide)) t

theorem parts_columns (hne : columns ≠ []) (h : ∀ column ∈ columns, Named column) :
    parts (Sql.commaList columns) = columns :=
  parts_commaList hne fun column hcolumn => (h column hcolumn).bare.closed

/-! ### Texts behind their openings -/

theorem insert_eq (table : String) (fields : Record) :
    Sql.insert table fields = "INSERT INTO " ++ (table ++ (" (" ++
      (Sql.commaList fields.columns ++ (") VALUES (" ++
        (Sql.commaList (fields.columns.map fun _ => Sql.placeholder) ++ ")"))))) := by
  unfold Sql.insert
  simp only [String.append_assoc]

/-- The assignment of a placeholder to a column. -/
def assignment (column : String) : String := column ++ " = " ++ Sql.placeholder

theorem update_eq (table : String) (fields : Record) (condition : String) :
    Sql.update table fields condition = "UPDATE " ++ (table ++ (" SET " ++
      (Sql.commaList (fields.columns.map assignment) ++ (" WHERE " ++ condition)))) := by
  show "UPDATE " ++ table ++ " SET " ++ Sql.commaList (fields.columns.map assignment) ++
    " WHERE " ++ condition = _
  simp only [String.append_assoc]

theorem delete_eq (table condition : String) :
    Sql.delete table condition = "DELETE FROM " ++ (table ++ (" WHERE " ++ condition)) := by
  unfold Sql.delete
  simp only [String.append_assoc]

theorem exists_eq (table condition : String) :
    Sql.exists table condition =
      "SELECT EXISTS (SELECT 1 FROM " ++ (table ++ (" WHERE " ++ (condition ++ ")"))) := by
  unfold Sql.exists
  simp only [String.append_assoc]

/-! ### Assignments -/

/-- A list of assignments ends where its last placeholder has no comma behind it. -/
theorem cut?_assignments (condition : String) : ∀ {columns : List String}, columns ≠ [] →
    (∀ column ∈ columns, Named column) → ∃ assignments,
      cut? "? WHERE " (Sql.commaList (columns.map assignment) ++ (" WHERE " ++ condition)) =
        some (assignments, condition) ∧
      assignments ++ "?" = Sql.commaList (columns.map assignment)
  | [], hne, _ => absurd rfl hne
  | [column], _, h => by
      -- The one placeholder is what the mark starts with.
      have hlacks : Lacks '?' (column ++ " = ") :=
        lacks_append.mpr ⟨(h column List.mem_cons_self).lacks (by decide), by decide⟩
      have hlist : Sql.commaList ([column].map assignment) = column ++ " = " ++ "?" :=
        String.intercalate_singleton
      have hsplit : "? WHERE " ++ condition = "?" ++ (" WHERE " ++ condition) := by
        rw [← String.append_assoc]
        rfl
      refine ⟨column ++ " = ", ?_, hlist.symm⟩
      rw [hlist, String.append_assoc, ← hsplit, cut?_append rfl hlacks]
  | first :: second :: rest, _, h => by
      obtain ⟨hfirst, hrest⟩ := List.forall_mem_cons.mp h
      -- The comma behind the first placeholder is where the mark would go on otherwise.
      obtain ⟨assignments, hcut, hlist⟩ := cut?_assignments condition (List.cons_ne_nil _ _) hrest
      have hlacks : Lacks '?' (first ++ " = ") :=
        lacks_append.mpr ⟨hfirst.lacks (by decide), by decide⟩
      have hcomma : ∀ t, cut? "? WHERE " ("?, " ++ t) =
          (cut? "? WHERE " t).map fun cut => ("?, " ++ cut.1, cut.2) :=
        cut?_falseStart rfl rfl (by decide) (by decide)
      have hsplit : ∀ t, "?, " ++ t = "?" ++ (", " ++ t) := by
        intro t
        rw [← String.append_assoc]
        rfl
      have hcons : Sql.commaList ((first :: second :: rest).map assignment) =
          first ++ " = " ++ ("?, " ++ Sql.commaList ((second :: rest).map assignment)) := by
        rw [hsplit, ← String.append_assoc, ← String.append_assoc]
        exact commaList_cons_cons ..
      refine ⟨first ++ " = " ++ ("?, " ++ assignments), ?_, ?_⟩
      · rw [hcons]
        generalize first ++ " = " = opening at hlacks ⊢
        rw [String.append_assoc, String.append_assoc, cut?_pass rfl hlacks, hcomma, hcut]
        rfl
      · rw [hcons, ← hlist]
        generalize first ++ " = " = opening
        rw [String.append_assoc, String.append_assoc]

theorem columns_assignments (hne : columns ≠ []) (h : ∀ column ∈ columns, Named column) :
    (parts (Sql.commaList (columns.map assignment))).map leadingName = columns := by
  have hne' : columns.map assignment ≠ [] := by simpa using hne
  have hclosed : ∀ s ∈ columns.map assignment, Closed false s := by
    intro s hs
    obtain ⟨column, hcolumn, rfl⟩ := List.mem_map.mp hs
    have hfixed : Bare " = " ∧ Bare Sql.placeholder := by decide
    have hbare : Bare (assignment column) :=
      bare_append.mpr ⟨bare_append.mpr ⟨(h column hcolumn).bare, hfixed.1⟩, hfixed.2⟩
    exact hbare.closed
  have hleading : ∀ column ∈ columns, leadingName (assignment column) = column := by
    intro column hcolumn
    have hequals : (" = " ++ Sql.placeholder).toList = [' ', '=', ' ', '?'] := rfl
    rw [assignment, String.append_assoc]
    exact leadingName_append (h column hcolumn) hequals (by decide)
  rw [parts_commaList hne' hclosed, List.map_map]
  exact (List.map_congr_left hleading).trans (List.map_id' columns)

/-! ### Each form read -/

theorem insert?_insert {fields : Record} (htable : Named table)
    (hcolumns : ∀ column ∈ fields.columns, Named column) (hne : fields.columns ≠ []) :
    insert? (Sql.insert table fields) =
      some { kind := .insert, table, columns := fields.columns } := by
  have hcutTable : ∀ t, cut? " (" (table ++ (" (" ++ t)) = some (table, t) :=
    cut?_table htable rfl
  have hclosing : Lacks ')' (Sql.commaList fields.columns) :=
    lacks_commaList (by decide) fun column h => (hcolumns column h).lacks (by decide)
  have hcutColumns : ∀ t, cut? ") VALUES (" (Sql.commaList fields.columns ++ (") VALUES (" ++ t)) =
      some (Sql.commaList fields.columns, t) := cut?_append rfl hclosing
  rw [insert_eq]
  simp only [insert?, after?_append, hcutTable, hcutColumns, Option.bind_eq_bind, Option.bind_some,
    Option.pure_def, parts_columns hne hcolumns]

theorem update?_update {fields : Record} (htable : Named table)
    (hcolumns : ∀ column ∈ fields.columns, Named column) (hne : fields.columns ≠ [])
    (condition : String) :
    update? (Sql.update table fields condition) =
      some { kind := .update, table, columns := fields.columns, condition } := by
  have hcutTable : ∀ t, cut? " SET " (table ++ (" SET " ++ t)) = some (table, t) :=
    cut?_table htable rfl
  obtain ⟨assignments, hcut, hlist⟩ := cut?_assignments condition hne hcolumns
  rw [update_eq]
  simp only [update?, after?_append, hcutTable, hcut, hlist, Option.bind_eq_bind, Option.bind_some,
    Option.pure_def, columns_assignments hne hcolumns]

theorem delete?_delete (htable : Named table) (condition : String) :
    delete? (Sql.delete table condition) = some { kind := .delete, table, condition } := by
  have hcut : ∀ t, cut? " WHERE " (table ++ (" WHERE " ++ t)) = some (table, t) :=
    cut?_table htable rfl
  rw [delete_eq]
  simp only [delete?, after?_append, hcut, Option.bind_eq_bind, Option.bind_some, Option.pure_def]

theorem exists?_exists (htable : Named table) (condition : String) :
    exists? (Sql.exists table condition) = some { kind := .exists, table, condition } := by
  have hcut : ∀ t, cut? " WHERE " (table ++ (" WHERE " ++ t)) = some (table, t) :=
    cut?_table htable rfl
  have hlast : String.ofList (condition ++ ")").toList.dropLast = condition := by
    have hclose : ")".toList = [')'] := rfl
    rw [String.toList_append, hclose, List.dropLast_concat, String.ofList_toList]
  rw [exists_eq]
  simp only [exists?, after?_append, hcut, hlast, Option.bind_eq_bind, Option.bind_some,
    Option.pure_def]

/-! ### The four forms told apart -/

theorem content?_insert {fields : Record} (htable : Named table)
    (hcolumns : ∀ column ∈ fields.columns, Named column) (hne : fields.columns ≠ []) :
    content? (Sql.insert table fields) =
      some { kind := .insert, table, columns := fields.columns } := by
  unfold content?
  rw [insert?_insert htable hcolumns hne]
  rfl

theorem content?_update {fields : Record} (htable : Named table)
    (hcolumns : ∀ column ∈ fields.columns, Named column) (hne : fields.columns ≠ [])
    (condition : String) :
    content? (Sql.update table fields condition) =
      some { kind := .update, table, columns := fields.columns, condition } := by
  have hinsert : insert? (Sql.update table fields condition) = none := by
    rw [update_eq]
    exact after?_append_of_ne rfl rfl (by decide) _
  unfold content?
  rw [hinsert, update?_update htable hcolumns hne]
  rfl

theorem content?_delete (htable : Named table) (condition : String) :
    content? (Sql.delete table condition) = some { kind := .delete, table, condition } := by
  have hother : insert? (Sql.delete table condition) = none ∧
      update? (Sql.delete table condition) = none := by
    rw [delete_eq]
    exact ⟨after?_append_of_ne rfl rfl (by decide) _, after?_append_of_ne rfl rfl (by decide) _⟩
  unfold content?
  rw [hother.1, hother.2, delete?_delete htable]
  rfl

theorem content?_exists (htable : Named table) (condition : String) :
    content? (Sql.exists table condition) = some { kind := .exists, table, condition } := by
  have hother : insert? (Sql.exists table condition) = none ∧
      update? (Sql.exists table condition) = none ∧ delete? (Sql.exists table condition) = none := by
    rw [exists_eq]
    exact ⟨after?_append_of_ne rfl rfl (by decide) _, after?_append_of_ne rfl rfl (by decide) _,
      after?_append_of_ne rfl rfl (by decide) _⟩
  unfold content?
  rw [hother.1, hother.2.1, hother.2.2, exists?_exists htable]
  rfl

end text

end TableGateway.Query
