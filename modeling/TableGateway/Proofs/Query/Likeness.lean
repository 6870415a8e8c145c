import Mathlib.Data.List.Forall2
import TableGateway.Proofs.Query.Placeholders
import TableGateway.Record.Lemmas

/-! # Queries that differ in their values

`Query.Like` relates queries that are the same but for the values in them; what two inserts write
must be null in the same places.  Such queries are refused for the same fault, or their statements
are `Twin`: they have the same text and bind equally many values.

How the values are related is left open.  Whatever relation holds, place by place, between the
values that come into the queries (`Query.inputs`), holds between those that their statements bind
(`Query.Like.compile`). -/

namespace TableGateway

/-- Both values are null or neither is. -/
def SameNull (v w : Value) : Prop := v.isNull = w.isNull

variable {P : Value → Value → Prop}

theorem forall₂_of_append {first second first' second' : List Value}
    (h : List.Forall₂ P (first ++ second) (first' ++ second'))
    (hlength : first.length = first'.length) :
    List.Forall₂ P first first' ∧ List.Forall₂ P second second' := by
  have htake := List.forall₂_take_append _ _ _ h
  have hdrop := List.forall₂_drop_append _ _ _ h
  rw [← hlength, List.take_left] at htake
  rw [← hlength, List.drop_left] at hdrop
  exact ⟨htake, hdrop⟩

/-! ### Records -/

/-- The entries are of the same column and have related values. -/
def Entry.Related (P : Value → Value → Prop) (e f : Entry) : Prop := e.1 = f.1 ∧ P e.2 f.2

namespace Entry

theorem forall₂_related_iff {entries others : List Entry} :
    List.Forall₂ (Related P) entries others ↔
      entries.map Prod.fst = others.map Prod.fst ∧
        List.Forall₂ P (entries.map Prod.snd) (others.map Prod.snd) := by
  induction entries generalizing others with
  | nil => cases others <;> simp
  | cons e entries ih =>
      cases others with
      | nil => simp
      | cons f others =>
          simp only [List.forall₂_cons, List.map_cons, List.cons.injEq, ih]
          exact and_and_and_comm

theorem find?_related {entries others : List Entry} (h : List.Forall₂ (Related P) entries others)
    (column : String) :
    Option.Rel P ((entries.find? fun e => e.1 == column).map Prod.snd)
      ((others.find? fun e => e.1 == column).map Prod.snd) := by
  induction h with
  | nil => exact .none
  | @cons e f entries others hef _ ih =>
      obtain ⟨hcolumn, hvalue⟩ := hef
      by_cases hf : f.1 = column
      · simpa [hcolumn, hf] using Option.Rel.some hvalue
      · simpa [hcolumn, hf] using ih

end Entry

namespace Record

/-- The records have the same columns, with values that are related column by column. -/
def Related (P : Value → Value → Prop) (a b : Record) : Prop :=
  List.Forall₂ (Entry.Related P) a.entries b.entries

variable {a b : Record}

theorem related_iff :
    a.Related P b ↔ a.columns = b.columns ∧ List.Forall₂ P a.values b.values :=
  Entry.forall₂_related_iff

theorem Related.columns (h : a.Related P b) : a.columns = b.columns := (related_iff.mp h).1

theorem Related.values (h : a.Related P b) : List.Forall₂ P a.values b.values :=
  (related_iff.mp h).2

theorem length_values_of_columns (h : a.columns = b.columns) :
    a.values.length = b.values.length := by
  rw [length_values_eq_length_columns, length_values_eq_length_columns, h]

theorem Related.filter (h : a.Related P b) (keep : String → Bool) :
    (a.filter keep).Related P (b.filter keep) := by
  refine List.rel_filter ?_ h
  rintro ⟨column, v⟩ ⟨column', w⟩ ⟨rfl, -⟩
  exact Iff.rfl

/-- A column has a value in both records or in neither, and then the values are related. -/
theorem Related.get? (h : a.Related P b) (column : String) :
    Option.Rel P (a.get? column) (b.get? column) := Entry.find?_related h column

theorem isEmpty_eq (r : Record) : r.isEmpty = r.columns.isEmpty := List.isEmpty_map.symm

end Record

/-! ### Conditions -/

/-- The conditions have the same text and equally many values. -/
def Condition.Like (c d : Condition) : Prop :=
  c.sql = d.sql ∧ c.bindings.length = d.bindings.length

namespace Query

variable {c d : Option Condition}

theorem length_bindings_of_like (h : Option.Rel Condition.Like c d) :
    (bindings c).length = (bindings d).length := by
  cases h with
  | none => rfl
  | some h => exact h.2

theorem map_sql_of_like (h : Option.Rel Condition.Like c d) :
    c.map Condition.sql = d.map Condition.sql := by
  cases h with
  | none => rfl
  | some h => exact congrArg some h.1

/-- Of conditions with the same text both are left out for being blank, or neither is. -/
theorem effective_of_like (h : Option.Rel Condition.Like c d) :
    (effective c = none ∧ effective d = none) ∨ (effective c = c ∧ effective d = d) := by
  cases h with
  | none => exact .inl ⟨rfl, rfl⟩
  | @some c d h =>
      have hblank : c.isBlank = d.isBlank := congrArg Text.isBlank h.1
      cases hd : d.isBlank with
      | true => simp [effective, Option.filter, hblank, hd]
      | false => simp [effective, Option.filter, hblank, hd]

end Query

/-! ### Queries -/

namespace Query

/-- The queries are the same but for their values. -/
inductive Like : Query → Query → Prop
  | insert {a b : Record} : a.Related SameNull b → Like (.insert a) (.insert b)
  | select {c d : Condition} : c.Like d → Like (.select c) (.select d)
  | selectWith {c d : Condition} (options : SelectOptions) :
      c.Like d → Like (.selectWith c options) (.selectWith d options)
  | selectFields {c d : Option Condition} (list : String) :
      Option.Rel Condition.Like c d → Like (.selectFields list c) (.selectFields list d)
  | update {a b : Record} {c d : Condition} :
      a.columns = b.columns → c.Like d → Like (.update a c) (.update b d)
  | delete {c d : Condition} : c.Like d → Like (.delete c) (.delete d)
  | count {c d : Option Condition} : Option.Rel Condition.Like c d → Like (.count c) (.count d)
  | exists {c d : Condition} : c.Like d → Like (.exists c) (.exists d)
  | truncate : Like .truncate .truncate

/-- The values that come into a query: those of its fields, then those of its condition. -/
def inputs (q : Query) : List Value := q.fields.values ++ bindings q.given

namespace Like

variable {q p : Query}

theorem columns (h : q.Like p) : q.fields.columns = p.fields.columns := by
  cases h with
  | insert h => exact h.columns
  | update h _ => exact h
  | select | selectWith | selectFields | delete | count | «exists» | truncate => rfl

theorem given (h : q.Like p) : Option.Rel Condition.Like q.given p.given := by
  cases h with
  | insert _ => exact .none
  | truncate => exact .none
  | select h => exact .some h
  | selectWith _ h => exact .some h
  | update _ h => exact .some h
  | delete h => exact .some h
  | «exists» h => exact .some h
  | selectFields _ h => exact h
  | count h => exact h

theorem length_inputs (h : q.Like p) : q.inputs.length = p.inputs.length := by
  rw [inputs, inputs, List.length_append, List.length_append,
    Record.length_values_of_columns h.columns, length_bindings_of_like h.given]

/-! ### The same checks -/

theorem insertEntries_eq {entries others : List Entry}
    (h : List.Forall₂ (Entry.Related SameNull) entries others) :
    Check.insertEntries entries = Check.insertEntries others := by
  induction h with
  | nil => rfl
  | @cons e f entries others hef _ ih =>
      obtain ⟨column, v⟩ := e
      obtain ⟨column', w⟩ := f
      obtain ⟨rfl, hnull⟩ : column = column' ∧ v.isNull = w.isNull := hef
      rw [Check.insertEntries, Check.insertEntries, hnull, ih]

/-- A check looks at no value, but for the nulls of an insert. -/
theorem check (h : q.Like p) : q.check = p.check := by
  cases h with
  | @insert a b h =>
      rw [Query.check, Query.check, Check.insertFields, Check.insertFields, insertEntries_eq h,
        a.isEmpty_eq, b.isEmpty_eq, h.columns]
  | @update a b c d hcolumns h =>
      rw [Query.check, Query.check, Check.updateFields, Check.updateFields, a.isEmpty_eq,
        b.isEmpty_eq, hcolumns, h.1]
  | select h | selectWith _ h | delete h | «exists» h => exact congrArg Check.condition h.1
  | selectFields | count | truncate => rfl

/-! ### The same statements -/

theorem kind (h : q.Like p) (table : String) :
    (q.statement table).kind = (p.statement table).kind := by
  cases h with
  | insert | select | selectWith | selectFields | update | delete | count | «exists» | truncate =>
      rfl

/-- The text of a statement is made of no value. -/
theorem sql (h : q.Like p) (table : String) :
    (q.statement table).sql = (p.statement table).sql := by
  have heffective : ∀ {c d : Option Condition}, Option.Rel Condition.Like c d →
      (effective c).map Condition.sql = (effective d).map Condition.sql := by
    intro c d h
    rcases effective_of_like h with ⟨hc, hd⟩ | ⟨hc, hd⟩
    · rw [hc, hd]
    · rw [hc, hd, map_sql_of_like h]
  cases h with
  | @insert a b h =>
      show Sql.insert table a = Sql.insert table b
      unfold Sql.insert
      rw [h.columns]
  | @update a b c d hcolumns h =>
      show Sql.update table a c.sql = Sql.update table b d.sql
      unfold Sql.update
      rw [hcolumns, h.1]
  | select h => exact congrArg (Sql.select table) h.1
  | selectWith options h => exact congrArg (Sql.selectWith table · options) h.1
  | selectFields list h => exact congrArg (Sql.selectFields table list) (heffective h)
  | delete h => exact congrArg (Sql.delete table) h.1
  | count h => exact congrArg (Sql.count table) (heffective h)
  | «exists» h => exact congrArg (Sql.exists table) h.1
  | truncate => rfl

/-- The values bound are related as those that come in are. -/
theorem bindings (h : q.Like p) (hinputs : List.Forall₂ P q.inputs p.inputs)
    (hcheck : q.check = .ok ()) (table : String) :
    List.Forall₂ P (q.statement table).bindings (p.statement table).bindings := by
  obtain ⟨hfields, hgiven⟩ := forall₂_of_append hinputs (Record.length_values_of_columns h.columns)
  rw [bindings_statement hcheck, bindings_statement (h.check ▸ hcheck)]
  refine List.rel_append hfields ?_
  rcases effective_of_like h.given with ⟨hq, hp⟩ | ⟨hq, hp⟩
  · rw [rendered, rendered, ← effective, ← effective, hq, hp]
    exact .nil
  · rw [rendered, rendered, ← effective, ← effective, hq, hp]
    exact hgiven

end Like

end Query

/-! ### What is compiled -/

/-- The statements are of one kind and have one text, and the values that they bind are related
place by place. -/
structure Statement.Twin (P : Value → Value → Prop) (a b : Statement) : Prop where
  kind : a.kind = b.kind
  sql : a.sql = b.sql
  bindings : List.Forall₂ P a.bindings b.bindings

/-- Both outcomes are the same error, or both are results and these are related. -/
inductive SameOutcome {ε α β : Type} (R : α → β → Prop) : Except ε α → Except ε β → Prop
  | error (e : ε) : SameOutcome R (.error e) (.error e)
  | ok {a : α} {b : β} : R a b → SameOutcome R (.ok a) (.ok b)

/-- Queries that are alike are refused alike, or come out as statements that are twins. -/
theorem Query.Like.compile {q p : Query} (h : q.Like p)
    (hinputs : List.Forall₂ P q.inputs p.inputs) (table : Option String) :
    SameOutcome (Statement.Twin P) (q.compile table) (p.compile table) := by
  unfold Query.compile
  cases Check.table table with
  | error rejection => exact .error rejection
  | ok name =>
      rw [← h.check]
      cases hcheck : q.check with
      | error rejection => exact .error rejection
      | ok _ => exact .ok ⟨h.kind name, h.sql name, h.bindings hinputs hcheck name⟩

end TableGateway
