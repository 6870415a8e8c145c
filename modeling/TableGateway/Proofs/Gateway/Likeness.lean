import TableGateway.Proofs.Gateway.Safety
import TableGateway.Proofs.Query.Likeness

/-! # Calls that differ in their values

Requests, operations and calls are `Like` one another when they are the same but for their values;
what becomes a new row must be null in the same places.  Requests that are alike have queries that
are alike, and are sent and answered in the same way (`Table.Request.Like.query` and
`Table.Request.Like.reading`).  Operations that are alike ask such requests of the table, and take
the values there from the same places (`Model.Operation.Like.parallel`).

The values that come into an operation or a call are its `inputs`. -/

namespace TableGateway

variable {P : Value → Value → Prop}

/-! ### Requests -/

namespace Table.Request

/-- The requests are the same but for their values. -/
inductive Like : Request → Request → Prop
  | insert {a b : Record} : a.Related SameNull b → Like (.insert a) (.insert b)
  | insertGetId {a b : Record} : a.Related SameNull b → Like (.insertGetId a) (.insertGetId b)
  | select {c d : Condition} : c.Like d → Like (.select c) (.select d)
  | selectWith {c d : Condition} (options : SelectOptions) :
      c.Like d → Like (.selectWith c options) (.selectWith d options)
  | first {c d : Condition} : c.Like d → Like (.first c) (.first d)
  | selectFields {c d : Option Condition} (list : String) :
      Option.Rel Condition.Like c d → Like (.selectFields list c) (.selectFields list d)
  | update {a b : Record} {c d : Condition} :
      a.columns = b.columns → c.Like d → Like (.update a c) (.update b d)
  | delete {c d : Condition} : c.Like d → Like (.delete c) (.delete d)
  | count {c d : Option Condition} : Option.Rel Condition.Like c d → Like (.count c) (.count d)
  | exists {c d : Condition} : c.Like d → Like (.exists c) (.exists d)
  | truncate : Like .truncate .truncate

/-- How a request is sent, with what it makes of the reply. -/
def reading (r : Request) : (via : Via) × (via.Reply → Answer) := ⟨r.via, r.answer⟩

variable {r p : Request}

theorem Like.query (h : r.Like p) : r.query.Like p.query := by
  cases h with
  | insert h => exact .insert h
  | insertGetId h => exact .insert h
  | select h => exact .select h
  | selectWith options h => exact .selectWith options h
  | first h => exact .selectWith _ h
  | selectFields list h => exact .selectFields list h
  | update hcolumns h => exact .update hcolumns h
  | delete h => exact .delete h
  | count h => exact .count h
  | «exists» h => exact .exists h
  | truncate => exact .truncate

theorem Like.reading (h : r.Like p) : r.reading = p.reading := by
  cases h with
  | insert | insertGetId | select | selectWith | first | selectFields | update | delete | count
  | «exists» | truncate => rfl

end Table.Request

/-! ### Several rows -/

namespace Table

variable {rows others : List Record}

theorem length_flatMap_values (h : List.Forall₂ (Record.Related SameNull) rows others) :
    (rows.flatMap Record.values).length = (others.flatMap Record.values).length := by
  induction h with
  | nil => rfl
  | @cons a b rows others hab _ ih =>
      rw [List.flatMap_cons, List.flatMap_cons, List.length_append, List.length_append, ih,
        hab.values.length_eq]

/-- Rows that are alike are refused for the same fault, or their statements are twins. -/
theorem insertStatements_twin (h : List.Forall₂ (Record.Related SameNull) rows others)
    (hinputs : List.Forall₂ P (rows.flatMap Record.values) (others.flatMap Record.values))
    (table : String) :
    SameOutcome (List.Forall₂ (Statement.Twin P)) (insertStatements table rows)
      (insertStatements table others) := by
  induction h with
  | nil => exact .ok .nil
  | @cons a b rows others hab _ ih =>
      rw [List.flatMap_cons, List.flatMap_cons] at hinputs
      obtain ⟨hhead, htail⟩ := forall₂_of_append hinputs hab.values.length_eq
      have hrow : SameOutcome (Statement.Twin P) ((Query.insert a).compile (some table))
          ((Query.insert b).compile (some table)) :=
        (Query.Like.insert hab).compile (List.rel_append hhead .nil) (some table)
      have hrest := ih htail
      rw [insertStatements_cons, insertStatements_cons]
      generalize (Query.insert a).compile (some table) = row at hrow
      generalize (Query.insert b).compile (some table) = row' at hrow
      generalize insertStatements table rows = rest at hrest
      generalize insertStatements table others = rest' at hrest
      cases hrow with
      | error rejection => exact .error rejection
      | ok htwin =>
          cases hrest with
          | error rejection => exact .error rejection
          | ok htwins => exact .ok (.cons htwin htwins)

end Table

/-! ### Operations of a model -/

namespace Model.Operation

/-- The operations are the same but for their values.  What makes a new row must be null in the same
fillable columns. -/
inductive Like (m : Model) : Operation → Operation → Prop
  | all : Like m .all .all
  | find (v w : Value) : Like m (.find v) (.find w)
  | create {a b : Record} :
      a.columns = b.columns → (m.fill a).Related SameNull (m.fill b) →
      Like m (.create a) (.create b)
  | createGetId {a b : Record} :
      a.columns = b.columns → (m.fill a).Related SameNull (m.fill b) →
      Like m (.createGetId a) (.createGetId b)
  | update {a b : Record} (v w : Value) :
      a.columns = b.columns → Like m (.update a v) (.update b w)
  | delete (v w : Value) : Like m (.delete v) (.delete w)
  /-- Where there is a key, a row is changed, and nothing is asked of the nulls. -/
  | save {a b : Record} :
      a.columns = b.columns →
      (m.primaryKey ∉ a.columns → (m.fill a).Related SameNull (m.fill b)) →
      Like m (.save a) (.save b)
  | filter {c d : Condition} : c.Like d → Like m (.filter c) (.filter d)
  | findAll {c d : Option Condition} :
      Option.Rel Condition.Like c d → Like m (.findAll c) (.findAll d)
  | count : Like m .count .count
  | first : Like m .first .first
  | last : Like m .last .last
  | deleteWhere {c d : Condition} : c.Like d → Like m (.deleteWhere c) (.deleteWhere d)
  | truncate : Like m .truncate .truncate
  | exists {c d : Condition} : c.Like d → Like m (.exists c) (.exists d)

/-- The values that come into an operation. -/
def inputs : Operation → List Value
  | find id | delete id => [id]
  | create attributes | createGetId attributes | save attributes => attributes.values
  | update attributes id => attributes.values ++ [id]
  | filter c | deleteWhere c | .exists c => c.bindings
  | findAll c => Query.bindings c
  | all | count | first | last | truncate => []

variable {m : Model} {o p : Operation} {a b : Record}

theorem Like.length_inputs (h : o.Like m p) : o.inputs.length = p.inputs.length := by
  cases h with
  | create hcolumns _ | createGetId hcolumns _ | save hcolumns _ =>
      exact Record.length_values_of_columns hcolumns
  | update v w hcolumns =>
      rw [inputs, inputs, List.length_append, List.length_append,
        Record.length_values_of_columns hcolumns]
      rfl
  | filter h | deleteWhere h | «exists» h => exact h.2
  | findAll h => exact Query.length_bindings_of_like h
  | all | find | delete | count | first | last | truncate => rfl

theorem byKey_like (v w : Value) : (m.byKey v).Like (m.byKey w) := ⟨rfl, rfl⟩

/-- The requests of two operations are alike, and the values that come into them are related as
those that come into the operations are. -/
def Parallel (m : Model) (P : Value → Value → Prop) (o p : Operation) : Prop :=
  (o.request m).Like (p.request m) ∧
    List.Forall₂ P (o.request m).query.inputs (p.request m).query.inputs

theorem fill_related (hcolumns : a.columns = b.columns)
    (hvalues : List.Forall₂ P a.values b.values) : (m.fill a).Related P (m.fill b) :=
  (Record.related_iff.mpr ⟨hcolumns, hvalues⟩).filter _

theorem parallel_save (hcolumns : a.columns = b.columns)
    (hnull : m.primaryKey ∉ a.columns → (m.fill a).Related SameNull (m.fill b))
    (hvalues : List.Forall₂ P a.values b.values) : Parallel m P (.save a) (.save b) := by
  have hrelated : a.Related P b := Record.related_iff.mpr ⟨hcolumns, hvalues⟩
  have hfill : (m.fill (a.erase m.primaryKey)).Related P (m.fill (b.erase m.primaryKey)) :=
    (hrelated.filter _).filter _
  have hkey := hrelated.get? m.primaryKey
  unfold Parallel
  generalize ha : a.get? m.primaryKey = key at hkey
  generalize hb : b.get? m.primaryKey = key' at hkey
  cases hkey with
  | none =>
      have hasks : (save a).request m = .insertGetId (m.fill (a.erase m.primaryKey)) :=
        Assignment.request_save_of_keyless ha
      have hasks' : (save b).request m = .insertGetId (m.fill (b.erase m.primaryKey)) :=
        Assignment.request_save_of_keyless hb
      have habsent : m.primaryKey ∉ a.columns := by
        rw [← Record.get?_isSome, ha]
        exact Bool.false_ne_true
      have hsame : (m.fill (a.erase m.primaryKey)).Related SameNull
          (m.fill (b.erase m.primaryKey)) := by
        rw [Assignment.fill_erase, Assignment.fill_erase]
        exact (hnull habsent).filter _
      rw [hasks, hasks']
      exact ⟨.insertGetId hsame, List.rel_append hfill.values .nil⟩
  | @some v w hvw =>
      have hasks : (save a).request m = .update (m.fill (a.erase m.primaryKey)) (m.byKey v) :=
        Assignment.request_save_of_key ha
      have hasks' : (save b).request m = .update (m.fill (b.erase m.primaryKey)) (m.byKey w) :=
        Assignment.request_save_of_key hb
      rw [hasks, hasks']
      exact ⟨.update hfill.columns (byKey_like v w),
        List.rel_append hfill.values (.cons hvw .nil)⟩

/-- A condition that is left out for being blank is left out of both operations. -/
theorem parallel_findAll {c d : Option Condition} (h : Option.Rel Condition.Like c d)
    (hinputs : List.Forall₂ P (Query.bindings c) (Query.bindings d)) :
    Parallel m P (.findAll c) (.findAll d) := by
  have hrequest : ∀ c : Option Condition,
      (findAll c).request m = .select ((Query.effective c).getD always) := fun _ => rfl
  unfold Parallel
  rw [hrequest, hrequest]
  rcases Query.effective_of_like h with ⟨hc, hd⟩ | ⟨hc, hd⟩
  · rw [hc, hd]
    exact ⟨.select ⟨rfl, rfl⟩, .nil⟩
  · rw [hc, hd]
    cases h with
    | none => exact ⟨.select ⟨rfl, rfl⟩, .nil⟩
    | some h => exact ⟨.select h, hinputs⟩

theorem Like.parallel (h : o.Like m p) (hinputs : List.Forall₂ P o.inputs p.inputs) :
    Parallel m P o p := by
  cases h with
  | all => exact ⟨.select ⟨rfl, rfl⟩, .nil⟩
  | find v w => exact ⟨.first (byKey_like v w), hinputs⟩
  | create hcolumns h =>
      exact ⟨.insert h, List.rel_append (fill_related hcolumns hinputs).values .nil⟩
  | createGetId hcolumns h =>
      exact ⟨.insertGetId h, List.rel_append (fill_related hcolumns hinputs).values .nil⟩
  | update v w hcolumns =>
      obtain ⟨hvalues, hkey⟩ := forall₂_of_append hinputs (Record.length_values_of_columns hcolumns)
      have hfill := fill_related (m := m) hcolumns hvalues
      exact ⟨.update hfill.columns (byKey_like v w), List.rel_append hfill.values hkey⟩
  | delete v w => exact ⟨.delete (byKey_like v w), hinputs⟩
  | save hcolumns h => exact parallel_save hcolumns h hinputs
  | filter h => exact ⟨.select h, hinputs⟩
  | findAll h => exact parallel_findAll h hinputs
  | count => exact ⟨.count .none, .nil⟩
  | first => exact ⟨.first ⟨rfl, rfl⟩, .nil⟩
  | last => exact ⟨.selectWith _ ⟨rfl, rfl⟩, .nil⟩
  | deleteWhere h => exact ⟨.delete h, hinputs⟩
  | truncate => exact ⟨.truncate, .nil⟩
  | «exists» h => exact ⟨.exists h, hinputs⟩

theorem Like.answer (h : o.Like m p) : o.answer m = p.answer m := by
  cases h with
  | save hcolumns _ =>
      refine answer_save_eq ?_
      rw [Record.contains, Record.contains, hcolumns]
  | all | find | create | createGetId | update | delete | filter | findAll | count | first | last
  | deleteWhere | truncate | «exists» => rfl

end Model.Operation

/-! ### Calls -/

namespace Call

/-- The calls are the same but for their values. -/
inductive Like : Call → Call → Prop
  | request (table : String) {r p : Table.Request} :
      r.Like p → Like (.request table r) (.request table p)
  | insertMany (table : String) {rows others : List Record} :
      List.Forall₂ (Record.Related SameNull) rows others →
      Like (.insertMany table rows) (.insertMany table others)
  | operation (m : Model) {o p : Model.Operation} :
      o.Like m p → Like (.operation m o) (.operation m p)

/-- The values that come into a call. -/
def inputs : Call → List Value
  | request _ r => r.query.inputs
  | insertMany _ rows => rows.flatMap Record.values
  | operation _ o => o.inputs

variable {c d : Call}

theorem Like.length_inputs (h : c.Like d) : c.inputs.length = d.inputs.length := by
  cases h with
  | request table h => exact h.query.length_inputs
  | insertMany table h => exact Table.length_flatMap_values h
  | operation m h => exact h.length_inputs

end Call

end TableGateway
