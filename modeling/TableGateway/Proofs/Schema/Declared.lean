import TableGateway.Schema.Call

/-! # What a list of calls declares

The meaning of a list of calls, read off the calls alone.  A call has *fragments*, the columns and
alterations it puts into the table's definition, and *constraints*.  `Call.fragments` looks at one
call and, for a changed column, at the columns its definition declares itself;
`Call.constraints` goes into definitions, to any depth.  No position and no second blueprint occurs
in either.

`Blueprint.extend` adds fragments and constraints to a blueprint.  The step lemma
`Blueprint.call_eq_extend` says that a call adds exactly what it declares, and
`Blueprint.run_eq_extend` the same of a list of calls. -/

namespace TableGateway.Schema

/-! ### Constraints and fragments -/

/-- One constraint, as it is declared. -/
inductive Constraint where
  /-- One column of the primary key. -/
  | primary (column : String)
  | unique (column : String)
  | index (column : String)
  | foreignKey (key : ForeignKey)
  | check (expression : String)
  deriving DecidableEq, Repr

namespace Constraint

def primary? : Constraint → Option String
  | primary column => some column
  | _ => none

def unique? : Constraint → Option String
  | unique column => some column
  | _ => none

def index? : Constraint → Option String
  | index column => some column
  | _ => none

def foreignKey? : Constraint → Option ForeignKey
  | foreignKey key => some key
  | _ => none

def check? : Constraint → Option String
  | check expression => some expression
  | _ => none

end Constraint

/-- A column or an alteration, as it is declared. -/
inductive Fragment where
  | column (definition : Column)
  | dropColumn (name : String)
  | renameColumn (old new : String)
  | changeColumn (name : String) (definition : Column)
  | renameTable (name : String)
  deriving DecidableEq, Repr

/-- The column declared, if the fragment is one. -/
def Fragment.column? : Fragment → Option Column
  | column definition => some definition
  | _ => none

/-! ### The meaning of a call -/

/-- The modifier an edit adds to its column. -/
def ColumnEdit.modifier? : ColumnEdit → Option Modifier
  | modify modifier => some modifier
  | _ => none

/-- The constraint an edit puts on its column. -/
def ColumnEdit.constraint? (column : String) : ColumnEdit → Option Constraint
  | modify _ => none
  | unique => some (.unique column)
  | index => some (.index column)
  | primary => some (.primary column)

def ForeignKeyEdit.onDelete? : ForeignKeyEdit → Option ForeignKeyAction
  | onDelete action => some action
  | onUpdate _ => none

def ForeignKeyEdit.onUpdate? : ForeignKeyEdit → Option ForeignKeyAction
  | onDelete _ => none
  | onUpdate action => some action

/-- A foreign key after its edits: of each kind the last one decides, and without any the action is
to cascade. -/
def ForeignKey.declared (column table references : String) (edits : List ForeignKeyEdit) :
    ForeignKey where
  column := column
  table := table
  references := references
  onDelete := (edits.filterMap ForeignKeyEdit.onDelete?).getLast?.getD .cascade
  onUpdate := (edits.filterMap ForeignKeyEdit.onUpdate?).getLast?.getD .cascade

/-- The time of creation, as a column. -/
def createdAt : Column :=
  ⟨"created_at", .timestamp, [.default (.expression "CURRENT_TIMESTAMP")]⟩

/-- The time of the last change, as a column. -/
def updatedAt : Column :=
  ⟨"updated_at", .timestamp,
    [.default (.expression "CURRENT_TIMESTAMP"), .onUpdate "CURRENT_TIMESTAMP"]⟩

namespace Call

/-- Whether the call itself declares a column. -/
def declaresColumn : Call → Bool
  | column _ _ _ | timestamps => true
  | _ => false

/-- The columns that the call itself declares, each with the modifiers of its own edits. -/
def columns : Call → List Column
  | column name type edits => [⟨name, type, edits.filterMap ColumnEdit.modifier?⟩]
  | timestamps => [createdAt, updatedAt]
  | _ => []

/-- The fragments of a call.  A changed column takes the last column of its definition, and is no
fragment where there is none. -/
def fragments : Call → List Fragment
  | dropColumn name => [.dropColumn name]
  | renameColumn old new => [.renameColumn old new]
  | renameTable name => [.renameTable name]
  | changeColumn name definition =>
    ((definition.flatMap columns).getLast?.map (.changeColumn name)).toList
  | c => c.columns.map .column

mutual

/-- The constraints of a call, those of a definition inside it included. -/
def constraints : Call → List Constraint
  | column name _ edits => edits.filterMap (ColumnEdit.constraint? name)
  | primary names => names.map .primary
  | unique name => [.unique name]
  | index name => [.index name]
  | check expression => [.check expression]
  | foreign name table references edits =>
    [.foreignKey (.declared name table references edits)]
  | changeColumn _ definition => constraintsOf definition
  | timestamps | dropColumn _ | renameColumn _ _ | renameTable _ => []

/-- The constraints of calls, in the order of the calls. -/
def constraintsOf : List Call → List Constraint
  | [] => []
  | c :: calls => c.constraints ++ constraintsOf calls

end

/-- The fragments of calls, in the order of the calls. -/
def fragmentsOf (calls : List Call) : List Fragment := calls.flatMap fragments

theorem filterMap_column?_fragments (c : Call) :
    c.fragments.filterMap Fragment.column? = c.columns := by
  cases c with
  | changeColumn name definition =>
      show ((definition.flatMap columns).getLast?.map (Fragment.changeColumn name)).toList.filterMap
        Fragment.column? = []
      cases (definition.flatMap columns).getLast? with
      | none => rfl
      | some last => rfl
  | _ => rfl

theorem filterMap_column?_fragmentsOf (calls : List Call) :
    (fragmentsOf calls).filterMap Fragment.column? = calls.flatMap columns := by
  induction calls with
  | nil => rfl
  | cons c calls ih =>
      unfold fragmentsOf at ih ⊢
      rw [List.flatMap_cons, List.filterMap_append, filterMap_column?_fragments, ih,
        List.flatMap_cons]

theorem columns_eq_nil_iff {c : Call} : c.columns = [] ↔ c.declaresColumn = false := by
  cases c <;> simp [columns, declaresColumn]

/-- Calls declare a column exactly when one of them does. -/
theorem flatMap_columns_eq_nil_iff {calls : List Call} :
    calls.flatMap columns = [] ↔ calls.any declaresColumn = false := by
  rw [List.flatMap_eq_nil_iff, List.any_eq_false]
  simp only [columns_eq_nil_iff, Bool.not_eq_true]

end Call

/-! ### Extending a blueprint -/

theorem filterMap_cons_toList {α β : Type} (f : α → Option β) (x : α) (xs : List α) :
    (x :: xs).filterMap f = (f x).toList ++ xs.filterMap f := by
  rw [List.filterMap_cons]
  cases f x <;> rfl

theorem modify_last {α : Type} (first : List α) (x : α) (f : α → α) :
    (first ++ [x]).modify first.length f = first ++ [f x] := by
  rw [List.modify_eq_take_cons_drop (by simp)]
  simp

/-- The clauses of fragments, the columns among them being numbered from `n`. -/
def clausesFrom : Nat → List Fragment → List Clause
  | _, [] => []
  | n, .column _ :: rest => .column n :: clausesFrom (n + 1) rest
  | n, .dropColumn name :: rest => .dropColumn name :: clausesFrom n rest
  | n, .renameColumn old new :: rest => .renameColumn old new :: clausesFrom n rest
  | n, .changeColumn name definition :: rest => .changeColumn name definition :: clausesFrom n rest
  | n, .renameTable name :: rest => .renameTable name :: clausesFrom n rest

theorem clausesFrom_append (n : Nat) (first second : List Fragment) :
    clausesFrom n (first ++ second) = clausesFrom n first ++
      clausesFrom (n + (first.filterMap Fragment.column?).length) second := by
  induction first generalizing n with
  | nil => rfl
  | cons f first ih =>
      cases f with
      | column definition =>
          simp only [List.cons_append, clausesFrom, ih, List.filterMap_cons, Fragment.column?,
            List.length_cons]
          congr 3
          omega
      | _ => simp only [List.cons_append, clausesFrom, ih, List.filterMap_cons, Fragment.column?]

namespace Blueprint

/-- The blueprint with fragments and constraints added. -/
def extend (b : Blueprint) (fragments : List Fragment) (constraints : List Constraint) :
    Blueprint where
  table := b.table
  columns := b.columns ++ fragments.filterMap Fragment.column?
  clauses := b.clauses ++ clausesFrom b.columns.length fragments
  primaryKey := b.primaryKey ++ constraints.filterMap Constraint.primary?
  uniques := b.uniques ++ constraints.filterMap Constraint.unique?
  indexes := b.indexes ++ constraints.filterMap Constraint.index?
  foreignKeys := b.foreignKeys ++ constraints.filterMap Constraint.foreignKey?
  checks := b.checks ++ constraints.filterMap Constraint.check?

theorem extend_nil (b : Blueprint) : b.extend [] [] = b := by
  simp [extend, clausesFrom]

theorem extend_extend (b : Blueprint) (fs gs : List Fragment) (cs ds : List Constraint) :
    (b.extend fs cs).extend gs ds = b.extend (fs ++ gs) (cs ++ ds) := by
  simp [extend, clausesFrom_append]

/-! ### What one declaration adds -/

/-- One edit through the handle of the last column adds its modifier to that column and its
constraint to the blueprint. -/
theorem editColumn_last (b : Blueprint) (first : List Column) (c : Column) (edit : ColumnEdit)
    (h : b.columns = first ++ [c]) :
    b.editColumn ⟨first.length⟩ edit =
      { b with columns := first ++ [{ c with modifiers := c.modifiers ++ edit.modifier?.toList }]
        }.extend [] (edit.constraint? c.name).toList := by
  have hname : b.columnName ⟨first.length⟩ = some c.name := by simp [columnName, h]
  cases edit with
  | modify modifier =>
      simp [editColumn, extend, ColumnEdit.modifier?, ColumnEdit.constraint?, clausesFrom, h,
        modify_last]
  | _ =>
      simp [editColumn, extend, ColumnEdit.modifier?, ColumnEdit.constraint?, clausesFrom, hname,
        Constraint.primary?, Constraint.unique?, Constraint.index?, Constraint.foreignKey?,
        Constraint.check?, ← h]

/-- Edits through the handle of the last column add their modifiers to that column, in their order,
and their constraints to the blueprint. -/
theorem foldl_editColumn_last (first : List Column) : ∀ (edits : List ColumnEdit) (b : Blueprint)
    (c : Column), b.columns = first ++ [c] →
    edits.foldl (fun b edit => b.editColumn ⟨first.length⟩ edit) b =
      { b with
        columns := first ++
          [{ c with modifiers := c.modifiers ++ edits.filterMap ColumnEdit.modifier? }]
        }.extend [] (edits.filterMap (ColumnEdit.constraint? c.name))
  | [], b, c, h => by
      rw [List.foldl_nil, List.filterMap_nil, List.filterMap_nil, extend_nil, List.append_nil]
      simp only [← h]
  | edit :: edits, b, c, h => by
      rw [List.foldl_cons, editColumn_last b first c edit h]
      rw [foldl_editColumn_last first edits _
        { c with modifiers := c.modifiers ++ edit.modifier?.toList } (by simp [extend])]
      simp only [extend, clausesFrom, filterMap_cons_toList, List.filterMap_append,
        List.filterMap_nil, List.append_nil, List.append_assoc]

theorem declare_eq_extend (b : Blueprint) (name : String) (type : ColumnType)
    (edits : List ColumnEdit) :
    (b.declare name type edits).2 =
      b.extend [.column ⟨name, type, edits.filterMap ColumnEdit.modifier?⟩]
        (edits.filterMap (ColumnEdit.constraint? name)) := by
  show edits.foldl (fun d edit => d.editColumn ⟨b.columns.length⟩ edit)
    (b.addColumn name type).2 = _
  rw [foldl_editColumn_last b.columns edits _ ⟨name, type, []⟩ rfl]
  simp [addColumn, extend, clausesFrom, Fragment.column?]

/-- Edits through the handle of the last foreign key change its actions, and nothing else. -/
theorem foldl_editForeignKey_last (first : List ForeignKey) : ∀ (edits : List ForeignKeyEdit)
    (b : Blueprint) (k : ForeignKey), b.foreignKeys = first ++ [k] →
    edits.foldl (fun b edit => b.editForeignKey ⟨first.length⟩ edit) b =
      { b with
        foreignKeys := first ++
          [{ k with
            onDelete := (edits.filterMap ForeignKeyEdit.onDelete?).getLast?.getD k.onDelete
            onUpdate := (edits.filterMap ForeignKeyEdit.onUpdate?).getLast?.getD k.onUpdate }] }
  | [], b, k, h => by simp only [List.foldl_nil, List.filterMap_nil, List.getLast?_nil,
      Option.getD_none, ← h]
  | edit :: edits, b, k, h => by
      rw [List.foldl_cons]
      cases edit with
      | onDelete action =>
          rw [foldl_editForeignKey_last first edits _ { k with onDelete := action }
            (by simp [editForeignKey, h, modify_last])]
          simp [editForeignKey, filterMap_cons_toList, ForeignKeyEdit.onDelete?,
            ForeignKeyEdit.onUpdate?, List.getLast?_cons]
      | onUpdate action =>
          rw [foldl_editForeignKey_last first edits _ { k with onUpdate := action }
            (by simp [editForeignKey, h, modify_last])]
          simp [editForeignKey, filterMap_cons_toList, ForeignKeyEdit.onDelete?,
            ForeignKeyEdit.onUpdate?, List.getLast?_cons]

theorem declareForeignKey_eq_extend (b : Blueprint) (column table references : String)
    (edits : List ForeignKeyEdit) :
    (b.declareForeignKey column table references edits).2 =
      b.extend [] [.foreignKey (.declared column table references edits)] := by
  show edits.foldl (fun d edit => d.editForeignKey ⟨b.foreignKeys.length⟩ edit)
    (b.addForeignKey column table references).2 = _
  rw [foldl_editForeignKey_last b.foreignKeys edits _ ⟨column, table, references, default, default⟩
    rfl]
  have hdefault : (default : ForeignKeyAction) = .cascade := rfl
  simp [addForeignKey, extend, clausesFrom, ForeignKey.declared, hdefault, Constraint.primary?,
    Constraint.unique?, Constraint.index?, Constraint.foreignKey?, Constraint.check?]

theorem addTimestamps_eq_extend (b : Blueprint) :
    b.addTimestamps = b.extend [.column createdAt, .column updatedAt] [] := by
  unfold addTimestamps
  rw [declare_eq_extend, declare_eq_extend, extend_extend]
  rfl

theorem addPrimary_eq_extend (b : Blueprint) (names : List String) :
    b.addPrimary names = b.extend [] (names.map .primary) := by
  have h : ∀ {β : Type} (f : Constraint → Option β), (∀ name, f (.primary name) = none) →
      (names.map Constraint.primary).filterMap f = [] := by
    intro β f hf
    rw [List.filterMap_eq_nil_iff]
    intro c hc
    obtain ⟨name, -, rfl⟩ := List.mem_map.mp hc
    exact hf name
  have hp : (names.map Constraint.primary).filterMap Constraint.primary? = names := by
    simp [List.filterMap_map, Function.comp_def, Constraint.primary?]
  simp only [addPrimary, extend, clausesFrom, List.filterMap_nil, List.append_nil, hp]
  rw [h _ fun _ => rfl, h _ fun _ => rfl, h _ fun _ => rfl, h _ fun _ => rfl]
  simp only [List.append_nil]

/-- A changed column adds its own fragment and the constraints of its definition. -/
theorem changeColumn_eq_extend (b : Blueprint) (name : String) (definition : List Call) :
    b.changeColumn name
        (({ table := b.table } : Blueprint).extend (Call.fragmentsOf definition)
          (Call.constraintsOf definition)) =
      b.extend (Call.changeColumn name definition).fragments
        (Call.changeColumn name definition).constraints := by
  have hcols := Call.filterMap_column?_fragmentsOf definition
  simp only [changeColumn, extend, hcols, List.nil_append, Call.fragments, Call.constraints]
  cases (definition.flatMap Call.columns).getLast? with
  | none => simp [clausesFrom]
  | some last => simp [clausesFrom, Fragment.column?]

/-! ### Step and run -/

mutual

/-- The step lemma: a call adds what it declares. -/
theorem call_eq_extend (b : Blueprint) :
    ∀ c : Call, (b.call c).2 = b.extend c.fragments c.constraints
  | .column name type edits => declare_eq_extend b name type edits
  | .timestamps => addTimestamps_eq_extend b
  | .primary names => addPrimary_eq_extend b names
  | .foreign column table references edits =>
      declareForeignKey_eq_extend b column table references edits
  | .unique _ | .index _ | .check _ | .dropColumn _ | .renameColumn _ _ | .renameTable _ => by
      simp [call, addUnique, addIndex, addCheck, addClause, extend, Call.fragments, Call.columns,
        Call.constraints, clausesFrom, Constraint.primary?, Constraint.unique?, Constraint.index?,
        Constraint.foreignKey?, Constraint.check?, Fragment.column?]
  | .changeColumn name definition => by
      rw [call, run_eq_extend { table := b.table } definition]
      exact changeColumn_eq_extend b name definition

/-- A list of calls adds what its calls declare. -/
theorem run_eq_extend (b : Blueprint) : ∀ calls : List Call,
    b.run calls = b.extend (Call.fragmentsOf calls) (Call.constraintsOf calls)
  | [] => by rw [run]; exact (extend_nil b).symm
  | c :: calls => by
      rw [run, call_eq_extend b c, run_eq_extend _ calls, extend_extend]
      rfl

end

end Blueprint

end TableGateway.Schema
