import Mathlib.Data.List.Basic
import TableGateway.Schema.Call

/-! # Blueprints in the making

A list of calls is not made at once.  `Call.actions` takes a call apart into what is done one thing
after another: a column is declared, which gives out a handle, and is then edited through it; a
changed column begins a definition on a blueprint of its own, and ends it.  A `Draft` is where this
has come to, and `Draft.run_actionsOf` says that the actions of calls lead to the blueprint of
`Blueprint.run`.

Clauses and handles refer to columns and foreign keys by position.  `Blueprint.Sound` says that the
clauses refer to all columns, each once and in order, and `Handle.Within` that a handle refers to
something.  Every action keeps both (`Draft.Sound.step`), so they hold at every point on the way
(`Draft.sound_take`): no position is without its column, and each column is written once. -/

namespace TableGateway.Schema

/-! ### Positions -/

/-- The position of a declared column, if the clause stands for one. -/
def Clause.position? : Clause → Option Nat
  | column index => some index
  | _ => none

/-- Whether the clause stands for a declared column. -/
def Clause.isColumn (clause : Clause) : Bool := clause.position?.isSome

/-- The clauses of a blueprint stand for its columns. -/
structure Blueprint.Sound (b : Blueprint) : Prop where
  /-- The positions are those of the columns, each once and in increasing order. -/
  positions_eq : b.clauses.filterMap Clause.position? = List.range b.columns.length
  hasColumns_iff : b.hasColumns = true ↔ ∃ index, Clause.column index ∈ b.clauses
  /-- Every clause has a text, whatever is put before columns. -/
  map_sql? : ∀ add, b.clauses.map (Clause.sql? b.columns add) = (b.clauseTexts add).map some
  /-- The texts of the clauses that stand for columns are those of the columns, one for each. -/
  columnTexts : ∀ add,
    (b.clauses.filter Clause.isColumn).map (Clause.sql? b.columns add) =
      b.columns.map fun c => some (add ++ c.sql)

/-- A handle that has been given out. -/
inductive Handle where
  | column (h : ColumnHandle)
  | foreignKey (h : ForeignKeyHandle)
  deriving DecidableEq, Repr

/-- The handle's position is that of a column, or of a foreign key. -/
def Handle.Within (b : Blueprint) : Handle → Prop
  | column h => h.index < b.columns.length
  | foreignKey h => h.index < b.foreignKeys.length

section positions
variable {b : Blueprint} {columns : List Column} {clauses : List Clause}

theorem mem_filterMap_position? {index : Nat} :
    index ∈ clauses.filterMap Clause.position? ↔ Clause.column index ∈ clauses := by
  rw [List.mem_filterMap]
  constructor
  · rintro ⟨clause, hmem, hposition⟩
    cases clause with
    | column other =>
        cases hposition
        exact hmem
    | _ => cases hposition
  · exact fun hmem => ⟨_, hmem, rfl⟩

/-- Only a position without a column has no text. -/
theorem Clause.isSome_sql? (add : String) {clause : Clause}
    (h : ∀ index ∈ clause.position?, index < columns.length) :
    (clause.sql? columns add).isSome = true := by
  cases clause with
  | column index => simp [sql?, h index rfl]
  | _ => rfl

theorem map_sql?_filter_isColumn (columns : List Column) (add : String) (clauses : List Clause) :
    (clauses.filter Clause.isColumn).map (Clause.sql? columns add) =
      (clauses.filterMap Clause.position?).map fun index =>
        columns[index]?.map fun c => add ++ c.sql := by
  induction clauses with
  | nil => rfl
  | cons clause clauses ih =>
      cases clause with
      | column index => exact congrArg (_ :: ·) ih
      | _ => exact ih

/-- All that is said of the clauses follows from their positions. -/
theorem Blueprint.sound_of_positions
    (h : b.clauses.filterMap Clause.position? = List.range b.columns.length) : b.Sound := by
  have hmem : ∀ index, Clause.column index ∈ b.clauses ↔ index < b.columns.length := by
    intro index
    rw [← mem_filterMap_position?, h, List.mem_range]
  refine ⟨h, ?_, fun add => ?_, fun add => ?_⟩
  · simp only [hmem]
    unfold hasColumns
    cases b.columns with
    | nil => simp
    | cons c columns => exact iff_of_true rfl ⟨0, Nat.succ_pos _⟩
  · unfold clauseTexts
    rw [List.map_filterMap_some_eq_filter_map_isSome, eq_comm, List.filter_eq_self]
    intro text htext
    obtain ⟨clause, hclause, rfl⟩ := List.mem_map.mp htext
    apply Clause.isSome_sql?
    intro index hindex
    cases clause with
    | column other =>
        cases hindex
        exact (hmem index).mp hclause
    | _ => cases hindex
  · rw [map_sql?_filter_isColumn, h]
    apply List.ext_getElem (by simp)
    intro index hrange hcolumns
    rw [List.length_map] at hcolumns
    simp [List.getElem?_eq_getElem hcolumns]

end positions

/-! ### What a declaration keeps -/

namespace Blueprint

variable {b : Blueprint}

theorem sound_empty (table : String) : ({ table } : Blueprint).Sound := sound_of_positions rfl

/-- A declared column and its clause come together. -/
theorem Sound.addColumn (h : b.Sound) (name : String) (type : ColumnType) :
    (b.addColumn name type).2.Sound := by
  apply sound_of_positions
  simp [Blueprint.addColumn, Clause.position?, h.positions_eq, List.range_succ]

theorem length_columns_editColumn (b : Blueprint) (h : ColumnHandle) (edit : ColumnEdit) :
    (b.editColumn h edit).columns.length = b.columns.length := by
  cases edit <;> simp [editColumn]

theorem clauses_editColumn (b : Blueprint) (h : ColumnHandle) (edit : ColumnEdit) :
    (b.editColumn h edit).clauses = b.clauses := by
  cases edit <;> rfl

/-- Columns may be edited in their places. -/
theorem Sound.congr (h : b.Sound) {c : Blueprint} (hlength : c.columns.length = b.columns.length)
    (hclauses : c.clauses = b.clauses) : c.Sound := by
  apply sound_of_positions
  rw [hclauses, hlength, h.positions_eq]

/-- Clauses may be added that stand for no column. -/
theorem Sound.append (h : b.Sound) {c : Blueprint} {added : List Clause}
    (hcolumns : c.columns = b.columns) (hclauses : c.clauses = b.clauses ++ added)
    (hadded : added.filterMap Clause.position? = []) : c.Sound := by
  apply sound_of_positions
  rw [hclauses, hcolumns, List.filterMap_append, hadded, List.append_nil, h.positions_eq]

theorem Sound.editColumn (hb : b.Sound) (h : ColumnHandle) (edit : ColumnEdit) :
    (b.editColumn h edit).Sound :=
  hb.congr (length_columns_editColumn b h edit) (clauses_editColumn b h edit)

/-- A changed column is the last column of its definition, but has no position. -/
theorem Sound.changeColumn (h : b.Sound) (name : String) (defined : Blueprint) :
    (b.changeColumn name defined).Sound := by
  refine h.append rfl rfl ?_
  cases defined.columns.getLast? <;> rfl

theorem length_foreignKeys_editForeignKey (b : Blueprint) (h : ForeignKeyHandle)
    (edit : ForeignKeyEdit) :
    (b.editForeignKey h edit).foreignKeys.length = b.foreignKeys.length := by
  simp [editForeignKey]

end Blueprint

/-! ### Actions -/

/-- One thing that is done in the course of a call. -/
inductive Action where
  /-- Declares a column, and gives out its handle. -/
  | column (name : String) (type : ColumnType)
  /-- Makes an edit through the handle of a column. -/
  | editColumn (edit : ColumnEdit)
  /-- Declares a foreign key, and gives out its handle. -/
  | foreignKey (column table references : String)
  /-- Makes an edit through the handle of a foreign key. -/
  | editForeignKey (edit : ForeignKeyEdit)
  | primary (columns : List String)
  | unique (column : String)
  | index (column : String)
  | check (expression : String)
  | dropColumn (name : String)
  | renameColumn (old new : String)
  | renameTable (name : String)
  /-- Begins the definition of a changed column, on a blueprint of its own. -/
  | beginChange (name : String)
  /-- Ends the definition, and changes the column. -/
  | endChange
  deriving DecidableEq, Repr

/-- A column declared and edited. -/
def Action.declare (name : String) (type : ColumnType) (edits : List ColumnEdit) : List Action :=
  column name type :: edits.map editColumn

namespace Call

mutual

/-- The actions of a call. -/
def actions : Call → List Action
  | column name type edits => Action.declare name type edits
  | timestamps =>
    let setNow := ColumnEdit.modify (.default (.expression Blueprint.now))
    Action.declare "created_at" .timestamp [setNow] ++
      Action.declare "updated_at" .timestamp [setNow, .modify (.onUpdate Blueprint.now)]
  | primary names => [.primary names]
  | unique name => [.unique name]
  | index name => [.index name]
  | check expression => [.check expression]
  | foreign name table references edits =>
    .foreignKey name table references :: edits.map .editForeignKey
  | dropColumn name => [.dropColumn name]
  | renameColumn old new => [.renameColumn old new]
  | renameTable name => [.renameTable name]
  | changeColumn name definition => .beginChange name :: (actionsOf definition ++ [.endChange])

/-- The actions of calls, one call after another. -/
def actionsOf : List Call → List Action
  | [] => []
  | c :: calls => c.actions ++ actionsOf calls

end

end Call

/-- Where the actions have come to. -/
structure Draft where
  /-- The blueprint that the next action is on. -/
  blueprint : Blueprint
  /-- The handle in use.  It has the blueprint to itself, so any other action ends it. -/
  live : Option Handle := none
  /-- The blueprints whose columns are being changed, the innermost first, with these columns. -/
  waiting : List (String × Blueprint) := []
  deriving DecidableEq, Repr

namespace Draft

/-- The draft with another blueprint, and with the handle that is live on it. -/
def next (d : Draft) (blueprint : Blueprint) (live : Option Handle := none) : Draft :=
  { d with blueprint, live }

/-- What an action makes of a draft.  It fails where an edit has no live handle of its kind or the
handle refers to nothing, and where a definition ends that has not begun. -/
def step (d : Draft) : Action → Option Draft
  | .column name type =>
    let (h, declared) := d.blueprint.addColumn name type
    some (d.next declared (some (.column h)))
  | .editColumn edit =>
    match d.live with
    | some (.column h) =>
      if h.index < d.blueprint.columns.length then
        some (d.next (d.blueprint.editColumn h edit) (some (.column h)))
      else none
    | _ => none
  | .foreignKey column table references =>
    let (h, declared) := d.blueprint.addForeignKey column table references
    some (d.next declared (some (.foreignKey h)))
  | .editForeignKey edit =>
    match d.live with
    | some (.foreignKey h) =>
      if h.index < d.blueprint.foreignKeys.length then
        some (d.next (d.blueprint.editForeignKey h edit) (some (.foreignKey h)))
      else none
    | _ => none
  | .primary columns => some (d.next (d.blueprint.addPrimary columns))
  | .unique column => some (d.next (d.blueprint.addUnique column))
  | .index column => some (d.next (d.blueprint.addIndex column))
  | .check expression => some (d.next (d.blueprint.addCheck expression))
  | .dropColumn name => some (d.next (d.blueprint.addClause (.dropColumn name)))
  | .renameColumn old new => some (d.next (d.blueprint.addClause (.renameColumn old new)))
  | .renameTable name => some (d.next (d.blueprint.addClause (.renameTable name)))
  | .beginChange name =>
    some { blueprint := { table := d.blueprint.table }
           waiting := (name, d.blueprint) :: d.waiting }
  | .endChange =>
    match d.waiting with
    | (name, b) :: waiting => some { blueprint := b.changeColumn name d.blueprint, waiting }
    | [] => none

/-- What actions make of a draft, one after another. -/
def run (d : Draft) : List Action → Option Draft
  | [] => some d
  | a :: actions => (d.step a).bind fun e => e.run actions

theorem run_append (d : Draft) (actions more : List Action) :
    d.run (actions ++ more) = (d.run actions).bind fun e => e.run more := by
  induction actions generalizing d with
  | nil => rfl
  | cons a actions ih =>
      rw [List.cons_append, run, run, Option.bind_assoc]
      simp only [ih]

/-! ### Calls as actions -/

variable {d e : Draft}

/-- An edit goes through exactly if the live handle refers to a column. -/
theorem step_editColumn_iff {edit : ColumnEdit} :
    d.step (.editColumn edit) = some e ↔
      ∃ h, d.live = some (.column h) ∧ h.index < d.blueprint.columns.length ∧
        d.next (d.blueprint.editColumn h edit) (some (.column h)) = e := by
  cases hlive : d.live with
  | none => simp [step, hlive]
  | some handle => cases handle <;> simp [step, hlive]

/-- An edit goes through exactly if the live handle refers to a foreign key. -/
theorem step_editForeignKey_iff {edit : ForeignKeyEdit} :
    d.step (.editForeignKey edit) = some e ↔
      ∃ h, d.live = some (.foreignKey h) ∧ h.index < d.blueprint.foreignKeys.length ∧
        d.next (d.blueprint.editForeignKey h edit) (some (.foreignKey h)) = e := by
  cases hlive : d.live with
  | none => simp [step, hlive]
  | some handle => cases handle <;> simp [step, hlive]

/-- Edits do not move columns, so the handle refers to its column throughout. -/
theorem run_editColumn (h : ColumnHandle) : ∀ (edits : List ColumnEdit) (d : Draft),
    d.live = some (.column h) → h.index < d.blueprint.columns.length →
    d.run (edits.map .editColumn) =
      some (d.next (edits.foldl (fun b edit => b.editColumn h edit) d.blueprint) d.live)
  | [], _, _, _ => rfl
  | edit :: edits, d, hlive, hwithin => by
      have hnext : h.index < (d.blueprint.editColumn h edit).columns.length := by
        rwa [Blueprint.length_columns_editColumn]
      rw [List.map_cons, run, step_editColumn_iff.mpr ⟨h, hlive, hwithin, rfl⟩, Option.bind_some,
        hlive]
      exact run_editColumn h edits (d.next _ _) rfl hnext

theorem run_declare (d : Draft) (name : String) (type : ColumnType) (edits : List ColumnEdit) :
    d.run (Action.declare name type edits) =
      some (d.next (d.blueprint.declare name type edits).2
        (some (.column (d.blueprint.declare name type edits).1))) := by
  rw [Action.declare, run]
  exact run_editColumn _ edits _ rfl (by simp [next])

theorem run_editForeignKey (h : ForeignKeyHandle) : ∀ (edits : List ForeignKeyEdit) (d : Draft),
    d.live = some (.foreignKey h) → h.index < d.blueprint.foreignKeys.length →
    d.run (edits.map .editForeignKey) =
      some (d.next (edits.foldl (fun b edit => b.editForeignKey h edit) d.blueprint) d.live)
  | [], _, _, _ => rfl
  | edit :: edits, d, hlive, hwithin => by
      have hnext : h.index < (d.blueprint.editForeignKey h edit).foreignKeys.length := by
        rwa [Blueprint.length_foreignKeys_editForeignKey]
      rw [List.map_cons, run, step_editForeignKey_iff.mpr ⟨h, hlive, hwithin, rfl⟩,
        Option.bind_some, hlive]
      exact run_editForeignKey h edits (d.next _ _) rfl hnext

theorem run_declareForeignKey (d : Draft) (column table references : String)
    (edits : List ForeignKeyEdit) :
    d.run (.foreignKey column table references :: edits.map .editForeignKey) =
      some (d.next (d.blueprint.declareForeignKey column table references edits).2
        (some (.foreignKey (d.blueprint.declareForeignKey column table references edits).1))) := by
  rw [run]
  exact run_editForeignKey _ edits _ rfl (by simp [next])

mutual

/-- The actions of a call do what the call does. -/
theorem run_actions (d : Draft) :
    ∀ c : Call, ∃ live, d.run c.actions = some (d.next (d.blueprint.call c).2 live)
  | .column name type edits => ⟨_, run_declare d name type edits⟩
  | .timestamps => by
      rw [Call.actions, run_append, run_declare, Option.bind_some, run_declare]
      exact ⟨_, rfl⟩
  | .foreign column table references edits =>
      ⟨_, run_declareForeignKey d column table references edits⟩
  | .primary _ | .unique _ | .index _ | .check _ | .dropColumn _ | .renameColumn _ _
  | .renameTable _ => ⟨none, rfl⟩
  | .changeColumn name definition => by
      obtain ⟨live, hrun⟩ := run_actionsOf
        { blueprint := { table := d.blueprint.table }, waiting := (name, d.blueprint) :: d.waiting }
        definition
      refine ⟨none, ?_⟩
      rw [Call.actions, run, step, Option.bind_some, run_append, hrun]
      rfl

/-- The actions of calls do what the calls do. -/
theorem run_actionsOf (d : Draft) : ∀ calls : List Call,
    ∃ live, d.run (Call.actionsOf calls) = some (d.next (d.blueprint.run calls) live)
  | [] => ⟨d.live, rfl⟩
  | c :: calls => by
      obtain ⟨live, hcall⟩ := run_actions d c
      obtain ⟨live', hcalls⟩ := run_actionsOf (d.next (d.blueprint.call c).2 live) calls
      refine ⟨live', ?_⟩
      rw [Call.actionsOf, run_append, hcall, Option.bind_some, hcalls]
      rfl

end

/-! ### Every point on the way -/

/-- Positions are in order wherever they are: on the blueprint at hand, in the live handle, and on
the blueprints that wait. -/
structure Sound (d : Draft) : Prop where
  blueprint : d.blueprint.Sound
  live : ∀ h ∈ d.live, h.Within d.blueprint
  waiting : ∀ changed ∈ d.waiting, changed.2.Sound

theorem sound_empty (table : String) : ({ blueprint := { table } } : Draft).Sound where
  blueprint := Blueprint.sound_empty table
  live _ h := nomatch h
  waiting _ h := nomatch h

/-- A call on the blueprint at hand leaves no handle. -/
theorem Sound.next (hd : d.Sound) {b : Blueprint} (hb : b.Sound) : (d.next b).Sound where
  blueprint := hb
  live _ h := nomatch h
  waiting := hd.waiting

theorem Sound.next_live (hd : d.Sound) {b : Blueprint} {h : Handle} (hb : b.Sound)
    (hlive : h.Within b) : (d.next b (some h)).Sound where
  blueprint := hb
  live _ hmem := by
    cases hmem
    exact hlive
  waiting := hd.waiting

/-- The step lemma. -/
theorem Sound.step (hd : d.Sound) {a : Action} (h : d.step a = some e) : e.Sound := by
  have hb := hd.blueprint
  cases a with
  | column name type =>
      cases h
      refine hd.next_live (hb.addColumn name type) ?_
      simp [Handle.Within]
  | editColumn edit =>
      obtain ⟨handle, hlive, hwithin, rfl⟩ := step_editColumn_iff.mp h
      refine hd.next_live (hb.editColumn handle edit) ?_
      rwa [Handle.Within, Blueprint.length_columns_editColumn]
  | foreignKey column table references =>
      cases h
      refine hd.next_live (hb.congr rfl rfl) ?_
      simp [Handle.Within]
  | editForeignKey edit =>
      obtain ⟨handle, hlive, hwithin, rfl⟩ := step_editForeignKey_iff.mp h
      refine hd.next_live (hb.congr rfl rfl) ?_
      rwa [Handle.Within, Blueprint.length_foreignKeys_editForeignKey]
  | primary _ | unique _ | index _ | check _ =>
      cases h
      exact hd.next (hb.congr rfl rfl)
  | dropColumn _ | renameColumn _ _ | renameTable _ =>
      cases h
      exact hd.next (hb.append rfl rfl rfl)
  | beginChange name =>
      cases h
      refine ⟨Blueprint.sound_empty _, fun _ h => (nomatch h), ?_⟩
      exact List.forall_mem_cons.mpr ⟨hb, hd.waiting⟩
  | endChange =>
      cases hwaiting : d.waiting with
      | nil => simp [Draft.step, hwaiting] at h
      | cons changed waiting =>
          have hall := hd.waiting
          rw [hwaiting] at hall
          obtain ⟨hchanged, hrest⟩ := List.forall_mem_cons.mp hall
          simp only [Draft.step, hwaiting, Option.some.injEq] at h
          subst h
          exact ⟨hchanged.changeColumn _ _, fun _ h => (nomatch h), hrest⟩

/-- The run lemma. -/
theorem Sound.run (hd : d.Sound) {actions : List Action} (h : d.run actions = some e) :
    e.Sound := by
  induction actions generalizing d with
  | nil =>
      cases h
      exact hd
  | cons a actions ih =>
      obtain ⟨next, hstep, hrun⟩ := Option.bind_eq_some_iff.mp h
      exact ih (hd.step hstep) hrun

/-- Actions that can be taken can be taken up to any point. -/
theorem exists_run_take {actions : List Action} (h : d.run actions = some e) (n : Nat) :
    ∃ passed, d.run (actions.take n) = some passed := by
  rw [← List.take_append_drop n actions, run_append] at h
  obtain ⟨passed, hpassed, -⟩ := Option.bind_eq_some_iff.mp h
  exact ⟨passed, hpassed⟩

/-- **Positions are in order at every point.**  However many of their actions have been taken, calls
have not failed, and have come to a draft whose clauses refer to its columns, each once and in order,
and whose live handle refers to a column or a foreign key.  So it is on the blueprint of a definition
until the changed column is taken from it, and on the blueprints that wait for it.  All actions
together make the blueprint that the calls make. -/
theorem sound_take (table : String) (calls : List Call) :
    (∀ n, ∃ d, ({ blueprint := { table } } : Draft).run ((Call.actionsOf calls).take n) = some d ∧
      d.Sound) ∧
    ∃ live, ({ blueprint := { table } } : Draft).run (Call.actionsOf calls) =
      some { blueprint := ({ table } : Blueprint).run calls, live } := by
  obtain ⟨live, hrun⟩ := run_actionsOf { blueprint := { table } } calls
  refine ⟨fun n => ?_, live, hrun⟩
  obtain ⟨d, hd⟩ := exists_run_take hrun n
  exact ⟨d, hd, (sound_empty table).run hd⟩

/-- Before the end of a definition, when its second column has been declared and edited. -/
example :
    (({ blueprint := { table := "users" } } : Draft).run
      ((Call.actionsOf [.column "id" .integer [.primary],
        .changeColumn "mail" [.column "a" .text [], .column "b" .text [.unique]]]).take 6)).map
      (fun d => (d.blueprint.clauses, d.blueprint.uniques, d.live, d.waiting.map Prod.fst)) =
      some ([.column 0, .column 1], ["b"], some (.column ⟨1⟩), ["mail"]) := by
  rfl

end Draft

end TableGateway.Schema
