import Mathlib.Data.List.Induction
import TableGateway.Proofs.Query.Refusal

/-! # Trailing clauses

Settings are made on a select one after another, in any order and as many as one likes.  A setting
takes the place of the one made before it for the same clause (`SelectOptions.setting_set`), so of
any list of settings the last for each clause is what counts (`SelectOptions.setting_ofList`).  A
blank text and a limit of zero count like any other setting, but they are idle: the clause is not
written.

What is written behind the condition is therefore, in a fixed order, the clause of each last setting
that is not idle (`Sql.selectWith_ofList`), and settings that differ in nothing else come to the same
statement (`Query.compile_selectWith`). -/

namespace TableGateway

open Text

/-- The clauses that may stand behind the condition of a select. -/
inductive TrailingClause where
  | grouping
  | ordering
  | limit
  deriving DecidableEq, Repr

namespace SelectOption

/-- The clause that a setting is made for. -/
def clause : SelectOption → TrailingClause
  | groupBy _ => .grouping
  | orderBy _ => .ordering
  | limit _ => .limit

/-- The clause as it is written. -/
def sql : SelectOption → String
  | groupBy expression => " GROUP BY " ++ expression
  | orderBy expression => " ORDER BY " ++ expression
  | limit rows => " LIMIT " ++ rows.toNat.repr

/-- The setting asks for no clause: its text is blank, or it sets no limit. -/
def Idle : SelectOption → Prop
  | groupBy expression | orderBy expression => Blank expression
  | limit rows => rows = 0

instance : DecidablePred Idle
  | groupBy expression | orderBy expression => inferInstanceAs (Decidable (Blank expression))
  | limit rows => inferInstanceAs (Decidable (rows = 0))

/-- The last of the settings made for a clause. -/
def last? (clause : TrailingClause) (options : List SelectOption) : Option SelectOption :=
  (options.filter fun s => s.clause = clause).getLast?

/-- The last of the settings made for a clause, unless it is idle. -/
def effective? (clause : TrailingClause) (options : List SelectOption) : Option SelectOption :=
  (last? clause options).filter fun s => ¬s.Idle

/-- What an effective setting writes, if there is one. -/
def written (setting : Option SelectOption) : String := (setting.map sql).getD ""

/-- The last setting is the one that was made last. -/
theorem last?_concat (clause : TrailingClause) (options : List SelectOption) (s : SelectOption) :
    last? clause (options ++ [s]) = if s.clause = clause then some s else last? clause options := by
  unfold last?
  by_cases h : s.clause = clause
  · simp [h]
  · simp [h]

/-- Settings for other clauses make no difference. -/
theorem last?_filter_ne {clause other : TrailingClause} (h : clause ≠ other)
    (options : List SelectOption) :
    last? clause (options.filter fun s => s.clause ≠ other) = last? clause options := by
  unfold last?
  rw [List.filter_filter]
  congr 2
  funext s
  by_cases hs : s.clause = clause
  · simp [hs, h]
  · simp [hs]

theorem last?_filter_eq_none (clause : TrailingClause) (options : List SelectOption) :
    last? clause (options.filter fun s => s.clause ≠ clause) = none := by
  simp [last?, List.filter_filter]

/-- An idle setting takes back what was set for its clause before. -/
theorem effective?_concat_of_idle {s : SelectOption} (h : s.Idle) (options : List SelectOption)
    (clause : TrailingClause) :
    effective? clause (options ++ [s]) =
      effective? clause (options.filter fun t => t.clause ≠ s.clause) := by
  unfold effective?
  rw [last?_concat]
  by_cases hs : s.clause = clause
  · subst hs
    rw [if_pos rfl, last?_filter_eq_none]
    simp [Option.filter, h]
  · rw [if_neg hs, last?_filter_ne (Ne.symm hs)]

end SelectOption

open SelectOption

/-! ### Settings that are kept -/

namespace SelectOptions

/-- The setting that is kept for a clause. -/
def setting (o : SelectOptions) : TrailingClause → Option SelectOption
  | .grouping => o.groupBy.map .groupBy
  | .ordering => o.orderBy.map .orderBy
  | .limit => o.limit.map .limit

theorem setting_set (o : SelectOptions) (s : SelectOption) (clause : TrailingClause) :
    (o.set s).setting clause = if s.clause = clause then some s else o.setting clause := by
  cases s <;> cases clause <;> rfl

theorem setting_ofList (options : List SelectOption) (clause : TrailingClause) :
    (ofList options).setting clause = last? clause options := by
  induction options using List.reverseRecOn with
  | nil => cases clause <;> rfl
  | append_singleton options s ih =>
      have hset : ofList (options ++ [s]) = (ofList options).set s := by simp [ofList]
      rw [hset, setting_set, ih, last?_concat]

end SelectOptions

/-! ### Clauses that are written -/

namespace Sql

theorem optionalClause_eq (keyword : String) (make : String → SelectOption)
    (hsql : ∀ t, (make t).sql = keyword ++ t) (hidle : ∀ t, (make t).Idle ↔ Blank t)
    (text : Option String) :
    optionalClause keyword text = written ((text.map make).filter fun s => ¬s.Idle) := by
  cases text with
  | none => rfl
  | some t =>
      by_cases h : Blank t
      · rw [optionalClause_of_isBlank (blank_iff.mp h)]
        simp [Option.filter, (hidle t).mpr h, written]
      · rw [optionalClause_of_isBlank_eq_false (Bool.eq_false_iff.mpr (blank_iff.not.mp h))]
        simp [Option.filter, (hidle t).not.mpr h, written, hsql]

theorem limitClause_eq (rows : Option UInt64) :
    limitClause rows = written ((rows.map .limit).filter fun s => ¬s.Idle) := by
  cases rows with
  | none => rfl
  | some n =>
      by_cases h : n = 0
      · simp [limitClause, Option.filter, Idle, h, written]
      · simp [limitClause, Option.filter, Idle, h, written, sql]

/-- What stands behind the condition, clause by clause. -/
theorem selectWith_ofList (table condition : String) (options : List SelectOption) :
    selectWith table condition (.ofList options) =
      select table condition ++ written (effective? .grouping options) ++
        written (effective? .ordering options) ++ written (effective? .limit options) := by
  have hgrouping := optionalClause_eq " GROUP BY " .groupBy (fun _ => rfl) (fun _ => .rfl)
    (SelectOptions.ofList options).groupBy
  have hordering := optionalClause_eq " ORDER BY " .orderBy (fun _ => rfl) (fun _ => .rfl)
    (SelectOptions.ofList options).orderBy
  unfold effective?
  simp only [selectWith, ← SelectOptions.setting_ofList]
  rw [hgrouping, hordering, limitClause_eq]
  rfl

end Sql

namespace Query

variable {table : Option String} {c : Condition}

/-- Without the name of a table no query is looked at. -/
theorem compile_of_unnamed (h : ∀ name ∈ table, Blank name) (q : Query) :
    q.compile table = .error .tableNotSet := by
  rw [compile_eq_error_iff]
  cases table with
  | none => exact .unbound q
  | some name => exact .blankTable q (h name rfl)

theorem compile_of_named {name : String} (hname : ¬Blank name) {q : Query}
    (hcheck : q.check = .ok ()) : q.compile (some name) = .ok (q.statement name) :=
  compile_eq_ok_iff.mpr ⟨Bool.eq_false_iff.mpr (blank_iff.not.mp hname), hcheck, rfl⟩

/-- Settings that come to the same clauses come to the same statement. -/
theorem compile_selectWith_congr {options other : List SelectOption}
    (h : ∀ clause, effective? clause options = effective? clause other) :
    (selectWith c (.ofList options)).compile table =
      (selectWith c (.ofList other)).compile table := by
  have hstatement : ∀ name, (selectWith c (.ofList options)).statement name =
      (selectWith c (.ofList other)).statement name := by
    intro name
    simp only [statement, Sql.selectWith_ofList, h]
  simp only [compile, hstatement, check]

/-- **A select with settings** is the select without them and, behind its condition, what the last
setting for each clause writes: grouping, ordering and limit, in this order, each left out if no
setting is made for it or the last one is idle.  It is refused where the select without is, the
values are those of the condition, settings that come to the same clauses make the same statement,
and an idle setting is as good as none having been made for its clause. -/
theorem compile_selectWith (table : Option String) (hc : ¬Blank c.sql)
    (options : List SelectOption) :
    ((∀ name ∈ table, Blank name) →
      (select c).compile table = .error .tableNotSet ∧
        (selectWith c (.ofList options)).compile table = .error .tableNotSet) ∧
    (∀ name ∈ table, ¬Blank name → ∃ sql,
      (select c).compile table = .ok ⟨.select, sql, c.bindings⟩ ∧
        (selectWith c (.ofList options)).compile table =
          .ok ⟨.select, sql ++ written (effective? .grouping options) ++
            written (effective? .ordering options) ++ written (effective? .limit options),
            c.bindings⟩) ∧
    (∀ other, (∀ clause, effective? clause options = effective? clause other) →
      (selectWith c (.ofList options)).compile table =
        (selectWith c (.ofList other)).compile table) ∧
    ∀ s : SelectOption, s.Idle →
      (selectWith c (.ofList (options ++ [s]))).compile table =
        (selectWith c (.ofList (options.filter fun t => t.clause ≠ s.clause))).compile table := by
  refine ⟨fun hblank => ⟨compile_of_unnamed hblank _, compile_of_unnamed hblank _⟩, ?_,
    fun other hother => compile_selectWith_congr hother,
    fun s hidle => compile_selectWith_congr (effective?_concat_of_idle hidle options)⟩
  rintro name rfl hname
  have hselect : (select c).check = .ok () := if_neg (blank_iff.not.mp hc)
  have hwith : (selectWith c (.ofList options)).check = .ok () := hselect
  refine ⟨Sql.select name c.sql, compile_of_named hname hselect, ?_⟩
  rw [compile_of_named hname hwith, statement, Sql.selectWith_ofList]

/-- An earlier grouping is taken back by a blank one, the last ordering counts, and a limit may be
as large as it can be. -/
theorem compile_selectWith_overwritten :
    let c : Condition := ⟨"state = ?", [.text "open"]⟩
    let options : List SelectOption := [.limit 5, .orderBy "name", .groupBy "city", .orderBy "id",
      .groupBy " ", .limit 18446744073709551615]
    ¬Blank c.sql ∧ ¬Blank "people" ∧
      (selectWith c (.ofList options)).compile (some "people") = .ok ⟨.select,
        "SELECT * FROM people WHERE state = ? ORDER BY id LIMIT 18446744073709551615",
        [.text "open"]⟩ ∧
      (selectWith c (.ofList (options ++ [.limit 0]))).compile (some "people") = .ok ⟨.select,
        "SELECT * FROM people WHERE state = ? ORDER BY id", [.text "open"]⟩ := by
  intro c options
  have hc : ¬Blank c.sql := by decide
  have hname : ¬Blank "people" := by decide
  obtain ⟨-, hstatement, -, hidle⟩ := compile_selectWith (some "people") hc options
  obtain ⟨sql, hselect, hwith⟩ := hstatement "people" rfl hname
  have hcheck : (select c).check = .ok () := if_neg (blank_iff.not.mp hc)
  rw [compile_of_named hname hcheck] at hselect
  cases hselect
  refine ⟨hc, hname, ?_, ?_⟩
  · rw [hwith]
    decide +kernel
  · rw [hidle (.limit 0) rfl]
    decide +kernel

end Query

end TableGateway
