import Mathlib.Data.List.TakeWhile
import TableGateway.Proofs.Query.Accepted

/-! # Refused queries

The faults for which a query is refused, read off the query without running a check.  They come in
three layers, of which the first that has a fault decides: the table (`Refused`), the fields or the
field list (`FieldFault`), the condition (`Fault`).  Among the entries of an insert the first bad one
decides (`BadEntry`).

Blank means that nothing is left when white space is trimmed off both ends (`Text.Blank`).
`compile_outcome` says that a query is refused for these faults and for no other reason. -/

namespace TableGateway

/-! ### Blank text -/

namespace Text

/-- The text without the white space at its ends. -/
def trimmed (s : List Char) : List Char :=
  ((s.dropWhile isWhiteSpace).reverse.dropWhile isWhiteSpace).reverse

/-- Nothing is left of the text when it is trimmed. -/
def Blank (s : String) : Prop := trimmed s.toList = []

instance (s : String) : Decidable (Blank s) :=
  inferInstanceAs (Decidable (trimmed s.toList = []))

theorem trimmed_eq_nil_iff {s : List Char} :
    trimmed s = [] ↔ ∀ c ∈ s, isWhiteSpace c = true := by
  unfold trimmed
  rw [List.reverse_eq_nil_iff, List.dropWhile_eq_nil_iff]
  constructor
  · intro h
    rw [← List.dropWhile_eq_nil_iff]
    -- The first character kept, if there were one, would not be white space.
    by_contra hne
    have hhead := List.head_dropWhile_not isWhiteSpace hne
    have hmem : (s.dropWhile isWhiteSpace).head hne ∈ (s.dropWhile isWhiteSpace).reverse :=
      List.mem_reverse.mpr (List.head_mem hne)
    rw [h _ hmem] at hhead
    cases hhead
  · intro h c hc
    exact h c ((List.dropWhile_sublist _).subset (List.mem_reverse.mp hc))

theorem blank_iff {s : String} : Blank s ↔ isBlank s = true := by
  unfold Blank
  rw [trimmed_eq_nil_iff, isBlank_iff]

end Text

open Text

/-! ### The faults of a query -/

/-- An entry that can be inserted. -/
def Insertable (e : Entry) : Prop := ¬Blank e.1 ∧ e.2 ≠ .null

/-- An entry that cannot be inserted, and why not.  A blank column counts even where the value is
null. -/
inductive BadEntry : Entry → Rejection → Prop
  | blank {column : String} {value : Value} :
      Blank column → BadEntry (column, value) .invalidField
  | null {column : String} : ¬Blank column → BadEntry (column, .null) (.nullValue column)

namespace Query

/-- The condition that a query cannot do without. -/
def required : Query → Option Condition
  | select c | selectWith c _ | update _ c | delete c | .exists c => some c
  | insert _ | selectFields _ _ | count _ | truncate => none

/-- What is wrong with the fields of a query, or with its field list. -/
inductive FieldFault : Query → Rejection → Prop
  | insertNothing {fields : Record} :
      fields.entries = [] → FieldFault (.insert fields) (.emptyFields .insert)
  /-- The first bad entry of an insert. -/
  | insertEntry {fields : Record} {before after : List Entry} {e : Entry} {r : Rejection} :
      fields.entries = before ++ e :: after → (∀ d ∈ before, Insertable d) → BadEntry e r →
      FieldFault (.insert fields) r
  | updateNothing {fields : Record} {c : Condition} :
      fields.entries = [] → FieldFault (.update fields c) (.emptyFields .update)
  | updateBlank {fields : Record} {c : Condition} {column : String} :
      column ∈ fields.columns → Blank column → FieldFault (.update fields c) .invalidField
  | blankList {list : String} {c : Option Condition} :
      Blank list → FieldFault (.selectFields list c) .invalidField

/-- What is wrong with a query.  A condition is looked at where nothing else is wrong. -/
inductive Fault (q : Query) : Rejection → Prop
  | fields {r : Rejection} : FieldFault q r → Fault q r
  | condition {c : Condition} :
      (∀ r, ¬FieldFault q r) → q.required = some c → Blank c.sql → Fault q .emptyCondition

/-- Why a query is refused.  The query is looked at where the table is named. -/
inductive Refused : Option String → Query → Rejection → Prop
  | unbound (q : Query) : Refused none q .tableNotSet
  | blankTable {table : String} (q : Query) : Blank table → Refused (some table) q .tableNotSet
  | fault {table : String} {q : Query} {r : Rejection} :
      ¬Blank table → Fault q r → Refused (some table) q r

end Query

/-! ### The checks -/

namespace Check

/-- What a text is refused for, if it is refused when blank and for nothing else. -/
theorem refuse_blank_eq_error_iff {s : String} {refusal r : Rejection} :
    (if isBlank s then .error refusal else .ok () : Except Rejection Unit) = .error r ↔
      Blank s ∧ r = refusal := by
  rw [blank_iff]
  by_cases h : isBlank s = true
  · simp [h, eq_comm]
  · simp [h]

theorem condition_eq_error_iff {sql : String} {r : Rejection} :
    condition sql = .error r ↔ Blank sql ∧ r = .emptyCondition := refuse_blank_eq_error_iff

theorem fieldList_eq_error_iff {list : String} {r : Rejection} :
    fieldList list = .error r ↔ Blank list ∧ r = .invalidField := refuse_blank_eq_error_iff

theorem insertable_or_bad (e : Entry) : Insertable e ∨ ∃ r, BadEntry e r := by
  obtain ⟨column, value⟩ := e
  by_cases hblank : Blank column
  · exact .inr ⟨_, .blank hblank⟩
  · by_cases hnull : value = .null
    · subst hnull
      exact .inr ⟨_, .null hblank⟩
    · exact .inl ⟨hblank, hnull⟩

theorem insertEntries_of_bad {e : Entry} {r : Rejection} (h : BadEntry e r) (rest : List Entry) :
    insertEntries (e :: rest) = .error r := by
  cases h with
  | blank hblank => rw [insertEntries, if_pos (blank_iff.mp hblank)]
  | null hblank =>
      have hnamed := blank_iff.not.mp hblank
      rw [insertEntries, if_neg hnamed, if_pos (Value.isNull_iff.mpr rfl)]

theorem insertEntries_of_insertable {e : Entry} (h : Insertable e) (rest : List Entry) :
    insertEntries (e :: rest) = insertEntries rest := by
  obtain ⟨column, value⟩ := e
  have hnamed := blank_iff.not.mp h.1
  have hvalue := Value.isNull_iff.not.mpr h.2
  rw [insertEntries, if_neg hnamed, if_neg hvalue]

theorem insertEntries_append {before : List Entry} (h : ∀ d ∈ before, Insertable d)
    (rest : List Entry) : insertEntries (before ++ rest) = insertEntries rest := by
  induction before with
  | nil => rfl
  | cons d before ih =>
      obtain ⟨hd, hbefore⟩ := List.forall_mem_cons.mp h
      rw [List.cons_append, insertEntries_of_insertable hd, ih hbefore]

/-- The first entry that is bad decides. -/
theorem insertEntries_eq_error_iff {r : Rejection} {entries : List Entry} :
    insertEntries entries = .error r ↔ ∃ before e after,
      entries = before ++ e :: after ∧ (∀ d ∈ before, Insertable d) ∧ BadEntry e r := by
  constructor
  · intro h
    induction entries with
    | nil => cases h
    | cons e rest ih =>
        rcases insertable_or_bad e with hgood | ⟨s, hbad⟩
        · rw [insertEntries_of_insertable hgood] at h
          obtain ⟨before, d, after, rfl, hbefore, hbad⟩ := ih h
          exact ⟨e :: before, d, after, rfl, List.forall_mem_cons.mpr ⟨hgood, hbefore⟩, hbad⟩
        · rw [insertEntries_of_bad hbad] at h
          cases h
          exact ⟨[], e, rest, rfl, List.forall_mem_nil _, hbad⟩
  · rintro ⟨before, e, after, rfl, hbefore, hbad⟩
    rw [insertEntries_append hbefore, insertEntries_of_bad hbad]

theorem not_insertable_of_bad {e : Entry} {r : Rejection} (h : BadEntry e r) : ¬Insertable e := by
  intro hgood
  cases h with
  | blank hblank => exact hgood.1 hblank
  | null _ => exact hgood.2 rfl

theorem insertEntries_eq_ok_iff {entries : List Entry} :
    insertEntries entries = .ok () ↔ ∀ e ∈ entries, Insertable e := by
  induction entries with
  | nil => simp [insertEntries]
  | cons e rest ih =>
      rw [List.forall_mem_cons]
      rcases insertable_or_bad e with hgood | ⟨r, hbad⟩
      · rw [insertEntries_of_insertable hgood, ih, and_iff_right hgood]
      · have hnot := not_insertable_of_bad hbad
        rw [insertEntries_of_bad hbad]
        simp [hnot]

theorem insertFields_eq_ok_iff {fields : Record} :
    insertFields fields = .ok () ↔
      fields.entries ≠ [] ∧ ∀ e ∈ fields.entries, Insertable e := by
  unfold insertFields Record.isEmpty
  rw [← insertEntries_eq_ok_iff]
  cases fields.entries with
  | nil => simp
  | cons e rest => simp

theorem insertFields_eq_error_iff {fields : Record} {r : Rejection} :
    insertFields fields = .error r ↔
      (fields.entries = [] ∧ r = .emptyFields .insert) ∨ insertEntries fields.entries = .error r := by
  unfold insertFields Record.isEmpty
  cases fields.entries with
  | nil => simp [insertEntries, eq_comm]
  | cons e rest => simp

/-- No column at all comes before a blank one. -/
theorem updateFields_eq_error_iff {fields : Record} {r : Rejection} :
    updateFields fields = .error r ↔
      (fields.entries = [] ∧ r = .emptyFields .update) ∨
        ((∃ column ∈ fields.columns, Blank column) ∧ r = .invalidField) := by
  by_cases hnil : fields.entries = []
  · have herror : updateFields fields = .error (.emptyFields .update) := by
      simp [updateFields, Record.isEmpty, hnil]
    have hnone : ¬∃ column ∈ fields.columns, Blank column := by simp [Record.columns, hnil]
    simp only [herror, hnil, hnone, Except.error.injEq, true_and, false_and, or_false]
    exact eq_comm
  · have hsome : ¬fields.isEmpty = true := by simpa [Record.isEmpty] using hnil
    have hany : fields.columns.any isBlank = true ↔ ∃ column ∈ fields.columns, Blank column := by
      simp only [List.any_eq_true, blank_iff]
    rw [updateFields, if_neg hsome]
    by_cases hblank : ∃ column ∈ fields.columns, Blank column
    · rw [if_pos (hany.mpr hblank)]
      simp only [hblank, hnil, Except.error.injEq, true_and, false_and, false_or]
      exact eq_comm
    · rw [if_neg (hany.not.mpr hblank)]
      simp [hblank, hnil]

theorem updateFields_eq_ok_iff {fields : Record} :
    updateFields fields = .ok () ↔
      fields.entries ≠ [] ∧ ∀ column ∈ fields.columns, ¬Blank column := by
  unfold updateFields Record.isEmpty
  by_cases hnil : fields.entries = []
  · simp [hnil]
  · have hsome : ¬fields.entries.isEmpty = true := by simpa using hnil
    have hany : fields.columns.any isBlank = true ↔ ¬∀ column ∈ fields.columns, ¬Blank column := by
      simp only [List.any_eq_true, blank_iff, not_forall, not_not, exists_prop]
    rw [if_neg hsome, and_iff_right hnil]
    by_cases hnamed : ∀ column ∈ fields.columns, ¬Blank column
    · have hnone : ¬fields.columns.any isBlank = true := fun h => hany.mp h hnamed
      rw [if_neg hnone]
      exact iff_of_true rfl hnamed
    · rw [if_pos (hany.mpr hnamed)]
      exact iff_of_false (by simp) hnamed

end Check

namespace Query

variable {q : Query} {r : Rejection}

theorem fault_iff_of_unconditional (h : q.required = none) : Fault q r ↔ FieldFault q r := by
  constructor
  · intro hfault
    cases hfault with
    | fields hfield => exact hfield
    | condition _ hc _ => rw [h] at hc; cases hc
  · exact .fields

theorem fault_iff_of_required {c : Condition} (hc : q.required = some c)
    (h : ∀ r, ¬FieldFault q r) : Fault q r ↔ Check.condition c.sql = .error r := by
  rw [Check.condition_eq_error_iff]
  constructor
  · intro hfault
    cases hfault with
    | fields hfield => exact absurd hfield (h r)
    | condition _ hd hblank =>
        rw [hc] at hd
        cases hd
        exact ⟨hblank, rfl⟩
  · rintro ⟨hblank, rfl⟩
    exact .condition h hc hblank

theorem fieldFault_insert_iff {fields : Record} :
    FieldFault (.insert fields) r ↔ Check.insertFields fields = .error r := by
  rw [Check.insertFields_eq_error_iff, Check.insertEntries_eq_error_iff]
  constructor
  · intro h
    cases h with
    | insertNothing hnil => exact .inl ⟨hnil, rfl⟩
    | insertEntry hentries hbefore hbad => exact .inr ⟨_, _, _, hentries, hbefore, hbad⟩
  · rintro (⟨hnil, rfl⟩ | ⟨before, e, after, hentries, hbefore, hbad⟩)
    · exact .insertNothing hnil
    · exact .insertEntry hentries hbefore hbad

theorem fieldFault_update_iff {fields : Record} {c : Condition} :
    FieldFault (.update fields c) r ↔ Check.updateFields fields = .error r := by
  rw [Check.updateFields_eq_error_iff]
  constructor
  · intro h
    cases h with
    | updateNothing hnil => exact .inl ⟨hnil, rfl⟩
    | updateBlank hcolumn hblank => exact .inr ⟨⟨_, hcolumn, hblank⟩, rfl⟩
  · rintro (⟨hnil, rfl⟩ | ⟨⟨column, hcolumn, hblank⟩, rfl⟩)
    · exact .updateNothing hnil
    · exact .updateBlank hcolumn hblank

theorem fieldFault_selectFields_iff {list : String} {c : Option Condition} :
    FieldFault (.selectFields list c) r ↔ Check.fieldList list = .error r := by
  rw [Check.fieldList_eq_error_iff]
  constructor
  · intro h
    cases h with
    | blankList hblank => exact ⟨hblank, rfl⟩
  · rintro ⟨hblank, rfl⟩
    exact .blankList hblank

/-- A query fails its check for its fault and for no other reason. -/
theorem check_eq_error_iff : q.check = .error r ↔ Fault q r := by
  cases q with
  | insert fields => rw [fault_iff_of_unconditional rfl, fieldFault_insert_iff]; rfl
  | selectFields list c => rw [fault_iff_of_unconditional rfl, fieldFault_selectFields_iff]; rfl
  | select c | selectWith c options | delete c | «exists» c =>
      rw [fault_iff_of_required rfl fun s h => by cases h]
      rfl
  | count c | truncate =>
      rw [fault_iff_of_unconditional rfl]
      constructor
      · intro h; cases h
      · intro h; cases h
  | update fields c =>
      -- The condition is reached exactly where the fields pass.
      cases hfields : Check.updateFields fields with
      | error s =>
          have hfault : FieldFault (.update fields c) s := fieldFault_update_iff.mpr hfields
          simp only [check, hfields, bind, Except.bind, Except.error.injEq]
          constructor
          · rintro rfl
            exact .fields hfault
          · intro h
            cases h with
            | fields hr =>
                rw [fieldFault_update_iff, hfields] at hr
                exact Except.error.inj hr
            | condition hno _ _ => exact absurd hfault (hno s)
      | ok _ =>
          have hno : ∀ s, ¬FieldFault (.update fields c) s := by
            intro s hs
            rw [fieldFault_update_iff, hfields] at hs
            cases hs
          rw [fault_iff_of_required rfl hno]
          simp only [check, hfields, bind, Except.bind]

theorem compile_eq_error_iff {table : Option String} :
    q.compile table = .error r ↔ Refused table q r := by
  cases table with
  | none =>
      have h : q.compile none = .error .tableNotSet := rfl
      rw [h, Except.error.injEq]
      constructor
      · rintro rfl
        exact .unbound q
      · intro h
        cases h with
        | unbound => rfl
  | some name =>
      by_cases hblank : Blank name
      · have herror : q.compile (some name) = .error .tableNotSet := by
          simp [compile, Check.table, blank_iff.mp hblank, bind, Except.bind]
        rw [herror, Except.error.injEq]
        constructor
        · rintro rfl
          exact .blankTable q hblank
        · intro h
          cases h with
          | blankTable => rfl
          | fault hnamed _ => exact absurd hblank hnamed
      · have hcheck : q.compile (some name) = .error r ↔ q.check = .error r := by
          have htable : Check.table (some name) = .ok name := if_neg (blank_iff.not.mp hblank)
          cases hq : q.check with
          | error s => simp [compile, htable, hq, bind, Except.bind]
          | ok _ => simp [compile, htable, hq, bind, Except.bind, pure, Except.pure]
        rw [hcheck, check_eq_error_iff]
        constructor
        · exact .fault hblank
        · intro h
          cases h with
          | blankTable _ hname => exact absurd hname hblank
          | fault _ hfault => exact hfault

/-- **What comes of a query.**  It is refused for the fault that is listed first, and without a
fault there is a statement, on a table that is named. -/
theorem compile_outcome (table : Option String) (q : Query) :
    (∀ r, q.compile table = .error r ↔ Refused table q r) ∧
      ((∀ r, ¬Refused table q r) ↔
        ∃ name, table = some name ∧ ¬Blank name ∧ q.compile table = .ok (q.statement name)) := by
  refine ⟨fun r => compile_eq_error_iff, ?_⟩
  constructor
  · intro hnone
    cases table with
    | none => exact absurd (.unbound q) (hnone _)
    | some name =>
        have hnamed : ¬Blank name := fun hblank => hnone _ (.blankTable q hblank)
        cases hq : q.compile (some name) with
        | error r => exact absurd (compile_eq_error_iff.mp hq) (hnone r)
        | ok s =>
            obtain ⟨-, -, hs⟩ := compile_eq_ok_iff.mp hq
            exact ⟨name, rfl, hnamed, by rw [hs]⟩
  · rintro ⟨name, rfl, -, hok⟩ r hr
    rw [compile_eq_error_iff.mpr hr] at hok
    cases hok

/-- Of several faults the first entry's is named, and a blank column before its null value. -/
example : (insert (.ofList [("a", .null), (" ", .int 1)])).compile (some "t") =
    .error (.nullValue "a") ∧
    (insert (.ofList [(" ", .null), ("a", .null)])).compile (some "t") = .error .invalidField := by
  exact ⟨rfl, rfl⟩

end Query

end TableGateway
