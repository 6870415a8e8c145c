import TableGateway.Query

/-! # Accepted queries

When the checks pass, and what a statement then is (`Query.compile_eq_ok_iff`).  What may be left
out of it is left out where its text is blank. -/

namespace TableGateway

namespace Check

theorem condition_eq_ok_iff {sql : String} :
    condition sql = .ok () ↔ Text.isBlank sql = false := by
  unfold condition
  by_cases h : Text.isBlank sql = true
  · simp [h]
  · simp [h]

end Check

namespace Sql

variable {keyword text : String}

theorem optionalClause_of_isBlank (h : Text.isBlank text = true) :
    optionalClause keyword (some text) = "" := by
  unfold optionalClause Text.nonBlank?
  rw [Option.bind_some, if_pos h]

theorem optionalClause_of_isBlank_eq_false (h : Text.isBlank text = false) :
    optionalClause keyword (some text) = keyword ++ text := by
  unfold optionalClause Text.nonBlank?
  rw [Option.bind_some, if_neg (Bool.eq_false_iff.mp h)]

end Sql

namespace Query

theorem effective_of_isBlank {c : Condition} (h : c.isBlank = true) :
    effective (some c) = none := by
  simp [effective, Option.filter, h]

theorem effective_of_isBlank_eq_false {c : Condition} (h : c.isBlank = false) :
    effective (some c) = some c := by
  simp [effective, Option.filter, h]

theorem check_update_eq_ok_iff {fields : Record} {c : Condition} :
    (update fields c).check = .ok () ↔
      Check.updateFields fields = .ok () ∧ Check.condition c.sql = .ok () := by
  rw [check]
  cases Check.updateFields fields with
  | error rejection => simp [bind, Except.bind]
  | ok _ => simp [bind, Except.bind]

/-- A statement comes of a query exactly when the table is named and the query passes its check. -/
theorem compile_eq_ok_iff {table : String} {q : Query} {s : Statement} :
    q.compile (some table) = .ok s ↔
      Text.isBlank table = false ∧ q.check = .ok () ∧ q.statement table = s := by
  unfold compile
  by_cases h : Text.isBlank table = true
  · have herror : Check.table (some table) = .error .tableNotSet := if_pos h
    simp [herror, h, bind, Except.bind]
  · have hok : Check.table (some table) = .ok table := if_neg h
    cases hcheck : q.check with
    | error rejection => simp [hok, bind, Except.bind]
    | ok _ => simp [hok, h, bind, Except.bind, pure, Except.pure]

end Query

end TableGateway
