import TableGateway.Proofs.Text.Literal
import TableGateway.Schema.Column

/-! # The literals of a column

A column has literals at three places: as its default, as its comment and among the values of its
enumeration.  At each of them the text is written by `Text.quoted` between fixed words and the other
values (`Site.sql_eq`), with its quotes doubled and its backslashes as they are.  A database whose
literals have escapes reads a text back from there exactly if the text keeps its backslashes
(`Site.read_back_iff`).  Every text without a backslash does (`Text.kept_of_not_mem`), and a text of
one backslash is the shortest that does not (`not_forall_read_back`). -/

namespace TableGateway.Schema

open Text

/-- The places of a column where a text is written as a literal. -/
inductive Site where
  | default
  | comment
  /-- Among the values of an enumeration. -/
  | value (before after : List String)

namespace Site

/-- What is written of a column for a text at the place. -/
def sql (s : String) : Site → String
  | .default => (Modifier.default (.string s)).sql
  | .comment => (Modifier.comment s).sql
  | .value before after => (ColumnType.enumeration (before ++ s :: after)).sql

/-- What stands before the literal. -/
def front : Site → String
  | .default => "DEFAULT "
  | .comment => "COMMENT "
  | .value before _ => "ENUM(" ++ String.join (before.map fun v => quoted v ++ ", ")

/-- What stands behind the literal. -/
def back : Site → String
  | .default | .comment => ""
  | .value _ after => String.join (after.map fun v => ", " ++ quoted v) ++ ")"

theorem sql_eq (s : String) : ∀ site : Site, site.sql s = site.front ++ quoted s ++ site.back
  | .default | .comment => String.append_empty.symm
  | .value before after => by
      have hlist : Sql.commaList ((before ++ s :: after).map quoted) =
          String.join (before.map fun v => quoted v ++ ", ") ++
            (quoted s ++ String.join (after.map fun v => ", " ++ quoted v)) := by
        rw [List.map_append, List.map_cons, commaList_append_cons, List.map_map, List.map_map]
        rfl
      simp only [sql, front, back, ColumnType.sql, hlist, String.append_assoc]

/-- What stands behind a literal is empty, a comma or the closing parenthesis. -/
theorem head?_back_ne : ∀ site : Site, site.back.toList.head? ≠ some quote
  | .default | .comment => by simp [back]
  | .value _ [] => by simp [back, quote]
  | .value _ (v :: after) => by simp [back, quote]

/-- **A text comes back from its literal exactly if it keeps its backslashes.**  Wherever a column
has a text, the text is written as one literal between fixed words; read with escapes, alone or in
its place, the literal ends where it was written to end and says the text if and only if each
backslash of the text stands directly before `%` or `_`. -/
theorem read_back_iff (site : Site) (s : String) :
    site.sql s = site.front ++ quoted s ++ site.back ∧
      (literal? true (quoted s).toList = some (s, []) ↔ Kept s.toList) ∧
      (literal? true ((quoted s).toList ++ site.back.toList) = some (s, site.back.toList) ↔
        Kept s.toList) := by
  have halone : ([] : List Char).head? ≠ some quote := (Option.some_ne_none _).symm
  refine ⟨site.sql_eq s, ?_, literal?_quoted_iff site.head?_back_ne⟩
  rw [← literal?_quoted_iff (s := s) halone, List.append_nil]

end Site

/-- The literal of one backslash does not end: its closing quote is read as part of the text. -/
theorem not_forall_read_back :
    ¬∀ (site : Site) (s : String), site.sql s = site.front ++ quoted s ++ site.back ∧
      literal? true (quoted s).toList = some (s, []) := by
  intro h
  have hread := (h .default "\\").2
  have hnone : literal? true (quoted "\\").toList = none := by decide
  rw [hnone] at hread
  cases hread

/-- A backslash before a letter is lost without a sign of it. -/
example : literal? true (quoted "C:\\new").toList = some ("C:\new", []) := by decide

end TableGateway.Schema
