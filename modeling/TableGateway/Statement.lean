import TableGateway.Text.Blank
import TableGateway.Value

/-! # Conditions and statements

A `Condition` goes into a statement and a `Statement` comes out.  Both are SQL text together with
the values of its placeholders, in order.  That a condition has as many placeholders as values is
for its writer to see to. -/

namespace TableGateway

/-- A boolean expression of SQL with the values of its placeholders. -/
structure Condition where
  sql : String
  bindings : List Value := []
  deriving DecidableEq, Repr

namespace Condition

/-- Adds the value of the next placeholder. -/
def bind {α : Type} [ToValue α] (c : Condition) (value : α) : Condition :=
  { c with bindings := c.bindings ++ [toValue value] }

/-- Adds the values of the next placeholders. -/
def bindAll {α : Type} [ToValue α] (c : Condition) (values : List α) : Condition :=
  { c with bindings := c.bindings ++ values.map toValue }

/-- Whether the expression is blank. -/
def isBlank (c : Condition) : Bool := Text.isBlank c.sql

end Condition

/-- What a statement does. -/
inductive StatementKind where
  | insert
  | select
  | update
  | delete
  | count
  | exists
  | truncate
  | raw
  | schema
  deriving DecidableEq, Repr

/-- SQL text ready to be sent, with the values of its placeholders. -/
structure Statement where
  kind : StatementKind
  sql : String
  bindings : List Value := []
  deriving DecidableEq, Repr

namespace Statement

/-- SQL written by hand, taken as it is. -/
def raw (sql : String) (bindings : List Value) : Statement := ⟨.raw, sql, bindings⟩

/-- A change of the schema, which binds nothing. -/
def schema (sql : String) : Statement := ⟨.schema, sql, []⟩

/-- The text and the values, apart. -/
def parts (s : Statement) : String × List Value := (s.sql, s.bindings)

instance : ToString Statement := ⟨Statement.sql⟩

end Statement

end TableGateway
