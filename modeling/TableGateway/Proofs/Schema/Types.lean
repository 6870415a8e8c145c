import Mathlib.Logic.Function.Basic
import TableGateway.Proofs.Schema.Separation
import TableGateway.Proofs.Text.Literal
import TableGateway.Proofs.Text.Numbers

/-! # Types read back

The text of a type is a name, or a name with arguments in parentheses.  `ofSql?` reads it: the first
parenthesis ends the name, since no name has one, and the last character closes the arguments, so
these may have parentheses of their own.  Numbers are read back from their digits and the values of
an enumeration from their literals, hence every type is read back from its text (`ofSql?_sql`) and
no two types have the same one (`sql_injective`). -/

namespace TableGateway

open Text

namespace Text

/-! ### Numbers -/

/-- The number of a text, if it fits into eight bits. -/
def uint8? (s : String) : Option UInt8 :=
  (natural? s.toList).bind fun n => if h : n < UInt8.size then some (.ofNatLT n h) else none

theorem uint8?_repr (n : UInt8) : uint8? n.toNat.repr = some n := by
  rw [uint8?, natural?_repr, Option.bind_some, dif_pos n.toNat_lt_size, UInt8.ofNatLT_toNat]

/-- The number of a text, if it fits into 32 bits. -/
def uint32? (s : String) : Option UInt32 :=
  (natural? s.toList).bind fun n => if h : n < UInt32.size then some (.ofNatLT n h) else none

theorem uint32?_repr (n : UInt32) : uint32? n.toNat.repr = some n := by
  rw [uint32?, natural?_repr, Option.bind_some, dif_pos n.toNat_lt_size, UInt32.ofNatLT_toNat]

end Text

namespace Schema.ColumnType

/-! ### Reading -/

/-- The type whose text is a name alone. -/
def plain? : String → Option ColumnType
  | "INT AUTO_INCREMENT PRIMARY KEY" => some .increments
  | "INT" => some .integer
  | "TEXT" => some .text
  | "DATE" => some .date
  | "DATETIME" => some .dateTime
  | "TIME" => some .time
  | "TIMESTAMP" => some .timestamp
  | _ => none

/-- The type with a precision and a scale. -/
def scaled? (make : UInt8 → UInt8 → ColumnType) (arguments : String) : Option ColumnType := do
  let (precision, scale) ← cut? ", " arguments
  return make (← uint8? precision) (← uint8? scale)

/-- The type of a name with arguments. -/
def applied? (name arguments : String) : Option ColumnType :=
  match name with
  | "VARCHAR" => (uint32? arguments).map .string
  | "TINYINT" => if arguments = "1" then some .boolean else none
  | "DECIMAL" => scaled? .decimal arguments
  | "FLOAT" => scaled? .float arguments
  | "DOUBLE" => scaled? .double arguments
  | "ENUM" => (values? arguments).map .enumeration
  | _ => none

/-- The type that a text stands for. -/
def ofSql? (sql : String) : Option ColumnType :=
  match cut? "(" sql with
  | none => plain? sql
  | some (name, rest) => (before? ")" rest).bind (applied? name)

/-- The values of an enumeration, read from what stands in its parentheses. -/
def enumerated? (sql : String) : Option (List String) :=
  (behind? "ENUM(" sql).bind fun rest => (before? ")" rest).bind values?

/-! ### Every type is read back -/

theorem ofSql?_plain {sql : String} (h : Lacks '(' sql) : ofSql? sql = plain? sql := by
  rw [ofSql?, cut?_eq_none rfl h]

theorem ofSql?_applied (name : String) (h : Lacks '(' name) (arguments : String) :
    ofSql? (name ++ "(" ++ arguments ++ ")") = applied? name arguments := by
  rw [String.append_assoc, String.append_assoc, ofSql?, cut?_append rfl h]
  simp only [before?_eq_some_iff.mpr rfl, Option.bind_some]

theorem scaled?_arguments (make : UInt8 → UInt8 → ColumnType) (precision scale : UInt8) :
    scaled? make (precision.toNat.repr ++ ", " ++ scale.toNat.repr) =
      some (make precision scale) := by
  have hcomma : Lacks ',' precision.toNat.repr := fun hmem =>
    bare_natural precision.toNat _ hmem (by decide)
  rw [String.append_assoc, scaled?, cut?_append rfl hcomma]
  simp [uint8?_repr]

theorem ofSql?_scaled {name : String} (h : Lacks '(' name) (precision scale : UInt8) :
    ofSql? (scaled name precision scale) =
      applied? name (precision.toNat.repr ++ ", " ++ scale.toNat.repr) := by
  rw [← ofSql?_applied name h]
  simp only [scaled, String.append_assoc]

theorem ofSql?_sql : ∀ t : ColumnType, ofSql? t.sql = some t
  | .increments | .integer | .text | .date | .dateTime | .time | .timestamp => by
      rw [ofSql?_plain (by decide)]
      rfl
  | .boolean => ofSql?_applied "TINYINT" (by decide) "1"
  | .string length => by
      have hread := ofSql?_applied "VARCHAR" (by decide) length.toNat.repr
      rw [applied?, uint32?_repr] at hread
      exact hread
  | .decimal precision scale | .float precision scale | .double precision scale => by
      rw [sql, ofSql?_scaled (by decide), applied?, scaled?_arguments]
  | .enumeration values => by
      have hread := ofSql?_applied "ENUM" (by decide) (Sql.commaList (values.map quoted))
      rw [applied?, values?_iff.mpr rfl] at hread
      exact hread

theorem sql_injective : Function.Injective sql := by
  intro a b h
  have hread := ofSql?_sql a
  rw [h, ofSql?_sql b] at hread
  exact (Option.some.inj hread).symm

/-- What is read as an enumeration is the text of one. -/
theorem enumerated?_iff {sql : String} {values : List String} :
    enumerated? sql = some values ↔ sql = (enumeration values).sql := by
  unfold enumerated?
  simp only [Option.bind_eq_some_iff, behind?_eq_some_iff, before?_eq_some_iff, values?_iff]
  constructor
  · rintro ⟨rest, rfl, list, rfl, rfl⟩
    exact (String.append_assoc ..).symm
  · rintro rfl
    exact ⟨_, String.append_assoc .., _, rfl, rfl⟩

/-- **No two types have the same text**, whatever their lengths, precisions, scales and values are;
and the text in the parentheses of an enumeration is read back into its values, in order, whatever
quotes, commas and parentheses are in them, while no other text is read as these. -/
theorem sql_faithful :
    Function.Injective sql ∧
      ∀ (text : String) (values : List String),
        enumerated? text = some values ↔ text = (enumeration values).sql :=
  ⟨sql_injective, fun _ _ => enumerated?_iff⟩

end Schema.ColumnType

end TableGateway
