import TableGateway.Number.Binary

/-! # Bound values

`Value` is what a placeholder of a statement is bound to, and what a cell of a result comes back as.
`ToValue` takes the types of a calling program to values: integers of every width become the one
64-bit kind, single precision is widened, and an absent optional is `Value.null`. -/

namespace TableGateway

/-- Raw bytes. -/
abbrev Bytes := List UInt8

/-- A value bound to a placeholder, or read from a cell. -/
inductive Value where
  | null
  | bool (b : Bool)
  | int (n : Int64)
  | float (x : Binary64)
  | text (s : String)
  | blob (bytes : Bytes)
  deriving DecidableEq, Repr

namespace Value

/-- Whether the value is `null`. -/
def isNull : Value → Bool
  | null => true
  | _ => false

/-- The integer held, if the value is one. -/
def int? : Value → Option Int64
  | int n => some n
  | _ => none

/-- The text held, if the value is one. -/
def text? : Value → Option String
  | text s => some s
  | _ => none

theorem isNull_iff {v : Value} : v.isNull = true ↔ v = null := by
  cases v <;> simp [isNull]

end Value

/-- The types that can be bound. -/
class ToValue (α : Type) where
  toValue : α → Value

export ToValue (toValue)

instance : ToValue Value := ⟨id⟩
instance : ToValue Bool := ⟨.bool⟩
instance : ToValue Int8 := ⟨fun n => .int n.toInt64⟩
instance : ToValue Int16 := ⟨fun n => .int n.toInt64⟩
instance : ToValue Int32 := ⟨fun n => .int n.toInt64⟩
instance : ToValue Int64 := ⟨.int⟩
instance : ToValue UInt8 := ⟨fun n => .int (.ofNat n.toNat)⟩
instance : ToValue UInt16 := ⟨fun n => .int (.ofNat n.toNat)⟩
instance : ToValue UInt32 := ⟨fun n => .int (.ofNat n.toNat)⟩
instance : ToValue Binary32 := ⟨fun x => .float x.widen⟩
instance : ToValue Binary64 := ⟨.float⟩
instance : ToValue String := ⟨.text⟩
instance : ToValue Bytes := ⟨.blob⟩

instance {α : Type} [ToValue α] : ToValue (Option α) :=
  ⟨fun x => (x.map toValue).getD .null⟩

end TableGateway
