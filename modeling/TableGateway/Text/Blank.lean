/-! # Blank text

A text is blank when every character of it has the Unicode property White_Space; the empty text is
blank.  `whiteSpace` is the property as ranges of code points, `isBlank` the test that names,
conditions and clauses are put to.  Text is only ever tested, never trimmed. -/

namespace TableGateway.Text

/-- The code points with the property White_Space, as closed ranges in increasing order. -/
def whiteSpace : List (Nat × Nat) :=
  [(0x0009, 0x000D), (0x0020, 0x0020), (0x0085, 0x0085), (0x00A0, 0x00A0), (0x1680, 0x1680),
    (0x2000, 0x200A), (0x2028, 0x2029), (0x202F, 0x202F), (0x205F, 0x205F), (0x3000, 0x3000)]

/-- Whether a character is white space. -/
def isWhiteSpace (c : Char) : Bool :=
  whiteSpace.any fun range => decide (range.1 ≤ c.toNat) && decide (c.toNat ≤ range.2)

/-- Whether a text has no character other than white space. -/
def isBlank (s : String) : Bool := s.toList.all isWhiteSpace

/-- The text itself, unless it is blank. -/
def nonBlank? (s : String) : Option String := if isBlank s then none else some s

/-- A text is blank exactly when all its characters are white space. -/
theorem isBlank_iff {s : String} : isBlank s = true ↔ ∀ c ∈ s.toList, isWhiteSpace c = true := by
  simp [isBlank]

/-- A joined text is blank exactly when both parts are. -/
theorem isBlank_append (s t : String) : isBlank (s ++ t) = (isBlank s && isBlank t) := by
  simp [isBlank]

/-- The ranges are in order and apart, and hold twenty-five code points. -/
example : whiteSpace.Pairwise (fun a b => a.2 < b.1) ∧
    (whiteSpace.map fun range => range.2 + 1 - range.1).sum = 25 := by decide

end TableGateway.Text
