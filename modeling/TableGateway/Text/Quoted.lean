/-! # Quoted literals

A text literal opens and closes with a single quote, and a quote inside it is written twice.
`quoted` writes the literal of a text, on top of `doubled`, the text with every quote doubled. -/

namespace TableGateway.Text

/-- The single quote. -/
def quote : Char := '\x27'

/-- Every quote of the text written twice, and every other character once. -/
def doubled : List Char → List Char
  | [] => []
  | c :: rest => if c = quote then quote :: quote :: doubled rest else c :: doubled rest

/-- The literal that stands for `s`. -/
def quoted (s : String) : String :=
  String.ofList (quote :: (doubled s.toList ++ [quote]))

/-- A quote is written twice and all else once. -/
theorem count_doubled (c : Char) (s : List Char) :
    (doubled s).count c = (if c = quote then 2 else 1) * s.count c := by
  induction s with
  | nil => rfl
  | cons d s ih => by_cases h : d = quote <;> by_cases hc : c = d <;> grind [doubled]

example : quoted "it's" = "'it''s'" := by decide +kernel

end TableGateway.Text
