import TableGateway.Number.Binary
import TableGateway.Text.Digits

/-! # Shortest decimal text of a number

A finite double is written with the fewest digits that read back as the same double, and among the
texts with that many digits the one nearest to its value.  `Rounding` holds the reals that round to
the double, `Rounding.shortest` picks the decimal, `Decimal.text` writes it positionally.

Everything is exact: a double, and each boundary between two doubles, is a whole multiple of
`10 ^ -places`, so all of them are natural numbers counted in that unit. -/

namespace TableGateway

/-- The places after the point that a double, and the midpoint of two neighbours, can need. -/
def places : Nat := 1076

/-- The positive reals that round to one double, in units of `10 ^ -places`: its value and the
midpoints to its two neighbours, which belong to it when its significand is even. -/
structure Rounding where
  lower : Nat
  value : Nat
  upper : Nat
  closed : Bool
  deriving DecidableEq, Repr

/-- What rounds to a positive finite double.  The spacing below a power of two is half the spacing
above it. -/
def Binary64.rounding (x : Binary64) : Rounding :=
  let exponent := max x.exponent 1
  let significand := x.fraction + (if x.exponent = 0 then 0 else 1 <<< 52)
  let quarter := Nat.pow 5 places <<< (exponent - 1)
  let narrow := x.fraction = 0 ∧ 1 < x.exponent
  { lower := (4 * significand - (if narrow then 1 else 2)) * quarter
    value := 4 * significand * quarter
    upper := (4 * significand + 2) * quarter
    closed := significand % 2 == 0 }

namespace Rounding

/-- Whether a decimal reads back as the double. -/
def contains (r : Rounding) (n : Nat) : Bool :=
  if r.closed then decide (r.lower ≤ n) && decide (n ≤ r.upper)
  else decide (r.lower < n) && decide (n < r.upper)

/-- The multiple of `step` that reads back, the nearer one if both neighbours of the value do, and
the larger of two equally near. -/
def onGrid (r : Rounding) (step : Nat) : Option Nat :=
  let below := r.value / step * step
  let above := below + step
  match r.contains below, r.contains above with
  | true, true => some (if r.value - below < above - r.value then below else above)
  | true, false => some below
  | false, true => some above
  | false, false => none

/-- The decimal on the coarsest grid `10 ^ k`, `k ≤ n`, that has one which reads back; the value
itself on the finest. -/
def shortestUpTo (r : Rounding) : Nat → Nat
  | 0 => r.value
  | k + 1 => (r.onGrid (Nat.pow 10 (k + 1))).getD (r.shortestUpTo k)

/-- The decimal with the fewest digits that reads back.  The coarsest grid tried is that of the
value's leading digit. -/
def shortest (r : Rounding) : Nat := r.shortestUpTo ((Nat.toDigits 10 r.value).length - 1)

end Rounding

namespace Decimal

/-- The digits of a part after the point, without the zeros that end it. -/
def trimmed (digits : List Char) : List Char :=
  (digits.reverse.dropWhile (· == '0')).reverse

/-- A count of units of `10 ^ -places`, written positionally; the point is left out where nothing
follows it. -/
def text (n : Nat) : String :=
  let fraction := trimmed (Text.padded places (n % Nat.pow 10 places))
  let whole := (n / Nat.pow 10 places).repr
  if fraction.isEmpty then whole else whole ++ "." ++ String.ofList fraction

end Decimal

/-- The text of a double: positional, with a sign for whatever is negative, zero included. -/
def Binary64.text (x : Binary64) : String :=
  if x.isNaN then "NaN"
  else
    let sign := if x.isNegative then "-" else ""
    if x.isInfinite then sign ++ "inf"
    else if x.isZero then sign ++ "0"
    else sign ++ Decimal.text x.rounding.shortest

example : (⟨0x3FB999999999999A⟩ : Binary64).text = "0.1" := by decide +kernel
example : (⟨0x444B1AE4D6E2EF50⟩ : Binary64).text = "1000000000000000000000" := by decide +kernel
example : (⟨0x8000000000000000⟩ : Binary64).text = "-0" := by decide +kernel
example : (⟨0xFFF8000000000000⟩ : Binary64).text = "NaN" := by decide +kernel

/-- Of two shortest decimals equally near, the larger is written. -/
example : (⟨0x4300000000000002⟩ : Binary64).text = "562949953421312.3" := by decide +kernel

end TableGateway
