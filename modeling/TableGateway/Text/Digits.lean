/-! # Digits

Runs of the ten decimal digits: `natural?` reads a whole text as one, `padded` writes a number in a
least number of digits. -/

namespace TableGateway.Text

/-- The value of a run of digits. -/
def digitsValue (digits : List Char) : Nat :=
  digits.foldl (fun n c => n * 10 + (c.toNat - '0'.toNat)) 0

/-- The value of a text that is one digit or more and nothing else. -/
def natural? (text : List Char) : Option Nat :=
  if !text.isEmpty && text.all Char.isDigit then some (digitsValue text) else none

/-- The digits of a number, with zeros in front up to a least number of digits. -/
def padded (width n : Nat) : List Char :=
  let digits := Nat.toDigits 10 n
  List.replicate (width - digits.length) '0' ++ digits

end TableGateway.Text
