/-! # Letters

A `Letter` is what one place of an ending asks of a character.  Characters are compared without
regard to case: `fold` takes a capital to its small letter, for all letters that have a small form
up to `ÿ`, and a place never asks for any other letter. -/

namespace TableGateway.Inflection

/-- The small form of a letter.  Besides the capitals of ASCII and Latin-1 this covers the letters
elsewhere that fold to one of those: long s, the signs for kelvin and angstrom, capital sharp s and
capital y with diaeresis. -/
def fold (c : Char) : Char :=
  let n := c.toNat
  if (0x41 ≤ n ∧ n ≤ 0x5A) ∨ (0xC0 ≤ n ∧ n ≤ 0xDE ∧ n ≠ 0xD7) then Char.ofNat (n + 0x20)
  else if n = 0x017F then 's'
  else if n = 0x212A then 'k'
  else if n = 0x212B then 'å'
  else if n = 0x1E9E then 'ß'
  else if n = 0x0178 then 'ÿ'
  else c

/-- What one place of an ending asks for, in small letters. -/
inductive Letter where
  | oneOf (letters : List Char)
  | noneOf (letters : List Char)
  deriving DecidableEq, Repr

namespace Letter

/-- Whether a character meets the place, in either case. -/
def accepts : Letter → Char → Bool
  | oneOf letters, c => letters.contains (fold c)
  | noneOf letters, c => !letters.contains (fold c)

/-- The places that ask for the letters of a word, one by one. -/
def spell (word : String) : List Letter := word.toList.map fun c => oneOf [c]

/-- Whether a text meets a list of places, one character each. -/
def acceptsAll : List Letter → List Char → Bool
  | [], [] => true
  | letter :: letters, c :: rest => letter.accepts c && acceptsAll letters rest
  | _, _ => false

/-- A text that meets a list of places is as long as the list. -/
theorem length_eq_of_acceptsAll {letters : List Letter} {text : List Char}
    (h : acceptsAll letters text = true) : text.length = letters.length := by
  induction letters generalizing text with
  | nil => cases text with
    | nil => rfl
    | cons c rest => simp [acceptsAll] at h
  | cons letter letters ih => cases text with
    | nil => simp [acceptsAll] at h
    | cons c rest =>
      simp only [acceptsAll, Bool.and_eq_true] at h
      simp [ih h.2]

end Letter

end TableGateway.Inflection
