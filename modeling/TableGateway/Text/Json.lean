import TableGateway.Text.Digits

/-! # JSON text

`Json` is a document as it is written: a string keeps its escapes apart, since an escape can name
half of a surrogate pair, which is no character, and of a number only its grammar matters, but for a
plain natural number.  `Json.parse?` reads a whole text by the grammar of the standard, with nothing
left over but white space.

`Json.text?` is the text of a string, if all of it is characters, and `Json.written` writes a text as
a string with no escapes but those that are needed. -/

namespace TableGateway.Text

/-- One step of a written string. -/
inductive JsonPiece where
  | char (c : Char)
  /-- An escape by code unit of UTF-16. -/
  | unit (n : Nat)
  deriving DecidableEq, Repr

/-- A document. -/
inductive Json where
  | null
  | bool (b : Bool)
  /-- A number written as digits alone. -/
  | natural (n : Nat)
  /-- Any other number. -/
  | number
  | string (pieces : List JsonPiece)
  | array (items : List Json)
  | object (members : List (List JsonPiece × Json))
  deriving Repr

namespace Json

/-! ### Strings -/

/-- Whether a code unit opens a surrogate pair. -/
def isHigh (n : Nat) : Bool := decide (0xD800 ≤ n) && decide (n < 0xDC00)

/-- Whether a code unit closes a surrogate pair. -/
def isLow (n : Nat) : Bool := decide (0xDC00 ≤ n) && decide (n < 0xE000)

/-- The characters of a string: surrogates count only in pairs. -/
def characters? : List JsonPiece → Option (List Char)
  | [] => some []
  | .char c :: rest => (characters? rest).map (c :: ·)
  | .unit high :: .unit low :: rest =>
    if isHigh high then
      if isLow low then
        (characters? rest).map
          (Char.ofNat (0x10000 + (high - 0xD800) * 0x400 + (low - 0xDC00)) :: ·)
      else none
    else if isLow high then none
    else (characters? (.unit low :: rest)).map (Char.ofNat high :: ·)
  | .unit n :: rest =>
    if isHigh n || isLow n then none else (characters? rest).map (Char.ofNat n :: ·)

/-- The text of a string, if all of it is characters. -/
def text? (pieces : List JsonPiece) : Option String := (characters? pieces).map String.ofList

/-- The value of a hexadecimal digit. -/
def hexDigit? (c : Char) : Option Nat :=
  if '0' ≤ c ∧ c ≤ '9' then some (c.toNat - '0'.toNat)
  else if 'a' ≤ c ∧ c ≤ 'f' then some (c.toNat - 'a'.toNat + 10)
  else if 'A' ≤ c ∧ c ≤ 'F' then some (c.toNat - 'A'.toNat + 10)
  else none

/-- The character that a one-letter escape stands for. -/
def escaped? : Char → Option Char
  | '"' => some '"'
  | '\\' => some '\\'
  | '/' => some '/'
  | 'b' => some '\x08'
  | 'f' => some '\x0c'
  | 'n' => some '\n'
  | 'r' => some '\x0d'
  | 't' => some '\t'
  | _ => none

/-- Reads a string whose opening quote has been read. -/
def string? : List Char → Option (List JsonPiece × List Char)
  | [] => none
  | '"' :: rest => some ([], rest)
  | '\\' :: 'u' :: a :: b :: c :: d :: rest => do
    let n := (((← hexDigit? a) * 16 + (← hexDigit? b)) * 16 + (← hexDigit? c)) * 16 + (← hexDigit? d)
    let (pieces, rest) ← string? rest
    return (.unit n :: pieces, rest)
  | '\\' :: c :: rest => do
    let c ← escaped? c
    let (pieces, rest) ← string? rest
    return (.char c :: pieces, rest)
  | c :: rest =>
    if c = '\\' ∨ c.toNat < 0x20 then none
    else do
      let (pieces, rest) ← string? rest
      return (.char c :: pieces, rest)

/-! ### Numbers -/

/-- Reads one digit or more. -/
def digits? (cs : List Char) : Option (List Char × List Char) :=
  match cs.takeWhile Char.isDigit with
  | [] => none
  | digits => some (digits, cs.dropWhile Char.isDigit)

/-- Reads the whole part of a number, which has no zero in front of other digits. -/
def whole? (cs : List Char) : Option (Nat × List Char) := do
  let (digits, rest) ← digits? cs
  if digits.head? = some '0' ∧ digits.length ≠ 1 then none
  else return (digitsValue digits, rest)

/-- Reads the fraction of a number, if there is one, and says whether there is. -/
def fraction? : List Char → Option (Bool × List Char)
  | '.' :: rest => do return (true, (← digits? rest).2)
  | cs => some (false, cs)

/-- Reads the exponent of a number, if there is one, and says whether there is. -/
def exponent? : List Char → Option (Bool × List Char)
  | c :: rest =>
    if c = 'e' ∨ c = 'E' then do
      let digits := match rest with
        | '+' :: rest => rest
        | '-' :: rest => rest
        | rest => rest
      return (true, (← digits? digits).2)
    else some (false, c :: rest)
  | [] => some (false, [])

/-- Reads a number. -/
def number? (cs : List Char) : Option (Json × List Char) := do
  let (negative, cs) := match cs with
    | '-' :: rest => (true, rest)
    | cs => (false, cs)
  let (n, cs) ← whole? cs
  let (fractional, cs) ← fraction? cs
  let (exponential, cs) ← exponent? cs
  return (if negative || fractional || exponential then number else natural n, cs)

/-! ### Documents -/

/-- Whether a character may stand between the parts of a document. -/
def isSpace (c : Char) : Bool := c = ' ' || c = '\t' || c = '\n' || c = '\x0d'

/-- What follows the white space. -/
def skip (cs : List Char) : List Char := cs.dropWhile isSpace

mutual

/-- Reads a value, within a number of steps. -/
def value? : Nat → List Char → Option (Json × List Char)
  | 0, _ => none
  | fuel + 1, cs =>
    match skip cs with
    | 'n' :: 'u' :: 'l' :: 'l' :: rest => some (null, rest)
    | 't' :: 'r' :: 'u' :: 'e' :: rest => some (bool true, rest)
    | 'f' :: 'a' :: 'l' :: 's' :: 'e' :: rest => some (bool false, rest)
    | '"' :: rest => (string? rest).map fun (pieces, rest) => (string pieces, rest)
    | '[' :: rest =>
      match skip rest with
      | ']' :: rest => some (array [], rest)
      | rest => (items? fuel rest).map fun (items, rest) => (array items, rest)
    | '{' :: rest =>
      match skip rest with
      | '}' :: rest => some (object [], rest)
      | rest => (members? fuel rest).map fun (members, rest) => (object members, rest)
    | rest => number? rest

/-- Reads the items of an array, of which there is at least one, and its end. -/
def items? : Nat → List Char → Option (List Json × List Char)
  | 0, _ => none
  | fuel + 1, cs => do
    let (item, rest) ← value? fuel cs
    match skip rest with
    | ']' :: rest => return ([item], rest)
    | ',' :: rest =>
      let (items, rest) ← items? fuel rest
      return (item :: items, rest)
    | _ => none

/-- Reads the members of an object, of which there is at least one, and its end. -/
def members? : Nat → List Char → Option (List (List JsonPiece × Json) × List Char)
  | 0, _ => none
  | fuel + 1, cs => do
    match skip cs with
    | '"' :: rest =>
      let (key, rest) ← string? rest
      match skip rest with
      | ':' :: rest =>
        let (value, rest) ← value? fuel rest
        match skip rest with
        | '}' :: rest => return ([(key, value)], rest)
        | ',' :: rest =>
          let (members, rest) ← members? fuel rest
          return ((key, value) :: members, rest)
        | _ => none
      | _ => none
    | _ => none

end

/-- The document that a text is.  A value takes at most two steps for each character. -/
def parse? (text : String) : Option Json :=
  match value? (2 * text.length + 2) text.toList with
  | some (value, rest) => if (skip rest).isEmpty then some value else none
  | none => none

/-! ### Writing -/

/-- A character as it is written in a string. -/
def writtenChar (c : Char) : List Char :=
  if c = '"' then ['\\', '"']
  else if c = '\\' then ['\\', '\\']
  else if c = '\x08' then ['\\', 'b']
  else if c = '\t' then ['\\', 't']
  else if c = '\n' then ['\\', 'n']
  else if c = '\x0c' then ['\\', 'f']
  else if c = '\x0d' then ['\\', 'r']
  else if c.toNat < 0x20 then
    ['\\', 'u', '0', '0', Nat.digitChar (c.toNat / 16), Nat.digitChar (c.toNat % 16)]
  else [c]

/-- A text written as a string. -/
def written (s : String) : String :=
  "\"" ++ String.ofList (s.toList.flatMap writtenChar) ++ "\""

end Json

end TableGateway.Text
