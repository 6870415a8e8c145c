import TableGateway.Config
import TableGateway.Text.Json

/-! # Settings as a document

Settings are written as a JSON object with one member a setting, always in the same order.  They are
read from such an object in any order, or from an array in that order.  What has a default may be
left out, from an array only at its end; an unknown member is passed over; a setting given twice, or
with a value of another kind, is refused.  The driver's name is not looked at. -/

namespace TableGateway.Config

open Text (Json JsonPiece)

/-- The settings that can stand in a document. -/
inductive Setting where
  | driver
  | host
  | port
  | database
  | username
  | password
  | charset
  | persistent
  deriving DecidableEq, Repr

namespace Setting

/-- All settings, in the order they are written. -/
def all : List Setting :=
  [driver, host, port, database, username, password, charset, persistent]

/-- The key of a setting. -/
def key : Setting → String
  | driver => "driver"
  | host => "host"
  | port => "port"
  | database => "database"
  | username => "username"
  | password => "password"
  | charset => "charset"
  | persistent => "persistent"

/-- The setting with a key. -/
def ofKey? (key : String) : Option Setting := all.find? fun s => s.key == key

/-- The text a setting is written as. -/
def written (c : Config) : Setting → String
  | driver => Json.written c.driver
  | host => Json.written c.host
  | port => c.port.toNat.repr
  | database => Json.written c.database
  | username => Json.written c.username
  | password => Json.written c.password
  | charset => Json.written c.charset
  | persistent => if c.persistent then "true" else "false"

end Setting

/-- The document of the settings. -/
def json (c : Config) : String :=
  "\x7b" ++ ",".intercalate (Setting.all.map fun s => Json.written s.key ++ ":" ++ s.written c) ++
    "\x7d"

/-- What a document gives for each setting. -/
abbrev Given := Setting → Option Json

/-- A text among what is given, or the default where there is one. -/
def Given.text (given : Given) (s : Setting) (default : Option String) : Option String :=
  match given s with
  | some (.string pieces) => Json.text? pieces
  | some _ => none
  | none => default

/-- The port among what is given. -/
def Given.portNumber (given : Given) : Option UInt16 :=
  match given .port with
  | some (.natural n) => if n < 65536 then some (.ofNat n) else none
  | some _ => none
  | none => some defaultPort

/-- The switch among what is given. -/
def Given.persistence (given : Given) : Option Bool :=
  match given .persistent with
  | some (.bool b) => some b
  | some _ => none
  | none => some false

/-- The settings given, if each is of its kind and none that is required is left out. -/
def ofGiven (given : Given) : Option Config := do
  return {
    driver := ← given.text .driver (some mysql)
    host := ← given.text .host none
    port := ← given.portNumber
    database := ← given.text .database none
    username := ← given.text .username none
    password := ← given.text .password (some "")
    charset := ← given.text .charset (some defaultCharset)
    persistent := ← given.persistence }

/-- What the members of an object give.  A key must be text, known or not, and none may be known and
repeated. -/
def givenByMembers : List (List JsonPiece × Json) → Option Given
  | [] => some fun _ => none
  | (pieces, value) :: rest => do
    let key ← Json.text? pieces
    let given ← givenByMembers rest
    match Setting.ofKey? key with
    | none => return given
    | some s => match given s with
      | some _ => none
      | none => return fun t => if t = s then some value else given t

/-- What the items of an array give, of which there must not be too many. -/
def givenByItems (items : List Json) : Option Given :=
  if items.length ≤ Setting.all.length then
    some fun s => items[Setting.all.idxOf s]?
  else none

/-- The settings that a text holds, if it is a document of settings. -/
def ofJson (text : String) : Option Config := do
  match ← Json.parse? text with
  | .object members => ofGiven (← givenByMembers members)
  | .array items => ofGiven (← givenByItems items)
  | _ => none

end TableGateway.Config
