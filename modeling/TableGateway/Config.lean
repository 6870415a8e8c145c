import TableGateway.Failure
import TableGateway.Text.Digits

/-! # Connection settings

A `Config` says which server to connect to and how.  `Config.ofLookup` reads one from variables
whose keys begin with `DB_`, and says which of them is at fault if one is. -/

namespace TableGateway

/-- The port a server is found at unless another is set. -/
def defaultPort : UInt16 := 3306

/-- The character set of a connection unless another is set. -/
def defaultCharset : String := "utf8mb4"

/-- The settings of a connection. -/
structure Config where
  driver : String := mysql
  host : String
  port : UInt16 := defaultPort
  database : String
  username : String
  password : String := ""
  charset : String := defaultCharset
  /-- Whether a connection is kept open as long as the pool is. -/
  persistent : Bool := false
  deriving DecidableEq, Repr

namespace Config

/-- The driver must be the one there is. -/
def validate (c : Config) : Except ConfigFault Unit :=
  if c.driver = mysql then .ok () else .error (.unsupportedDriver c.driver)

/-! ### Reading variables -/

/-- A port number: one digit or more, perhaps after a plus sign, of a value that fits. -/
def port? (text : String) : Option UInt16 :=
  let digits := match text.toList with
    | '+' :: rest => rest
    | cs => cs
  match Text.natural? digits with
  | some n => if n < 65536 then some (.ofNat n) else none
  | none => none

/-- A switch: empty, zero and false are off; one and true are on. -/
def switch? (text : String) : Option Bool :=
  if text ∈ ["", "0", "false", "FALSE"] then some false
  else if text ∈ ["1", "true", "TRUE"] then some true
  else none

/-- A variable that must be set, and not to the empty text. -/
def required (lookup : String → Option String) (key : String) : Except ConfigFault String :=
  match lookup key with
  | some value => if value = "" then .error (.missing key) else .ok value
  | none => .error (.missing key)

/-- The port, if one is set. -/
def lookupPort (lookup : String → Option String) : Except ConfigFault UInt16 :=
  match lookup "DB_PORT" with
  | some text => match port? text with
    | some port => .ok port
    | none => .error (.badPort text)
  | none => .ok defaultPort

/-- The switch, if it is set. -/
def lookupPersistent (lookup : String → Option String) : Except ConfigFault Bool :=
  match lookup "DB_PERSISTENT" with
  | some text => match switch? text with
    | some b => .ok b
    | none => .error (.badPersistent text)
  | none => .ok false

/-- The settings that variables give.  The port and the switch are read first, then what is
required, and the driver is looked at last. -/
def ofLookup (lookup : String → Option String) : Except ConfigFault Config := do
  let port ← lookupPort lookup
  let persistent ← lookupPersistent lookup
  let host ← required lookup "DB_HOST"
  let database ← required lookup "DB_DATABASE"
  let username ← required lookup "DB_USERNAME"
  let config : Config := {
    driver := (lookup "DB_DRIVER").getD mysql
    host, port, database, username
    password := (lookup "DB_PASSWORD").getD ""
    charset := ((lookup "DB_CHARSET").filter (· != "")).getD defaultCharset
    persistent }
  config.validate
  return config

/-! ### Connecting -/

/-- What a server is told of the settings. -/
structure ConnectOptions where
  host : String
  port : UInt16
  database : String
  username : String
  password : String
  charset : String
  deriving DecidableEq, Repr

/-- What a server is told. -/
def connectOptions (c : Config) : ConnectOptions :=
  { host := c.host, port := c.port, database := c.database, username := c.username,
    password := c.password, charset := c.charset }

/-- The character sets that can be asked for, by their exact names. -/
def charsets : List String :=
  ["big5", "dec8", "cp850", "hp8", "koi8r", "latin1", "latin2", "swe7", "ascii", "ujis", "sjis",
    "hebrew", "tis620", "euckr", "koi8u", "gb2312", "greek", "cp1250", "gbk", "latin5", "armscii8",
    "utf8", "ucs2", "cp866", "keybcs2", "macce", "macroman", "cp852", "latin7", "cp1251", "utf16",
    "utf16le", "cp1256", "cp1257", "utf32", "binary", "geostd8", "cp932", "eucjpms", "gb18030",
    "utf8mb4"]

/-- What a server is told, if a connection can be tried at all: the driver must be the one there is,
then the character set one of those known. -/
def resolve (c : Config) : Except Failure ConnectOptions :=
  match c.validate with
  | .error fault => .error (.config fault)
  | .ok () =>
    if c.charset ∈ charsets then .ok c.connectOptions else .error (.database .badOptions)

end Config

end TableGateway
