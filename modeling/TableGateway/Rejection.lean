/-! # Rejections

A `Rejection` says why a request was turned down before any SQL was made of it; `Rejection.message`
is its wording. -/

namespace TableGateway

/-- The operations that write the fields of a record. -/
inductive Write where
  | insert
  | update
  deriving DecidableEq, Repr

/-- The operation's name. -/
def Write.name : Write → String
  | insert => "insert"
  | update => "update"

/-- Why a request was turned down. -/
inductive Rejection where
  /-- No table was named, or its name is blank. -/
  | tableNotSet
  /-- A column name or a field list is blank. -/
  | invalidField
  /-- A column of an insert is null. -/
  | nullValue (column : String)
  /-- A required condition is blank. -/
  | emptyCondition
  /-- A record to be written has no columns. -/
  | emptyFields (write : Write)
  /-- A blueprint declares nothing to create or to alter. -/
  | emptyBlueprint (table : String)
  /-- No language has this tag. -/
  | unknownLanguage (tag : String)
  deriving DecidableEq, Repr

/-- The wording of a rejection. -/
def Rejection.message : Rejection → String
  | tableNotSet => "table not specified"
  | invalidField => "field name cannot be empty"
  | nullValue column => "field '" ++ column ++ "' cannot be null"
  | emptyCondition => "condition cannot be empty"
  | emptyFields write => "no fields given for " ++ write.name
  | emptyBlueprint table => "blueprint for table '" ++ table ++ "' is empty"
  | unknownLanguage tag => "unknown inflector language: " ++ tag

end TableGateway
