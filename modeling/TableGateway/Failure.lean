import TableGateway.Rejection

/-! # Failures

A `Failure` is how an operation on a database can end badly: the request was rejected before
anything was sent, the settings are at fault, or the database is.  Nothing is tried twice. -/

namespace TableGateway

/-- What is wrong with the settings of a connection. -/
inductive ConfigFault where
  /-- A setting that is required is absent or empty. -/
  | missing (key : String)
  | badPort (text : String)
  | badPersistent (text : String)
  | unsupportedDriver (name : String)
  deriving DecidableEq, Repr

/-- The only driver there is. -/
def mysql : String := "mysql"

/-- The wording of a fault in the settings. -/
def ConfigFault.message : ConfigFault → String
  | missing key => key ++ " is not set"
  | badPort text => "DB_PORT is not a port number: " ++ text
  | badPersistent text => "DB_PERSISTENT must be true or false, got " ++ text
  | unsupportedDriver name =>
    "unsupported driver '" ++ name ++ "', only '" ++ mysql ++ "' is available"

/-- An error that a server reports. -/
structure ServerError where
  code : Nat
  state : String
  message : String
  deriving DecidableEq, Repr

/-- What went wrong while a statement was run. -/
inductive DatabaseFault where
  /-- A row was needed and none came back. -/
  | noRow
  | server (error : ServerError)
  | poolClosed
  /-- A cell has no value of the kind wanted. -/
  | undecodable
  /-- The settings cannot be put into effect. -/
  | badOptions
  deriving DecidableEq, Repr

/-- The wording of a fault, of those whose wording is fixed. -/
def DatabaseFault.message? : DatabaseFault → Option String
  | noRow => some "no rows returned by a query that expected to return at least one row"
  | server e =>
    some ("error returned from database: " ++ e.code.repr ++ " (" ++ e.state ++ "): " ++ e.message)
  | poolClosed => some "attempted to acquire a connection on a closed pool"
  | undecodable => none
  | badOptions => none

/-- How an operation on a database fails. -/
inductive Failure where
  | rejected (rejection : Rejection)
  | config (fault : ConfigFault)
  | database (fault : DatabaseFault)
  deriving DecidableEq, Repr

/-- The wording of a failure, of those whose wording is fixed. -/
def Failure.message? : Failure → Option String
  | rejected rejection => some ("invalid statement: " ++ rejection.message)
  | config fault => some ("configuration error: " ++ fault.message)
  | database fault => fault.message?.map ("database error: " ++ ·)

end TableGateway
