import RowServe.ConfigError
import RowServe.FieldErrors

/-!
# Request errors

Why a request fails, and the response that says so. Field errors are a body of their
own; every other error is a code with a message.
-/

namespace RowServe

/-- Why the store gave no usable answer. -/
inductive StoreError where
  /-- A row was due and none came. -/
  | noRow
  /-- No connection could be had in time. -/
  | unavailable
  /-- The first column is not of the type that was due. -/
  | badColumn
  /-- The value is not of the form that was due. -/
  | badValue
  /-- The connection would have to be encrypted, which it cannot be. -/
  | notEncrypted
  /-- The store itself reported an error. -/
  | reported (message : String)
  deriving DecidableEq, Repr

/-- The text of the error. -/
def StoreError.message : StoreError → String
  | noRow => "no rows returned by a query that expected to return at least one row"
  | unavailable => "pool timed out while waiting for an open connection"
  | badColumn => "error occurred while decoding column 0"
  | badValue => "error occurred while decoding"
  | notEncrypted =>
    "error occurred while attempting to establish a TLS connection: TLS upgrade required by " ++
      "connect options but SQLx was built without TLS support enabled"
  | reported message => "error returned from database: " ++ message

/-- Why a request fails. -/
inductive RequestError where
  | config (e : ConfigError)
  | notFound (what : String)
  | notAllowed (what : String)
  | invalid (errors : FieldErrors)
  | updateFailed
  | deleteFailed (message : String)
  | unauthorized
  | forbidden
  | store (e : StoreError)
  | timeout
  | badRequest (message : String)
  | template (e : Sql.TemplateError)

namespace RequestError

/-- One message for one field. -/
def field (field message : String) : RequestError := invalid (.single field message)

/-- The filter of a delete matched nothing. -/
def nothingDeleted : RequestError := deleteFailed "no rows matched the delete"

/-- The text of the error. -/
def message : RequestError → String
  | config e => e.message
  | notFound what => "not found: " ++ what
  | notAllowed what => "operation not allowed: " ++ what
  | invalid errors => "validation: " ++ errors.text
  | updateFailed => "no rows matched the update"
  | deleteFailed message => message
  | unauthorized => "authentication required"
  | forbidden => "forbidden"
  | store e => "database: " ++ e.message
  | timeout => "statement timed out"
  | badRequest message => "bad request: " ++ message
  | template e => e.message

/-- The HTTP status of the response. -/
def status : RequestError → Nat
  | config _ => 500
  | notFound _ => 404
  | notAllowed _ => 405
  | invalid _ => 400
  | updateFailed => 404
  | deleteFailed _ => 404
  | unauthorized => 401
  | forbidden => 403
  | store .unavailable => 503
  | store _ => 500
  | timeout => 504
  | badRequest _ => 400
  | template _ => 500

/-- The code of the error in the body of the response. -/
def code : RequestError → String
  | config _ => "config_error"
  | notFound _ => "not_found"
  | notAllowed _ => "method_not_allowed"
  | invalid _ => "validation_error"
  | updateFailed => "update_failed"
  | deleteFailed _ => "delete_failed"
  | unauthorized => "unauthorized"
  | forbidden => "forbidden"
  | store .unavailable => "database_unavailable"
  | store _ => "database_error"
  | timeout => "timeout"
  | badRequest _ => "bad_request"
  | template _ => "template_error"

/-- The body of the response. -/
def body : RequestError → Json
  | invalid errors => errors.toJson
  | e => .ofEntries [("error", .ofEntries [("code", .str e.code), ("message", .str e.message)])]

end RequestError

end RowServe
