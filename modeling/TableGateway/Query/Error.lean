import TableGateway.Payload
import TableGateway.Request.Method
import TableGateway.Sql.Identifier

/-! # Requests that make no statement -/

namespace TableGateway.Query

/-- Why a request makes no statement. -/
inductive Error where
  /-- A name is no plain identifier. The error says where it stands, not what it is. -/
  | invalidIdentifier (place : String)
  | invalidTable
  | emptyPayload
  | missingFilter (method : Request.Method)
  | invalidPayload (cause : Payload.Error)
  | nonUniformBatch
deriving DecidableEq

namespace Error

/-- What is said of a name that cannot be quoted. -/
def ofIdentifier (cause : Sql.Identifier.Error) : Error :=
  invalidIdentifier cause.message

def message : Error → String
  | invalidIdentifier place => "invalid identifier: " ++ place
  | invalidTable => "invalid table name"
  | emptyPayload => "request body has no writable columns"
  | missingFilter method => method.text ++ " requires at least one filter"
  | invalidPayload cause => "invalid payload: " ++ cause.message
  | nonUniformBatch => "all rows of a batch insert must have the same columns"

/-- The word for the kind of error. -/
def code : Error → String
  | invalidIdentifier _ => "invalid_identifier"
  | invalidTable => "invalid_table"
  | emptyPayload => "empty_payload"
  | missingFilter _ => "missing_filter"
  | invalidPayload _ => "invalid_payload"
  | nonUniformBatch => "non_uniform_batch"

end Error

end TableGateway.Query
