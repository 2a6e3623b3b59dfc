import TableGateway.Query.Error
import TableGateway.Session.Basic

/-! # Errors of a request -/

namespace TableGateway.Http

/-! ## Causes -/

/-- Why a request has no result. -/
inductive Error where
  | missingProjectId
  | invalidJson (cause : String)
  | query (cause : Query.Error)
  | session (cause : Session.Error)
  /-- A single object was asked for, and there is another number of rows. -/
  | notSingular (rows : Nat)

/-- The status of an error with the given code of the server. -/
def statusOfCode (code : String) : Nat :=
  if code = "42501" then 403
  else if Text.startsWith "23" code then 409
  else if Text.startsWith "22" code ∨ Text.startsWith "42" code then 400
  else 500

/-! ## Bodies -/

/-- What the body of an answer says of an error. -/
structure ErrorBody where
  code : String
  message : String
  details : Option String := none
  hint : Option String := none
  position : Option Nat := none

def ErrorBody.toJson (b : ErrorBody) : Json :=
  .object [("code", .string b.code), ("message", .string b.message),
    ("details", .ofString? b.details), ("hint", .ofString? b.hint),
    ("position", match b.position with
      | some n => .number (.integer n)
      | none => .null)]

/-- The status of a transaction without a result. -/
def sessionStatus : Session.Error → Nat
  | .projectUnreachable => 503
  | .projectNotFound => 404
  | .invalidParameter _ _ => 400
  | .invalidRole => 500
  | .config _ => 500
  | .database (.server e) => statusOfCode e.code
  | .database _ => 500

/-- What is said of a transaction without a result. Errors of the server are passed on. -/
def sessionBody (e : Session.Error) : ErrorBody :=
  let body (code : String) : ErrorBody := { code := code, message := e.message }
  match e with
  | .projectUnreachable => body "project_unreachable"
  | .projectNotFound => body "project_not_found"
  | .invalidRole => body "invalid_role"
  | .invalidParameter _ _ => body "invalid_parameter"
  | .config _ => body "config"
  | .database (.server e) => ⟨e.code, e.message, e.detail, e.hint, e.position⟩
  | .database _ => { code := "internal", message := "database request failed" }

namespace Error

def message : Error → String
  | missingProjectId => "x-project-id header is required"
  | invalidJson cause => "request body is not valid JSON: " ++ cause
  | query cause => cause.message
  | session cause => cause.message
  | notSingular rows => "JSON object requested, " ++ Numeral.text rows ++ " rows returned"

def status : Error → Nat
  | missingProjectId => 400
  | invalidJson _ => 400
  | query _ => 400
  | session cause => sessionStatus cause
  | notSingular _ => 406

def body (e : Error) : ErrorBody :=
  match e with
  | missingProjectId => { code := "missing_project_id", message := e.message }
  | invalidJson _ => { code := "invalid_json", message := e.message }
  | query cause => { code := cause.code, message := e.message }
  | session cause => sessionBody cause
  | notSingular rows => {
      code := "not_singular"
      message := e.message
      details := some ("The result contains " ++ Numeral.text rows ++ " rows") }

end Error

end TableGateway.Http
