import TableGateway.Config.Basic
import TableGateway.Database.Basic
import TableGateway.Session.Claims
import TableGateway.Sql.Identifier

/-! # Transactions of a caller -/

namespace TableGateway.Session

/-! ## Settings and failures -/

/-- The role of a transaction and its timeouts in milliseconds. -/
structure Settings where
  role : String
  statementTimeout : Nat
  countTimeout : Nat

/-- The settings for the transaction of a caller. -/
def Settings.forCaller (config : Config.Session) (claims : Claims) : Settings where
  role := config.effectiveRole claims.role
  statementTimeout := config.statementTimeout
  countTimeout := config.countTimeout

/-- Why a transaction has no result. -/
inductive Error where
  | projectUnreachable
  | projectNotFound
  | invalidRole
  /-- A value has no form in the type of its parameter. -/
  | invalidParameter (index : Nat) (expected : String)
  | config (text : String)
  | database (cause : Database.Failure)

def Error.message : Error → String
  | projectUnreachable => "project database is unreachable"
  | projectNotFound => "project database not found"
  | invalidRole => "invalid database role"
  | invalidParameter index expected =>
      "parameter $" ++ Numeral.text index ++ " is not a valid " ++ expected
  | config text => "invalid project configuration: " ++ text
  | database cause => cause.message

/-- The code of a server that does not know the database. -/
def unknownDatabaseCode : String := "3D000"

/-- What a failure to connect means. -/
def Error.ofConnecting (f : Database.Failure) : Error :=
  if f.code? = some unknownDatabaseCode then projectNotFound else projectUnreachable

/-! ## Statements -/

/-- The statement that gives the following ones their time. -/
def timeoutSql (milliseconds : Nat) : String :=
  "SET LOCAL statement_timeout = " ++ Numeral.text milliseconds

/-- The statement that takes on a role, whose name must be a plain identifier. -/
def roleSql (role : String) : Except Error String :=
  if Sql.Identifier.isValid role then .ok ("SET LOCAL ROLE " ++ Sql.Identifier.quoted role)
  else .error .invalidRole

/-- The statement that makes the claims known. -/
def claimsSql : String :=
  "SELECT set_config('request.jwt.claim.sub', $1, true), "
    ++ "set_config('request.jwt.claim.role', $2, true), "
    ++ "set_config('request.jwt.claim.email', $3, true), "
    ++ "set_config('request.jwt.claims', $4, true)"

/-- The claims one by one, and all of them together. -/
def claimsArguments (claims : Claims) : List Parameter :=
  [.ofText claims.subject, .ofText claims.role, .ofText claims.email, .ofText claims.toJson.text]

/-! ## Scopes -/

/-- Prepares and executes a statement. -/
def runStatement (db : Database) (sql : String) (arguments : List Parameter) :
    Conversation Database.Failure Database.Reply := do
  let _ ← db.send (.prepare sql)
  db.send (.execute sql arguments)

/-- Sets up a transaction: the time of its statements, the role, the claims. -/
def establish (db : Database) (settings : Settings) (role : String) (claims : Claims) :
    Conversation Database.Failure Unit := do
  let _ ← runStatement db (timeoutSql settings.statementTimeout) []
  let _ ← runStatement db role []
  let _ ← runStatement db claimsSql (claimsArguments claims)

/-- Runs a body in a transaction of its own and commits it if the body has a result. -/
def runScoped {ε α : Type} (embed : Error → ε) (database : Option Database) (settings : Settings)
    (claims : Claims) (body : Database → Conversation ε α) : Conversation ε α := do
  let role ← Conversation.ofExcept ((roleSql settings.role).mapError embed)
  let some db := database | Conversation.fail (embed .projectUnreachable)
  db.acquire.mapError fun f => embed (.ofConnecting f)
  (db.send .begin).mapError fun f => embed (.database f)
  match ← (establish db settings role claims).attempt with
  | .error f =>
      db.rollback
      Conversation.fail (embed (.database f))
  | .ok () =>
      match ← (body db).attempt with
      | .error e =>
          db.rollback
          Conversation.fail e
      | .ok a =>
          (db.commit).mapError fun f => embed (.database f)
          return a

end TableGateway.Session
