import TableGateway.Query.Compile

/-! # Settings of a deployment -/

namespace TableGateway.Config

/-! ## Projects -/

/-- How many connections to a project are kept, and for how many seconds. -/
structure Pool where
  minConnections : Nat := 0
  maxConnections : Nat := 10
  acquireSeconds : Nat := 30
  idleSeconds : Nat := 600

/-- Where the database of a project is. An address as a whole comes before its parts. -/
structure Project where
  /-- The environment variable that holds the address. -/
  urlVariable : Option String := none
  url : Option String := none
  host : String := "localhost"
  port : Nat := 5432
  database : String := "postgres"
  username : String := "postgres"
  password : Option String := none
  /-- The environment variable that holds the password. -/
  passwordVariable : Option String := none
  pool : Pool := {}

/-! ## Sections -/

/-- Roles and timeouts of transactions. Timeouts are in milliseconds. -/
structure Session where
  role : String := "authenticated"
  allowedRoles : List String := []
  statementTimeout : Nat := 8000
  countTimeout : Nat := 2000

/-- Where incidents go on record. -/
inductive Backend where
  | console
  | file
  | database
  | null
deriving DecidableEq

def Backend.text : Backend → String
  | console => "console"
  | file => "file"
  | database => "database"
  | null => "null"

def Backend.ofText? (s : String) : Option Backend :=
  [console, file, database, null].find? fun b => b.text = s

/-- How incidents go on record. -/
structure Audit where
  enabled : Bool := true
  backend : Backend := .console
  filePath : String := "security-events.log"
  table : String := "security_events"
  /-- The environment variable that holds the address of the database. -/
  urlVariable : Option String := none

end Config

/-- All settings of a deployment. -/
structure Config where
  bind : String := "0.0.0.0:3000"
  projects : List (String × Config.Project) := []
  session : Config.Session := {}
  compiler : Query.Settings := ⟨none, none⟩
  audit : Config.Audit := {}

namespace Config

/-- The role of the transaction of a caller: the one it claims where that is allowed, and the
common one otherwise. -/
def Session.effectiveRole (s : Session) (claimed : String) : String :=
  if claimed ∈ s.allowedRoles then claimed else s.role

/-! ## Validation -/

/-- What a deployment must not be set up with. -/
inductive Error where
  | role (name : String)
  | schema (name : String)
  | auditTable (name : String)
  | timeout
deriving DecidableEq

def Error.message : Error → String
  | role name => "Configuration error: session role '" ++ name ++ "' is not a valid identifier"
  | schema name => "Configuration error: default_schema '" ++ name ++ "' is not a valid identifier"
  | auditTable name =>
      "Configuration error: audit table '" ++ name ++ "' is not a valid identifier"
  | timeout => "Configuration error: statement timeouts must be greater than zero"

/-- The first thing that is wrong with the settings. -/
def fault? (c : Config) : Option Error :=
  let invalid (names : List String) := names.find? fun name => !Sql.Identifier.isValid name
  ((invalid (c.session.role :: c.session.allowedRoles)).map .role).or <|
    ((invalid c.compiler.defaultSchema.toList).map .schema).or <|
    ((invalid [c.audit.table]).map .auditTable).or <|
    if c.session.statementTimeout = 0 ∨ c.session.countTimeout = 0 then some .timeout else none

/-- All names are plain identifiers, and statements have some time to run. -/
def validate (c : Config) : Except Error Unit :=
  match c.fault? with
  | none => .ok ()
  | some e => .error e

/-! ## Addresses -/

/-- The values of environment variables. -/
abbrev Environment := String → Option String

namespace Project

/-- The password, of which the environment has the first word. -/
def effectivePassword (p : Project) (environment : Environment) : Option String :=
  (p.passwordVariable.bind environment).or p.password

/-- The address made of its parts. -/
def composedUrl (p : Project) (environment : Environment) : String :=
  let credentials := match p.effectivePassword environment with
    | none => p.username
    | some password => p.username ++ ":" ++ password
  "postgresql://" ++ credentials ++ "@" ++ p.host ++ ":" ++ Numeral.text p.port ++ "/" ++ p.database

/-- The address of the database. -/
def connectionUrl (p : Project) (environment : Environment) : String :=
  ((p.urlVariable.bind environment).or p.url).getD (p.composedUrl environment)

end Project

end Config

end TableGateway
