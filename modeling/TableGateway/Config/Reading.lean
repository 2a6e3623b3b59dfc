import TableGateway.Config.Basic
import TableGateway.Config.Source

/-! # Reading settings

A section or a field that is missing takes its default.
-/

namespace TableGateway.Config

variable {δ : Type} (s : Source δ)

/-! ## Sections -/

def Pool.read? (d : δ) : Option Pool := do
  let fields ← s.fields? ["min_connections", "max_connections", "acquire_timeout_seconds",
    "idle_timeout_seconds"] d
  let default : Pool := {}
  let natural (name : String) (bits default : Nat) :=
    Source.field? fields name (s.word? bits) default
  return {
    minConnections := ← natural "min_connections" 32 default.minConnections
    maxConnections := ← natural "max_connections" 32 default.maxConnections
    acquireSeconds := ← natural "acquire_timeout_seconds" 64 default.acquireSeconds
    idleSeconds := ← natural "idle_timeout_seconds" 64 default.idleSeconds }

def Project.read? (d : δ) : Option Project := do
  let fields ← s.fields? ["database_url_env", "database_url", "host", "port", "database",
    "username", "password", "password_env", "pool"] d
  let default : Project := {}
  let text (name default : String) := Source.field? fields name s.text? default
  let optionalText (name : String) := Source.field? fields name (s.orNothing? s.text?) none
  return {
    urlVariable := ← optionalText "database_url_env"
    url := ← optionalText "database_url"
    host := ← text "host" default.host
    port := ← Source.field? fields "port" (s.word? 16) default.port
    database := ← text "database" default.database
    username := ← text "username" default.username
    password := ← optionalText "password"
    passwordVariable := ← optionalText "password_env"
    pool := ← Source.field? fields "pool" (Pool.read? s) default.pool }

def Session.read? (d : δ) : Option Session := do
  let fields ← s.fields? ["role", "allowed_roles", "statement_timeout_ms", "count_timeout_ms"] d
  let default : Session := {}
  let timeout (name : String) (default : Nat) := Source.field? fields name (s.word? 64) default
  return {
    role := ← Source.field? fields "role" s.text? default.role
    allowedRoles :=
      ← Source.field? fields "allowed_roles" (s.list? s.text?) default.allowedRoles
    statementTimeout := ← timeout "statement_timeout_ms" default.statementTimeout
    countTimeout := ← timeout "count_timeout_ms" default.countTimeout }

def compiler? (d : δ) : Option Query.Settings := do
  let fields ← s.fields? ["default_schema", "max_rows"] d
  return {
    defaultSchema := ← Source.field? fields "default_schema" (s.orNothing? s.text?) none
    maxRows := ← Source.field? fields "max_rows" (s.orNothing? (s.word? 64)) none }

def Backend.read? (d : δ) : Option Backend :=
  (s.choice? d).bind ofText?

def Audit.read? (d : δ) : Option Audit := do
  let fields ← s.fields? ["enabled", "backend", "file_path", "table", "database_url_env"] d
  let default : Audit := {}
  let text (name default : String) := Source.field? fields name s.text? default
  return {
    enabled := ← Source.field? fields "enabled" s.truth? default.enabled
    backend := ← Source.field? fields "backend" (Backend.read? s) default.backend
    filePath := ← text "file_path" default.filePath
    table := ← text "table" default.table
    urlVariable := ← Source.field? fields "database_url_env" (s.orNothing? s.text?) none }

def bind? (d : δ) : Option String := do
  let fields ← s.fields? ["bind"] d
  let default : Config := {}
  Source.field? fields "bind" s.text? default.bind

/-! ## All settings -/

def read? (d : δ) : Option Config := do
  let fields ← s.fields? ["server", "projects", "session", "compiler", "audit"] d
  let default : Config := {}
  return {
    bind := ← Source.field? fields "server" (bind? s) default.bind
    projects := ← Source.field? fields "projects" (s.entries? (Project.read? s)) default.projects
    session := ← Source.field? fields "session" (Session.read? s) default.session
    compiler := ← Source.field? fields "compiler" (compiler? s) default.compiler
    audit := ← Source.field? fields "audit" (Audit.read? s) default.audit }

end TableGateway.Config
