import TableGateway.Audit.Event
import TableGateway.Config.Basic
import TableGateway.Database.Basic
import TableGateway.Network.Url

/-! # Where incidents go on record -/

namespace TableGateway.Audit

/-! ## Sinks -/

/-- A place for events. -/
inductive Sink where
  | console
  | file (path : String)
  | database (table : String)
  | memory
  | null

def Sink.name : Sink → String
  | console => "console"
  | file _ => "file"
  | database _ => "database"
  | memory => "memory"
  | null => "null"

/-- Why events are not on record. -/
inductive Error where
  | initialization (cause : String)
  | database (cause : Database.Failure)
  | storage

def Error.message : Error → String
  | initialization cause => "failed to initialize security sink: " ++ cause
  | database cause => "database error: " ++ cause.message
  | storage => "IO error"

/-- The name of a table as a statement takes it. -/
def tableName (table : String) : Except Error String :=
  (Sql.Identifier.quote table).mapError fun e => .initialization e.message

/-- The sink in a table, whose database must have an address in the environment. -/
def databaseSink (config : Config.Audit) (environment : Config.Environment) :
    Except Error Sink := do
  let some name := config.urlVariable
    | .error (.initialization "audit.database_url_env is required for the database backend")
  let some url := environment name
    | .error (.initialization ("environment variable " ++ name ++ " not set"))
  if !Network.Url.isValid url then .error (.database .badAddress)
  return .database (← tableName config.table)

/-- The sink that the settings ask for, which is none if nothing shall go on record. -/
def Sink.ofConfig (config : Config.Audit) (environment : Config.Environment) :
    Except Error Sink :=
  if !config.enabled then .ok .null
  else
    match config.backend with
    | .console => .ok .console
    | .file => .ok (.file config.filePath)
    | .null => .ok .null
    | .database => databaseSink config environment

/-- What an auditor says of itself. -/
def Sink.auditorText (s : Sink) : String :=
  "SecurityAuditor \x7b sink: \"" ++ s.name ++ "\" \x7d"

/-! ## Storage -/

/-- The contents of the files of a directory without subdirectories, and what is kept in memory. -/
structure Storage where
  files : List (String × String)
  memory : List Event

namespace Storage

def empty : Storage := ⟨[], []⟩

/-- The file that a path leads to. A path may stay in its directory but must not leave it, and the
last part of it is the name. -/
def fileName? (path : String) : Option String :=
  let steps := Text.pieces '/' path
  let name := steps.getLastD ""
  let stays := steps.dropLast.all fun step => step = "" ∨ step = "."
  if stays && !Text.startsWith "/" path && name ∉ ["", ".", ".."] && name.utf8ByteSize ≤ 255
      && !name.toList.any (· == '\x00') then some name
  else none

/-- The content of the file that a path leads to. -/
def content? (s : Storage) (path : String) : Option String :=
  (fileName? path).bind fun name => Association.get? name s.files

/-- Adds a text to the end of a file, which need not be there yet. -/
def append (s : Storage) (path text : String) : Except Error Storage :=
  match fileName? path with
  | none => .error .storage
  | some name =>
      let content := (Association.get? name s.files).getD ""
      .ok { s with files := Association.put name (content ++ text) s.files }

end Storage

/-! ## Recording -/

/-- A line for each event. -/
def eventLines (events : List Event) : String :=
  String.ofList (events.flatMap fun e => e.toJson.chars ++ ['\n'])

/-- Puts events on record. What goes to the console or into a table is not part of the storage. -/
def Sink.record (sink : Sink) (events : List Event) (s : Storage) : Except Error Storage :=
  match sink with
  | .file path => s.append path (eventLines events)
  | .memory => .ok { s with memory := s.memory ++ events }
  | _ => .ok s

/-- What becomes of events that are handed over. -/
inductive Delivery where
  | nothing
  | delivered

/-- Hands events over. That they do not get on record shows nowhere. -/
def Sink.emit (sink : Sink) (events : List Event) (s : Storage) : Delivery × Storage :=
  if events.isEmpty then (.nothing, s)
  else
    match sink.record events s with
    | .ok s => (.delivered, s)
    | .error _ => (.delivered, s)

end TableGateway.Audit
