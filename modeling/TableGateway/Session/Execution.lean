import TableGateway.Parameter.Conversion
import TableGateway.Query.Basic
import TableGateway.Session.Basic

/-! # Executing compiled statements -/

namespace TableGateway.Session

/-- What a compiled statement results in. The total counts the rows of all pages. -/
structure Outcome where
  rows : List Json
  affected : Nat
  total : Option Nat

/-! ## Arguments -/

/-- The type of a parameter that the database says nothing about. -/
def defaultType : String := "TEXT"

/-- A value in the form that the type of its parameter calls for. -/
def argument? (type : String) (v : Sql.Value) : Option Parameter :=
  match Parameter.convert (.ofName type) v with
  | .ok p => if p.isEncodable then some p else none
  | .error _ => none

/-- The arguments of a statement, counted from the given index, or the first value that has no
form in its type. -/
def bindFrom (index : Nat) (types : List String) : List Sql.Value → Except Error (List Parameter)
  | [] => .ok []
  | v :: vs =>
      let type := types.headD defaultType
      match argument? type v with
      | none => .error (.invalidParameter index (Text.lower type))
      | some p => (bindFrom (index + 1) types.tail vs).map (p :: ·)

/-- Prepares a statement, brings its values into form and executes it. -/
def executeSql (db : Database) (sql : String) (values : List Sql.Value) :
    Conversation Error Database.Reply := do
  let types ← (db.send (.prepare sql)).mapError .database
  let arguments ← Conversation.ofExcept (bindFrom 1 types values)
  (db.send (.execute sql arguments)).mapError .database

/-! ## Counting -/

def savepoint : String := "restgate_count"

/-- The integer in the first row. -/
def scalar (reply : Database.Reply) : Except Error Int :=
  match reply.cells with
  | [] => .error (.database .missingRow)
  | .integer n :: _ => .ok n
  | _ => .error (.database .unreadableValue)

/-- Counts the rows of all pages under its own timeout. A count that fails is unknown and leaves
no trace in the transaction. -/
def countRows (db : Database) (sql : String) (values : List Sql.Value) (timeout : Nat) :
    Conversation Error (Option Nat) := do
  let _ ← executeSql db ("SAVEPOINT " ++ savepoint) []
  let _ ← executeSql db (timeoutSql timeout) []
  let counted : Conversation Error Int := do
    let reply ← executeSql db sql values
    Conversation.ofExcept (scalar reply)
  match ← counted.attempt with
  | .ok n =>
      let _ ← executeSql db ("RELEASE SAVEPOINT " ++ savepoint) []
      return some n.toNat
  | .error (.database _) =>
      let _ ← executeSql db ("ROLLBACK TO SAVEPOINT " ++ savepoint) []
      return none
  | .error e => Conversation.fail e

/-! ## Rows -/

/-- The statement whose rows are the rows of another one as JSON. -/
def jsonRowsSql (sql : String) : String :=
  "WITH _rg AS (" ++ sql ++ ") SELECT to_jsonb(_rg) AS row FROM _rg"

/-- The row of a cell. -/
def rowOfCell? : Database.Cell → Option Json
  | .json text => Json.parse? text
  | _ => none

/-- The rows of a reply, which stand in a column of their own. -/
def rows (reply : Database.Reply) : Except Error (List Json) :=
  match reply.cells with
  | [] => .ok []
  | cells =>
      match if reply.column = "row" then cells.mapM rowOfCell? else none with
      | some rows => .ok rows
      | none => .error (.database .unreadableValue)

/-- The total of a statement that counts, after which the other statements have their own time
again. -/
def total (db : Database) (query : Query) (settings : Settings) :
    Conversation Error (Option Nat) := do
  match query.countText? with
  | none => return none
  | some sql =>
      let total ← countRows db sql query.parameters settings.countTimeout
      let _ ← executeSql db (timeoutSql settings.statementTimeout) []
      return total

/-- Executes a compiled statement within a transaction. -/
def execute (db : Database) (query : Query) (settings : Settings) :
    Conversation Error Outcome := do
  let total ← total db query settings
  if query.returnsRows then
    let reply ← executeSql db (jsonRowsSql query.text) query.parameters
    let rows ← Conversation.ofExcept (rows reply)
    return ⟨rows, rows.length, total⟩
  else
    let reply ← executeSql db query.text query.parameters
    return ⟨[], reply.affected, total⟩

end TableGateway.Session
