import TableGateway.Audit.Sink
import TableGateway.Session.Basic

/-! # Events in a table -/

namespace TableGateway.Audit

/-- A table for events under its quoted name, and whether it is known to be there. -/
structure Table where
  name : String
  ready : Bool

namespace Table

/-! ## Statements -/

/-- The columns of the table and their types. -/
def columnDefinitions : List String :=
  ["event_id uuid PRIMARY KEY", "occurred_at timestamptz NOT NULL", "project_id text NOT NULL",
    "table_name text NOT NULL", "column_name text NOT NULL", "attempted_value text NOT NULL",
    "source_ip text", "operation text NOT NULL", "lock_level text NOT NULL",
    "caller_role text NOT NULL"]

/-- The statement that creates the table, with a column on each line. -/
def createSql (table : String) : String :=
  let column (definition : String) := "                " ++ definition
  "CREATE TABLE IF NOT EXISTS " ++ table ++ " (\n"
    ++ Text.joined ",\n" (columnDefinitions.map column) ++ "\n            )"

/-- The statement that inserts an event. -/
def insertSql (table : String) : String :=
  "INSERT INTO " ++ table ++ " (" ++ Text.joined ", " Event.memberNames
    ++ ") VALUES ($1, $2, $3, $4, $5, $6, $7, $8, $9, $10)"

/-- The values of an event in the order of its members. -/
def arguments (e : Event) : List Parameter :=
  [.scalar .uuid (some (.uuid e.id)), .scalar .timestamptz (some (.time e.occurredAt)),
    .ofText e.incident.projectId, .ofText e.incident.tableName, .ofText e.incident.columnName,
    .ofText e.incident.attemptedValue,
    .scalar .text (e.incident.sourceAddress.map .text),
    .ofText e.incident.operation.text, .ofText e.incident.lockLevel.text,
    .ofText e.incident.callerRole]

/-! ## Recording -/

/-- Creates the table. -/
def create (t : Table) (db : Database) : Conversation Database.Failure Unit := do
  db.acquire
  let _ ← Session.runStatement db (createSql t.name) []

/-- Inserts events one by one. -/
def insertAll (t : Table) (db : Database) : List Event → Conversation Database.Failure Unit
  | [] => pure ()
  | e :: es => do
      let _ ← Session.runStatement db (insertSql t.name) (arguments e)
      insertAll t db es

/-- Inserts events in a transaction of their own, all of them or none. -/
def insert (t : Table) (db : Database) (events : List Event) :
    Conversation Database.Failure Unit := do
  db.acquire
  db.send .begin
  match ← (insertAll t db events).attempt with
  | .ok () => db.commit
  | .error f =>
      db.sendAnyway .rollback
      Conversation.fail f

/-- Puts events on record. The table is created first, until that has succeeded once. -/
def record {ε : Type} (t : Table) (db : Database) (events : List Event) :
    Conversation ε (Except Database.Failure Unit × Table) := do
  let created ← (if t.ready then pure () else t.create db).attempt
  match created with
  | .error f => return (.error f, t)
  | .ok () =>
      let t := { t with ready := true }
      let outcome ← (t.insert db events).attempt
      return (outcome, t)

/-- Puts batches of events on record one after the other. -/
def recordAll {ε : Type} (db : Database) (t : Table) :
    List (List Event) → Conversation ε (List (Except Database.Failure Unit))
  | [] => pure []
  | events :: batches => do
      let (outcome, t) ← t.record db events
      let outcomes ← recordAll db t batches
      return outcome :: outcomes

end Table

end TableGateway.Audit
