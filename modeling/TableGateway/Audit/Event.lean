import TableGateway.Governance.Incident
import TableGateway.Json.Fields
import TableGateway.Json.Printer
import TableGateway.Time.Reading
import TableGateway.Time.Writing
import TableGateway.Uuid

/-! # Recorded incidents -/

namespace TableGateway.Audit

/-- An incident as it goes on record, with an identifier and a time. -/
structure Event where
  id : Uuid
  occurredAt : DateTime
  incident : Incident

namespace Event

/-- The names of the members of an event in order. -/
def memberNames : List String :=
  ["event_id", "occurred_at", "project_id", "table_name", "column_name", "attempted_value",
    "source_ip", "operation", "lock_level", "caller_role"]

/-! ## Writing -/

/-- The event as a JSON object, without the source address where none is known. -/
def toJson (e : Event) : Json :=
  let address : List (String × Json) := match e.incident.sourceAddress with
    | some address => [("source_ip", .string address)]
    | none => []
  .object <|
    [("event_id", .string e.id.text), ("occurred_at", .string e.occurredAt.internetText),
      ("project_id", .string e.incident.projectId), ("table_name", .string e.incident.tableName),
      ("column_name", .string e.incident.columnName),
      ("attempted_value", .string e.incident.attemptedValue)]
    ++ address ++
    [("operation", .string e.incident.operation.text),
      ("lock_level", .string e.incident.lockLevel.text),
      ("caller_role", .string e.incident.callerRole)]

/-! ## Reading -/

/-- The members of an object by name, or the items of an array by position. -/
def members? : Json.Tree → Option (List (String × Json.Tree))
  | .object members => Json.fields? memberNames members
  | .array items =>
      if items.length = memberNames.length then some (memberNames.zip items) else none
  | _ => none

/-- Reads an event. Only the source address may be missing. -/
def ofTree? (t : Json.Tree) : Option Event := do
  let members ← members? t
  let member (name : String) : Option Json.Tree := Association.get? name members
  let text (name : String) : Option String := (member name).bind Json.Tree.string?
  let address ← match member "source_ip" with
    | none => some none
    | some t => t.stringOrNull?
  return {
    id := ← (← text "event_id") |> Uuid.parse?
    occurredAt := ← (← text "occurred_at") |> DateTime.ofRelaxedInternet?
    incident := {
      projectId := ← text "project_id"
      tableName := ← text "table_name"
      columnName := ← text "column_name"
      attemptedValue := ← text "attempted_value"
      sourceAddress := address
      operation := ← (← (member "operation").bind nameOfTree?) |> WriteOperation.ofText?
      lockLevel := LockLevel.ofText (← (member "lock_level").bind nameOfTree?)
      callerRole := ← text "caller_role" } }

def ofText? (s : String) : Option Event :=
  (Json.Tree.ofText? s).bind ofTree?

end Event

end TableGateway.Audit
