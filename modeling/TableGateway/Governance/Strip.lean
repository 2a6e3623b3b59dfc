import TableGateway.Governance.Incident
import TableGateway.Row

/-! # Taking locked columns out of a write -/

namespace TableGateway.Governance

/-- Who writes, and what the locks of the write are. -/
structure Context where
  locks : LockMap
  callerRole : String
  projectId : String
  sourceAddress : Option String

/-- The rows that remain, and an incident for each value that was taken out. -/
structure Governed where
  rows : List Row
  incidents : List Incident

/-- The incident of a value that is taken out. -/
def Context.incident (context : Context) (table : String) (operation : WriteOperation)
    (column : String) (value : Sql.Value) : Incident where
  projectId := context.projectId
  tableName := table
  columnName := column
  attemptedValue := value.record
  sourceAddress := context.sourceAddress
  operation := operation
  lockLevel := context.locks.level column
  callerRole := context.callerRole

/-- Takes columns out of a row one after the other. -/
def takeOut (context : Context) (table : String) (operation : WriteOperation) :
    List String → Row → Row × List Incident
  | [], row => (row, [])
  | column :: columns, row =>
      match row.get? column with
      | none => takeOut context table operation columns row
      | some value =>
          let (rest, incidents) := takeOut context table operation columns (row.remove column)
          (rest, context.incident table operation column value :: incidents)

/-- The columns of a row that the locks take out of a write. -/
def Context.lockedNames (context : Context) (operation : WriteOperation) (row : Row) :
    List String :=
  row.names.filter fun column =>
    (context.locks.level column).isStripped operation context.callerRole

/-- Takes the locked columns out of rows. Without any lock the rows are left as they are. -/
def strip (context : Context) (table : String) (operation : WriteOperation) (rows : List Row) :
    Governed :=
  if context.locks.isEmpty then ⟨rows, []⟩
  else
    let stripped := rows.map fun row =>
      takeOut context table operation (context.lockedNames operation row) row
    ⟨stripped.map Prod.fst, stripped.flatMap Prod.snd⟩

end TableGateway.Governance
