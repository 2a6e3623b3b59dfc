import TableGateway.Governance.Lock

/-! # Attempts to write a locked column -/

namespace TableGateway

/-- What is known of an attempt to write a locked column. -/
structure Incident where
  projectId : String
  tableName : String
  columnName : String
  attemptedValue : String
  sourceAddress : Option String
  operation : WriteOperation
  lockLevel : LockLevel
  callerRole : String
deriving DecidableEq

/-- The incident on one line: project, role, column and level. -/
def Incident.summary (i : Incident) : String :=
  "[" ++ i.projectId ++ " - " ++ i.callerRole ++ " - " ++ i.tableName ++ "." ++ i.columnName
    ++ " - " ++ i.lockLevel.text ++ "]"

end TableGateway
