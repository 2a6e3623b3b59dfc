import TableGateway.Association
import TableGateway.Json.Reader

/-! # Column locks -/

namespace TableGateway

/-- The role that no lock for service roles holds back. -/
def serviceRole : String := "service_role"

/-! ## Levels -/

/-- When a column must not be written. -/
inductive LockLevel where
  | unlocked
  | immutable
  | insertOnly
  | serviceRoleOnly
deriving DecidableEq

/-- The two ways to write a row. -/
inductive WriteOperation where
  | insert
  | update
deriving DecidableEq

def WriteOperation.text : WriteOperation → String
  | insert => "insert"
  | update => "update"

def WriteOperation.ofText? (s : String) : Option WriteOperation :=
  if s = "insert" then some insert else if s = "update" then some update else none

namespace LockLevel

def text : LockLevel → String
  | unlocked => "unlocked"
  | immutable => "immutable"
  | insertOnly => "insert_only"
  | serviceRoleOnly => "service_role_only"

/-- The level of a name. A name that is not known locks nothing. -/
def ofText (s : String) : LockLevel :=
  if s = "immutable" then immutable
  else if s = "insert_only" then insertOnly
  else if s = "service_role_only" then serviceRoleOnly
  else unlocked

/-- A column of this level is taken out of a write of this role. -/
def isStripped (level : LockLevel) (operation : WriteOperation) (role : String) : Bool :=
  match level with
  | unlocked => false
  | immutable => true
  | insertOnly => operation = .update
  | serviceRoleOnly => role ≠ serviceRole

end LockLevel

/-! ## Reading names -/

/-- A name written as a string, or as the only member of an object, with null for its value. -/
def nameOfTree? : Json.Tree → Option String
  | .string parts => Json.partsString? parts
  | .object [(name, .null)] => Json.partsString? name
  | _ => none

/-! ## Maps of locks -/

/-- The levels of the columns that have one. -/
structure LockMap where
  levels : List (String × LockLevel)

namespace LockMap

def empty : LockMap := ⟨[]⟩

/-- The level of a column. A column without one is not locked. -/
def level (locks : LockMap) (column : String) : LockLevel :=
  (Association.get? column locks.levels).getD .unlocked

/-- No column is locked. -/
def isEmpty (locks : LockMap) : Bool :=
  locks.levels.all fun (_, level) => level = .unlocked

/-- Puts the members one by one. A column that comes again takes its last level. -/
def ofMembers? (before : LockMap) : List (List Json.StringPart × Json.Tree) → Option LockMap
  | [] => some before
  | (column, level) :: members =>
      match Json.partsString? column, nameOfTree? level with
      | some column, some level =>
          ofMembers? ⟨Association.put column (LockLevel.ofText level) before.levels⟩ members
      | _, _ => none

/-- Reads an object from columns to levels. -/
def ofText? (s : String) : Option LockMap :=
  match Json.Tree.ofText? s with
  | some (.object members) => ofMembers? empty members
  | _ => none

end LockMap

end TableGateway
