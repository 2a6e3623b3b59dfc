import TableGateway.Row

/-! # Request bodies -/

namespace TableGateway

/-- The rows of a body: a single object, or an array of objects. -/
inductive Payload where
  | single (row : Row)
  | batch (rows : List Row)

namespace Payload

/-- Why a body has no rows. -/
inductive Error where
  | notAnObject
  | invalidColumn
deriving DecidableEq

def Error.message : Error → String
  | notAnObject => "payload must be a JSON object or an array of JSON objects"
  | invalidColumn => "payload contains an invalid column name"

/-- The row of an object whose names are all plain identifiers. -/
def rowOfMembers (members : List (String × Json)) : Except Error Row :=
  if members.all fun (name, _) => Sql.Identifier.isValid name then
    .ok ⟨members.map fun (name, v) => (name, Sql.Value.ofJson v)⟩
  else .error .invalidColumn

/-- The row of an item of an array. -/
def rowOfItem : Json → Except Error Row
  | .object members => rowOfMembers members
  | _ => .error .notAnObject

/-- The rows of an array, or what is wrong with the first item that makes none. -/
def rowsOfItems : List Json → Except Error (List Row)
  | [] => .ok []
  | item :: items => do
      let row ← rowOfItem item
      let rows ← rowsOfItems items
      return row :: rows

/-- Reads the rows of a body. -/
def ofJson : Json → Except Error Payload
  | .object members => (rowOfMembers members).map single
  | .array items => (rowsOfItems items).map batch
  | _ => .error .notAnObject

def rows : Payload → List Row
  | single row => [row]
  | batch rows => rows

end Payload

end TableGateway
