import TableGateway.Json.Printer

/-! # Values of parameters -/

namespace TableGateway

/-- A value on its way to a parameter of a statement, before the type of the parameter is known. -/
inductive Sql.Value where
  | null
  | bool (b : Bool)
  | number (n : Json.Number)
  | text (s : String)
  | json (v : Json)
  | textArray (items : List String)

namespace Sql.Value

/-- Scalars are taken apart; arrays and objects stay JSON. -/
def ofJson : Json → Value
  | .null => null
  | .bool b => bool b
  | .number n => number n
  | .string s => text s
  | .array items => json (.array items)
  | .object members => json (.object members)

/-- The JSON value that shows a value as it is. -/
def toJson : Value → Json
  | null => .null
  | bool b => .bool b
  | number n => .number n
  | text s => .string s
  | json v => v
  | textArray items => .strings items

/-- How a value is put on record: a text as it stands, all else as JSON. -/
def record : Value → String
  | text s => s
  | v => v.toJson.text

end Sql.Value

end TableGateway
