import TableGateway.Number.Double

/-! # JSON values -/

namespace TableGateway

/-- A number of a JSON value: an integer of up to 64 bits, signed or unsigned, or else a double. -/
inductive Json.Number where
  | integer (n : Int)
  | float (x : Double)
deriving DecidableEq

/-- A JSON value. The members of an object have distinct names and keep their order. -/
inductive Json where
  | null
  | bool (b : Bool)
  | number (n : Json.Number)
  | string (s : String)
  | array (items : List Json)
  | object (members : List (String × Json))

namespace Json

/-- An array of strings. -/
def strings (items : List String) : Json :=
  array (items.map string)

/-- A string, or null where there is none. -/
def ofString? : Option String → Json
  | some s => string s
  | none => null

/-- The integer of a number that is written as one and fits 64 signed bits. -/
def Number.signed? : Number → Option Int
  | integer n => if n < twoTo 63 then some n else none
  | float _ => none

/-- The integer of a number that is written as one and is not negative. -/
def Number.unsigned? : Number → Option Nat
  | integer n => if n < 0 then none else some n.toNat
  | float _ => none

/-- The nearest double. -/
def Number.toDouble : Number → Double
  | integer n => Double.ofInt n
  | float x => x

end Json

end TableGateway
