import TableGateway.Json.Reader
import TableGateway.Number.Literal
import TableGateway.Parameter.Basic
import TableGateway.Sql.Value
import TableGateway.Text.Blank
import TableGateway.Time.Reading

/-! # From values to typed parameters -/

namespace TableGateway.Parameter

open Sql (Value)

/-! ## Single values -/

/-- The text of a value that is not null. -/
def textOf? : Value → Option String
  | .null => none
  | v => some v.record

/-- The truth value of a word. -/
def boolOfWord? (s : String) : Option Bool :=
  let word := Text.lower (Text.trim s)
  if word ∈ ["true", "t", "yes", "y", "on", "1"] then some true
  else if word ∈ ["false", "f", "no", "n", "off", "0"] then some false
  else none

def boolOf? : Value → Option Bool
  | .bool b => some b
  | .text s => boolOfWord? s
  | _ => none

/-- An integer of at most 64 bits. -/
def integerOf? : Value → Option Int
  | .number n => n.signed?
  | .text s => Numeral.signedWord? 64 (Text.trim s)
  | _ => none

/-- An integer that fits a word of the given number of bits. -/
def wordOf? (bits : Nat) (v : Value) : Option Int :=
  (integerOf? v).filter (Numeral.inWord bits)

def doubleOf? : Value → Option Double
  | .number n => some n.toDouble
  | .text s => Double.ofText? (Text.trim s)
  | _ => none

def decimalOf? : Value → Option Decimal
  | .number n => Decimal.parse? n.text
  | .text s => Decimal.parse? (Text.trim s)
  | _ => none

def uuidOf? : Value → Option Uuid
  | .text s => Uuid.parse? (Text.trim s)
  | _ => none

/-- A text is read as JSON, and is a string where that fails. -/
def jsonOfText (s : String) : Json :=
  (Json.parse? s).getD (.string s)

def jsonOf : Value → Json
  | .text s => jsonOfText s
  | v => v.toJson

def dateOf? : Value → Option Date
  | .text s => Date.parse? (Text.trim s)
  | _ => none

/-- A date and a time, a time with an offset in universal time, or the midnight of a date. -/
def timestampOfText? (s : String) : Option DateTime :=
  let s := Text.trim s
  (DateTime.ofFree? s).or <| (DateTime.ofInternet? s).or <|
    (Date.parse? s).map fun d => ⟨d, .midnight⟩

def timestampOf? : Value → Option DateTime
  | .text s => timestampOfText? s
  | _ => none

/-- A time with an offset, or else a time that is universal. -/
def instantOf? : Value → Option DateTime
  | .text s => (DateTime.ofInternet? (Text.trim s)).or (timestampOfText? s)
  | _ => none

/-- A value of the given kind. -/
def datum? (kind : Kind) (v : Value) : Option Datum :=
  match kind with
  | .bool => (boolOf? v).map .bool
  | .int2 => (wordOf? 16 v).map .integer
  | .int4 => (wordOf? 32 v).map .integer
  | .int8 => (wordOf? 64 v).map .integer
  | .float4 => (doubleOf? v).map fun x => .single x.toSingle
  | .float8 => (doubleOf? v).map .double
  | .numeric => (decimalOf? v).map .decimal
  | .text => (textOf? v).map .text
  | .uuid => (uuidOf? v).map .uuid
  | .json => some (.json (jsonOf v))
  | .date => (dateOf? v).map .date
  | .timestamp => (timestampOf? v).map .time
  | .timestamptz => (instantOf? v).map .time

/-! ## Arrays -/

/-- The items of an array written in braces. -/
def bracedItems? (s : String) : Option (List String) :=
  (Text.between? "\x7b" "\x7d" (Text.trim s)).map fun inner =>
    if Text.isBlankText inner then []
    else
      (Text.pieces ',' inner).map fun item =>
        let item := Text.trim item
        (Text.between? "\"" "\"" item).getD item

/-- The items of a value that is an array in one of its three spellings. -/
def items? : Value → Option (List Value)
  | .textArray items => some (items.map .text)
  | .json (.array items) => some (items.map .ofJson)
  | .text s => (bracedItems? s).map fun items => items.map .text
  | _ => none

/-! ## Parameters -/

/-- The value has no form in the type. -/
structure Mismatch where

/-- A value of the given kind, or the null of that kind. -/
def scalarOf (kind : Kind) : Value → Except Mismatch Parameter
  | .null => .ok (.scalar kind none)
  | v =>
      match datum? kind v with
      | some d => .ok (.scalar kind (some d))
      | none => .error ⟨⟩

/-- An array of the given kind, or the null of such arrays. -/
def arrayOf (kind : Kind) : Value → Except Mismatch Parameter
  | .null => .ok (.array kind none)
  | v =>
      match (items? v).bind fun items => items.mapM (datum? kind) with
      | some ds => .ok (.array kind (some ds))
      | none => .error ⟨⟩

/-- The text of a value, or the null of texts. -/
def plainText (v : Value) : Parameter :=
  .scalar .text ((textOf? v).map .text)

/-- Converts a value to a type. For types that are not known, and for arrays of JSON, the text of
the value stands in. -/
def convert (type : SqlType) (v : Value) : Except Mismatch Parameter :=
  match type.element with
  | none => .ok (plainText v)
  | some .json => if type.isArray then .ok (plainText v) else scalarOf .json v
  | some kind => if type.isArray then arrayOf kind v else scalarOf kind v

end TableGateway.Parameter
