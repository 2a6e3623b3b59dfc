import TableGateway.Json.Printer

/-! # Writing records field by field

A record is written as an object without being made into a value first.
-/

namespace TableGateway.Json

/-- What is written of a record so far. -/
structure RecordWriter where
  chars : List Char
  /-- No field is written yet, so that none has to be set apart from the next one. -/
  isFirst : Bool

namespace RecordWriter

def start : RecordWriter := ⟨['\x7b'], true⟩

/-- Writes a field whose value is there in writing. -/
def field (w : RecordWriter) (name : String) (value : List Char) : RecordWriter :=
  ⟨w.chars ++ (if w.isFirst then [] else [',']) ++ quotedChars name ++ ':' :: value, false⟩

/-- The text of the whole record. -/
def finish (w : RecordWriter) : String :=
  String.ofList (w.chars ++ ['\x7d'])

end RecordWriter

end TableGateway.Json
