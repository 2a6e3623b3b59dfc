import TableGateway.Number.Numeral
import TableGateway.Yaml.Literal
import TableGateway.Yaml.Scalar
import TableGateway.Yaml.Tag

/-! # Tokens of YAML texts -/

namespace TableGateway.Yaml

/-- How a scalar is written. -/
inductive Style where
  | plain
  | quoted
  | literal
  | folded
deriving DecidableEq

/-- A piece of a text, or the start or the end of a block that the indentation shows. -/
inductive Token where
  /-- The version that a text declares. -/
  | version (major minor : Nat)
  /-- A handle that a text declares, and what it stands for. -/
  | handle (name : String) (front : Tag)
  | documentStart
  | documentEnd
  | blockSequenceStart
  | blockMappingStart
  | blockEnd
  | flowSequenceStart
  | flowSequenceEnd
  | flowMappingStart
  | flowMappingEnd
  /-- The dash in front of an item of a block. -/
  | blockEntry
  /-- The comma between the parts of a collection. -/
  | flowEntry
  /-- What follows is the name of a member. -/
  | name
  /-- What follows is the value of a member. -/
  | value
  | alias (anchor : String)
  | anchor (name : String)
  | tag (tag : WrittenTag)
  | scalar (style : Style) (text : String)

namespace Token

/-! ## Directives -/

/-- A number of at most nine digits, and the rest. -/
def versionNumber? (cs : List Char) : Option (Nat × List Char) :=
  let (digits, rest) := cs.span Char.isDigit
  if 9 < digits.length then none
  else (Numeral.natural? digits).map fun n => (n, rest)

/-- The version of the language, and the rest. -/
def version? (cs : List Char) : Option (Token × List Char) := do
  let (major, rest) ← versionNumber? (skipBlanks cs)
  if rest.head? ≠ some '.' then none
  let (minor, rest) ← versionNumber? (rest.drop 1)
  return (.version major minor, rest)

/-- A handle and what it stands for, and the rest. -/
def handle? (cs : List Char) : Option (Token × List Char) := do
  let cs := skipBlanks cs
  if cs.head? ≠ some '!' then none
  let (mark, rest) := Yaml.handle (cs.drop 1)
  if !rest.head?.any isBlank then none
  let (front, rest) ← someTagBytes? true (skipBlanks rest)
  if endsWord rest then some (.handle mark front, rest) else none

/-- A directive from behind its mark, and the text below it. -/
def directive? (cs : List Char) : Option (Token × List Char) := do
  let (word, rest) := cs.span isNameChar
  if !endsWord rest then none
  let (token, rest) ← match String.ofList word with
    | "YAML" => version? rest
    | "TAG" => handle? rest
    | _ => none
  return (token, ← nextLine? rest)

end Token

end TableGateway.Yaml
