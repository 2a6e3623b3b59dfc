import TableGateway.Json.Grammar
import TableGateway.Text.Utf8
import TableGateway.Yaml.Text

/-! # Anchors and tags

An anchor names a node, and a tag says what type it has. A tag is written in full, or with a handle
that stands for what it starts with.
-/

namespace TableGateway.Yaml

/-! ## Anchors -/

/-- The name of an anchor or of an alias, and the rest. -/
def anchorName? (cs : List Char) : Option (String × List Char) :=
  let isEnd (c : Char) : Bool :=
    c ∈ ['?', ':', ',', ']', '\x7d', '%', '@', Char.ofNat 0x60]
  let (name, rest) := cs.span isNameChar
  if name.isEmpty || !(endsWord rest || rest.head?.any isEnd) then none
  else some (String.ofList name, rest)

/-! ## Tags -/

/-- The bytes of a tag. -/
abbrev Tag := List UInt8

def Tag.ofText (s : String) : Tag :=
  s.toList.flatMap String.utf8EncodeChar

/-- The bytes up to the first one that is zero. -/
def Tag.untilZero (bytes : List UInt8) : Tag :=
  bytes.takeWhile (· ≠ 0)

/-- The type names that count. -/
def nullTag : Tag := Tag.ofText "tag:yaml.org,2002:null"
def boolTag : Tag := Tag.ofText "tag:yaml.org,2002:bool"
def integerTag : Tag := Tag.ofText "tag:yaml.org,2002:int"

/-- The name that a tag of one's own has behind its mark, which alone is a name as well. -/
def Tag.ownName? : Tag → Option String
  | [] => none
  | b :: bytes =>
      if b ≠ 0x21 then none else Text.Utf8.text? (if bytes.isEmpty then [b] else bytes)

/-- The characters that a tag holds as they are. Some of them only where its end is marked. -/
def isTagChar (marked : Bool) (c : Char) : Bool :=
  isNameChar c
    || c ∈ [';', '/', '?', ':', '@', '&', '=', '+', '$', '.', '!', '~', '*', '\'', '(', ')']
    || (marked && c ∈ [',', '[', ']'])

/-- How many bytes follow the first byte of a character. -/
def bytesBehind? (b : Nat) : Option Nat :=
  if b < 0x80 then some 0
  else if b < 0xC0 then none
  else if b < 0xE0 then some 1
  else if b < 0xF0 then some 2
  else if b < 0xF8 then some 3
  else none

/-- The bytes of a part of a tag, and the rest. Escaped bytes make up characters, of one of which
`pending` bytes are still to come. -/
def tagBytes? (marked : Bool) (pending : Nat) : List Char → Option (List UInt8 × List Char)
  | [] => if pending = 0 then some ([], []) else none
  | '%' :: a :: b :: cs =>
      match Json.hexDigit? a, Json.hexDigit? b with
      | some high, some low =>
          let n := high * 16 + low
          let behind :=
            if pending = 0 then bytesBehind? n
            else if 0x80 ≤ n ∧ n < 0xC0 then some (pending - 1) else none
          match behind with
          | some behind => (tagBytes? marked behind cs).map fun (bytes, rest) =>
              (UInt8.ofNat n :: bytes, rest)
          | none => none
      | _, _ => none
  | c :: cs =>
      if pending ≠ 0 || c == '%' then none
      else if isTagChar marked c then
        (tagBytes? marked 0 cs).map fun (bytes, rest) => (String.utf8EncodeChar c ++ bytes, rest)
      else some ([], c :: cs)

/-- The bytes of a part of a tag that is not empty, and the rest. -/
def someTagBytes? (marked : Bool) (cs : List Char) : Option (Tag × List Char) :=
  match tagBytes? marked 0 cs with
  | some (b :: bytes, rest) => some (Tag.untilZero (b :: bytes), rest)
  | _ => none

/-- A tag as it is written: a handle, which is empty where the tag is complete, and what follows the
handle. -/
structure WrittenTag where
  handle : String
  suffix : Tag

/-- The handle in front from behind its first mark, and the rest. There need not be a second mark,
so that the first one alone is a handle as well. -/
def handle (cs : List Char) : String × List Char :=
  let (name, rest) := cs.span isNameChar
  match rest with
  | '!' :: rest => ("!" ++ String.ofList name ++ "!", rest)
  | _ => ("!", cs)

/-- A tag from behind its first mark, and the rest. Where nothing follows the mark, it is the whole
tag. -/
def tagBody? : List Char → Option (WrittenTag × List Char)
  | '<' :: cs => do
      let (tag, rest) ← someTagBytes? true cs
      if rest.head? = some '>' then some (⟨"", tag⟩, rest.drop 1) else none
  | cs => do
      let (handle, rest) := handle cs
      if handle = "!" then
        let (bytes, rest) ← tagBytes? false 0 rest
        let suffix := Tag.untilZero bytes
        return (if suffix.isEmpty then ⟨"", Tag.ofText "!"⟩ else ⟨"!", suffix⟩, rest)
      else
        let (suffix, rest) ← someTagBytes? false rest
        return (⟨handle, suffix⟩, rest)

/-- A tag from behind its first mark, and the rest, which starts with a blank or, in brackets and
braces, with a comma. -/
def tag? (inFlow : Bool) (cs : List Char) : Option (WrittenTag × List Char) := do
  let (tag, rest) ← tagBody? cs
  if endsWord rest || (inFlow && rest.head? = some ',') then some (tag, rest) else none

/-! ## Handles -/

/-- What handles stand for, by the handle. -/
abbrev Handles := List (String × Tag)

/-- The handles that need not be declared. -/
def commonHandles : Handles :=
  [("!", Tag.ofText "!"), ("!!", Tag.ofText "tag:yaml.org,2002:")]

/-- The tag that is written, if its handle is known. -/
def WrittenTag.tag? (handles : Handles) (t : WrittenTag) : Option Tag :=
  if t.handle = "" then some t.suffix
  else ((handles ++ commonHandles).lookup t.handle).map fun front => front ++ t.suffix

end TableGateway.Yaml
