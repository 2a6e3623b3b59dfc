import TableGateway.Json.Grammar
import TableGateway.Number.Numeral
import TableGateway.Text.Cut

/-! # Network addresses -/

namespace TableGateway.Network

/-- The address of a host: four bytes, or eight groups of sixteen bits. -/
inductive Address where
  | four (bytes : List Nat)
  | six (groups : List Nat)
deriving DecidableEq

namespace Address

/-! ## Writing -/

/-- A group without leading zeros. -/
def groupChars (n : Nat) : List Char :=
  Nat.toDigits 16 n

/-- Groups with colons between them. -/
def groupsChars (groups : List Nat) : List Char :=
  [':'].intercalate (groups.map groupChars)

def bytesChars (bytes : List Nat) : List Char :=
  ['.'].intercalate (bytes.map Numeral.digits)

/-- The length of the zero groups in front. -/
def zeroRun (groups : List Nat) : Nat :=
  (groups.takeWhile (· = 0)).length

/-- The place and the length of the first one of the longest runs of zero groups. -/
def longestRun (place : Nat) : List Nat → Nat × Nat
  | [] => (place, 0)
  | g :: gs =>
      let run := zeroRun (g :: gs)
      let (later, length) := longestRun (place + 1) gs
      if length ≤ run then (place, run) else (later, length)

/-- The canonical text. The longest run of two or more zero groups is left out, and an address of
four bytes among those of eight groups is written with its bytes. -/
def text : Address → String
  | four bytes => String.ofList (bytesChars bytes)
  | six [0, 0, 0, 0, 0, 0xFFFF, high, low] =>
      String.ofList ("::ffff:".toList
        ++ bytesChars [high / 256, high % 256, low / 256, low % 256])
  | six groups =>
      let (place, length) := longestRun 0 groups
      String.ofList <|
        if length < 2 then groupsChars groups
        else groupsChars (groups.take place) ++ "::".toList
          ++ groupsChars (groups.drop (place + length))

/-! ## Reading -/

/-- A byte without leading zeros. -/
def byte? (s : String) : Option Nat :=
  match s.toList with
  | '0' :: _ :: _ => none
  | cs => (Numeral.natural? cs).filter (· < 256)

def bytes? (s : String) : Option (List Nat) :=
  ((Text.pieces '.' s).mapM byte?).filter fun bytes => bytes.length = 4

/-- A group of one to four hexadecimal digits. -/
def group? (s : String) : Option Nat :=
  let cs := s.toList
  if cs.isEmpty || 4 < cs.length then none
  else (cs.mapM Json.hexDigit?).map fun ds => ds.foldl (fun n d => n * 16 + d) 0

/-- Groups with colons between them, the last two of which may be written as four bytes. -/
def groupList? : List String → Option (List Nat)
  | [] => some []
  | [last] =>
      match bytes? last with
      | some [a, b, c, d] => some [a * 256 + b, c * 256 + d]
      | _ => (group? last).map fun g => [g]
  | piece :: pieces => do
      let g ← group? piece
      let gs ← groupList? pieces
      return g :: gs

def groups? (s : String) : Option (List Nat) :=
  if s.toList.isEmpty then some [] else groupList? (Text.pieces ':' s)

/-- Cuts at the first two colons in a row. -/
def cutGap : List Char → Option (List Char × List Char)
  | [] => none
  | ':' :: ':' :: cs => some ([], cs)
  | c :: cs => (cutGap cs).map fun (before, after) => (c :: before, after)

/-- Eight groups, some of which two colons in a row may stand for. -/
def six? (s : String) : Option (List Nat) :=
  match cutGap s.toList with
  | none => (groups? s).filter fun groups => groups.length = 8
  | some (before, after) => do
      let before := String.ofList before
      if Text.occursIn "." before then none
      let front ← groups? before
      let back ← groups? (String.ofList after)
      if front.length + back.length ≤ 7 then
        some (front ++ List.replicate (8 - front.length - back.length) 0 ++ back)
      else none

/-- A port, which is nothing but digits. -/
def isPort (s : String) : Bool :=
  (Numeral.natural? s.toList).any (· < twoTo 16)

/-- The host of a socket address such as `192.0.2.4:80` or `[::1]:80`. -/
def ofSocket? (s : String) : Option Address :=
  match Text.afterFront? "[" s with
  | some s => do
      let (host, rest) ← Text.cut ']' s
      let port ← Text.afterFront? ":" rest
      let host ← match Text.cut '%' host with
        | none => some host
        | some (host, scope) =>
            if (Numeral.natural? scope.toList).any (· < twoTo 32) then some host else none
      if isPort port then (six? host).map six else none
  | none => do
      let (host, port) ← Text.cut ':' s
      if isPort port then (bytes? host).map four else none

end Address

end TableGateway.Network
