/-! # The grammar of JSON texts

Reading goes in two steps. The grammar here splits a text into a tree of what is written: digits
are not yet numbers, an escaped code unit is not yet a character, and a name may repeat. What the
tree means, and whether it means anything, is decided by its readers.
-/

namespace TableGateway.Json

/-! ## Trees -/

/-- A piece of a string: a character, or a code unit of sixteen bits written in hexadecimal. -/
inductive StringPart where
  | char (c : Char)
  | unit (n : Nat)
deriving DecidableEq

/-- What is written for a number. A missing fraction is empty. -/
structure Digits where
  negative : Bool
  whole : List Char
  fraction : List Char
  /-- The sign of the exponent, true for a minus, and its digits. -/
  exponent : Option (Bool × List Char)
deriving DecidableEq

/-- What is written for a value. -/
inductive Tree where
  | null
  | bool (b : Bool)
  | number (digits : Digits)
  | string (parts : List StringPart)
  | array (items : List Tree)
  | object (members : List (List StringPart × Tree))

/-! ## Tokens -/

/-- Space, tab, line feed and carriage return separate tokens. -/
def isSpace (c : Char) : Bool :=
  c == ' ' || c == '\t' || c == '\n' || c == '\r'

def skipSpace (cs : List Char) : List Char :=
  cs.dropWhile isSpace

/-- The value of a hexadecimal digit in either case. -/
def hexDigit? (c : Char) : Option Nat :=
  if '0' ≤ c && c ≤ '9' then some (c.toNat - '0'.toNat)
  else if 'a' ≤ c && c ≤ 'f' then some (c.toNat - 'a'.toNat + 10)
  else if 'A' ≤ c && c ≤ 'F' then some (c.toNat - 'A'.toNat + 10)
  else none

/-- The value of four hexadecimal digits. -/
def codeUnit? (a b c d : Char) : Option Nat := do
  return ((((← hexDigit? a) * 16 + (← hexDigit? b)) * 16) + (← hexDigit? c)) * 16 + (← hexDigit? d)

/-- The character that a letter stands for behind a backslash. -/
def escape? : Char → Option Char
  | '"' => some '"'
  | '\\' => some '\\'
  | '/' => some '/'
  | 'b' => some '\x08'
  | 'f' => some '\x0c'
  | 'n' => some '\n'
  | 'r' => some '\r'
  | 't' => some '\t'
  | _ => none

/-- The rest of a string up to its closing quote. -/
def stringRest : List Char → Option (List StringPart × List Char)
  | [] => none
  | '"' :: cs => some ([], cs)
  | '\\' :: 'u' :: a :: b :: c :: d :: cs =>
      match codeUnit? a b c d, stringRest cs with
      | some n, some (parts, rest) => some (.unit n :: parts, rest)
      | _, _ => none
  | '\\' :: e :: cs =>
      match escape? e, stringRest cs with
      | some c, some (parts, rest) => some (.char c :: parts, rest)
      | _, _ => none
  | c :: cs =>
      if c.toNat < 0x20 || c == '\\' then none
      else (stringRest cs).map fun (parts, rest) => (.char c :: parts, rest)

/-- The digits in front, and what follows them. -/
def digitRun (cs : List Char) : List Char × List Char :=
  cs.span Char.isDigit

/-- One or more digits in front, and what follows them. -/
def someDigits? (cs : List Char) : Option (List Char × List Char) :=
  match digitRun cs with
  | ([], _) => none
  | run => some run

/-- The whole part: a single zero, or digits that do not start with one. -/
def whole? : List Char → Option (List Char × List Char)
  | '0' :: cs => some (['0'], cs)
  | cs => someDigits? cs

/-- The digits behind a point, none where there is no point. -/
def fraction? : List Char → Option (List Char × List Char)
  | '.' :: cs => someDigits? cs
  | cs => some ([], cs)

/-- The exponent behind its letter, if there is one. -/
def exponent? (cs : List Char) : Option (Option (Bool × List Char) × List Char) :=
  let digits (negative : Bool) (cs : List Char) :=
    (someDigits? cs).map fun (ds, rest) => (some (negative, ds), rest)
  let signed : List Char → Option (Option (Bool × List Char) × List Char)
    | '+' :: cs => digits false cs
    | '-' :: cs => digits true cs
    | cs => digits false cs
  match cs with
  | 'e' :: cs => signed cs
  | 'E' :: cs => signed cs
  | cs => some (none, cs)

/-- A number in front, and what follows it. -/
def number? (cs : List Char) : Option (Digits × List Char) := do
  let (negative, cs) := match cs with
    | '-' :: cs => (true, cs)
    | cs => (false, cs)
  let (whole, cs) ← whole? cs
  let (fraction, cs) ← fraction? cs
  let (exponent, cs) ← exponent? cs
  return (⟨negative, whole, fraction, exponent⟩, cs)

/-! ## Values -/

mutual

/-- A value behind optional blanks, and what follows it. The fuel bounds the nested calls. -/
def value? : Nat → List Char → Option (Tree × List Char)
  | 0, _ => none
  | fuel + 1, cs =>
      match skipSpace cs with
      | 'n' :: 'u' :: 'l' :: 'l' :: cs => some (.null, cs)
      | 't' :: 'r' :: 'u' :: 'e' :: cs => some (.bool true, cs)
      | 'f' :: 'a' :: 'l' :: 's' :: 'e' :: cs => some (.bool false, cs)
      | '"' :: cs => (stringRest cs).map fun (parts, rest) => (.string parts, rest)
      | '[' :: cs =>
          match skipSpace cs with
          | ']' :: cs => some (.array [], cs)
          | cs => (items? fuel cs).map fun (items, rest) => (.array items, rest)
      | '\x7b' :: cs =>
          match skipSpace cs with
          | '\x7d' :: cs => some (.object [], cs)
          | cs => (members? fuel cs).map fun (members, rest) => (.object members, rest)
      | cs => (number? cs).map fun (digits, rest) => (.number digits, rest)

/-- One or more items up to the closing bracket. -/
def items? : Nat → List Char → Option (List Tree × List Char)
  | 0, _ => none
  | fuel + 1, cs =>
      match value? fuel cs with
      | none => none
      | some (v, cs) =>
          match skipSpace cs with
          | ']' :: cs => some ([v], cs)
          | ',' :: cs => (items? fuel cs).map fun (vs, rest) => (v :: vs, rest)
          | _ => none

/-- One or more members up to the closing brace. -/
def members? : Nat → List Char → Option (List (List StringPart × Tree) × List Char)
  | 0, _ => none
  | fuel + 1, cs =>
      match skipSpace cs with
      | '"' :: cs =>
          match stringRest cs with
          | none => none
          | some (name, cs) =>
              match skipSpace cs with
              | ':' :: cs =>
                  match value? fuel cs with
                  | none => none
                  | some (v, cs) =>
                      match skipSpace cs with
                      | '\x7d' :: cs => some ([(name, v)], cs)
                      | ',' :: cs =>
                          (members? fuel cs).map fun (ms, rest) => ((name, v) :: ms, rest)
                      | _ => none
              | _ => none
      | _ => none

end

/-- The tree of a whole text: one value, with nothing but blanks around it. -/
def Tree.ofText? (s : String) : Option Tree :=
  let cs := s.toList
  match value? (2 * cs.length + 2) cs with
  | some (tree, rest) => if (skipSpace rest).isEmpty then some tree else none
  | none => none

end TableGateway.Json
