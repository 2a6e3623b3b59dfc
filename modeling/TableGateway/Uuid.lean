/-! # Universally unique identifiers -/

namespace TableGateway

/-- An identifier of 128 bits, as its thirty-two hexadecimal digits. -/
structure Uuid where
  digits : List (Fin 16)
  length_digits : digits.length = 32
deriving DecidableEq

namespace Uuid

/-! ## Reading -/

/-- The value of a hexadecimal digit in either case. -/
def digit? (c : Char) : Option (Fin 16) :=
  if '0' ≤ c ∧ c ≤ '9' then some (Fin.ofNat 16 (c.toNat - '0'.toNat))
  else if 'a' ≤ c ∧ c ≤ 'f' then some (Fin.ofNat 16 (c.toNat - 'a'.toNat + 10))
  else if 'A' ≤ c ∧ c ≤ 'F' then some (Fin.ofNat 16 (c.toNat - 'A'.toNat + 10))
  else none

/-- The identifier of thirty-two digits without marks. -/
def ofDigits? (cs : List Char) : Option Uuid :=
  match cs.mapM digit? with
  | some ds => if h : ds.length = 32 then some ⟨ds, h⟩ else none
  | none => none

/-- The identifier of digits in groups of 8, 4, 4, 4 and 12 with hyphens between them. -/
def ofHyphenated? (cs : List Char) : Option Uuid :=
  match cs.splitOn '-' with
  | [a, b, c, d, e] =>
      if [a, b, c, d, e].map List.length = [8, 4, 4, 4, 12] then ofDigits? (a ++ b ++ c ++ d ++ e)
      else none
  | _ => none

/-- Reads bare digits, the hyphenated form, and the latter in braces or as a uniform resource
name. -/
def parse? (s : String) : Option Uuid :=
  let cs := s.toList
  let braced := ("\x7b".toList.isPrefixOf? cs).bind ("\x7d".toList.isSuffixOf? ·)
  let named := "urn:uuid:".toList.isPrefixOf? cs
  (ofDigits? cs).or <| (ofHyphenated? cs).or <|
    (braced.bind ofHyphenated?).or (named.bind ofHyphenated?)

/-! ## Writing -/

/-- A digit in lower case. -/
def digitChar (d : Fin 16) : Char :=
  Nat.digitChar d.val

/-- The hyphenated form in lower case. -/
def text (u : Uuid) : String :=
  let cs := u.digits.map digitChar
  let part (start length : Nat) := (cs.drop start).take length
  String.ofList
    (part 0 8 ++ '-' :: part 8 4 ++ '-' :: part 12 4 ++ '-' :: part 16 4 ++ '-' :: part 20 12)

end Uuid

end TableGateway
