/-! # Entries as slices

A text is kept in bytes, of which a character takes one to four, and a part of it is a slice between
two of them. Here the entries of a list are cut out one by one, and where a slice cannot be taken
there are no entries at all.
-/

namespace TableGateway

/-- The text between two bytes, the first of them included, unless they are out of order or one of
them stands inside of a character. -/
def Text.slice? (s : String) (start stop : Nat) : Option String :=
  if h : (⟨start⟩ : String.Pos.Raw).IsValid s ∧ (⟨stop⟩ : String.Pos.Raw).IsValid s ∧
      start ≤ stop then
    some (String.extract (s.pos ⟨start⟩ h.1) (s.pos ⟨stop⟩ h.2.1))
  else none

namespace Query

/-- The bytes between which the entries stand. The entry at hand starts at `start`, and the next
character at `byte`. -/
def entryBounds (depth start byte : Nat) : List Char → List (Nat × Nat)
  | [] => [(start, byte)]
  | c :: cs =>
      let next := byte + c.utf8Size
      if c = ',' ∧ depth = 0 then (start, byte) :: entryBounds 0 (byte + 1) next cs
      else
        let depth := if c = '(' then depth + 1 else if c = ')' then depth - 1 else depth
        entryBounds depth start next cs

/-- The entries of a list, which commas outside of parentheses separate. -/
def sliceTopLevel? (raw : String) : Option (List String) :=
  (entryBounds 0 0 0 raw.toList).mapM fun (start, stop) => Text.slice? raw start stop

end Query

end TableGateway
