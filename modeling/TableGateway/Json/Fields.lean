import TableGateway.Json.Reader

/-! # Objects with known members

A record is read from an object whose known members occur at most once each; members that are not
known are passed over, whatever they hold.
-/

namespace TableGateway.Json

/-- The known members of an object. There are none where a name cannot be read or a known one is
repeated. -/
def fields? (known : List String) :
    List (List StringPart × Tree) → Option (List (String × Tree))
  | [] => some []
  | (name, value) :: members =>
      match partsString? name, fields? known members with
      | some name, some rest =>
          if name ∈ known then
            if name ∈ Association.names rest then none else some ((name, value) :: rest)
          else some rest
      | _, _ => none

/-- The string that a tree stands for. -/
def Tree.string? : Tree → Option String
  | .string parts => partsString? parts
  | _ => none

/-- The string that a tree stands for, or none where it is null. -/
def Tree.stringOrNull? : Tree → Option (Option String)
  | .null => some none
  | t => t.string?.map some

end TableGateway.Json
