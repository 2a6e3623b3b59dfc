import TableGateway.Association
import TableGateway.Json.Basic
import TableGateway.Number.Power

/-! # Sources of settings

Settings are read in the same way from documents of different formats. A format says how it writes
the few kinds of things that settings are made of.
-/

namespace TableGateway.Config

/-- How documents of a format are read. -/
structure Source (δ : Type) where
  text? : δ → Option String
  truth? : δ → Option Bool
  natural? : δ → Option Nat
  /-- The document, or nothing where it says that there is nothing. -/
  optional? : δ → Option (Option δ)
  /-- One of several names. -/
  choice? : δ → Option String
  items? : δ → Option (List δ)
  members? : δ → Option (List (String × δ))
  /-- The fields of a section of which all names are known. -/
  record? : List String → δ → Option (List (String × δ))

namespace Source

variable {δ α : Type} (s : Source δ)

/-- An unsigned integer of at most `bits` binary digits. -/
def word? (bits : Nat) (d : δ) : Option Nat :=
  (s.natural? d).filter (· < twoTo bits)

/-- What is read from a document that does not say that there is nothing. -/
def orNothing? (read : δ → Option α) (d : δ) : Option (Option α) := do
  match ← s.optional? d with
  | none => return none
  | some d => return some (← read d)

/-- The items of a sequence. -/
def list? (read : δ → Option α) (d : δ) : Option (List α) := do
  (← s.items? d).mapM read

/-- The members of a mapping under their names. A name that comes again takes its last value. -/
def entries? (read : δ → Option α) (d : δ) : Option (List (String × α)) := do
  (← s.members? d).foldlM (fun entries (name, d) => do
    return Association.put name (← read d) entries) []

/-- The known fields of a section. Others are passed over, and a known one must not be repeated. -/
def fields? (known : List String) (d : δ) : Option (List (String × δ)) := do
  let fields := (← s.record? known d).filter fun (name, _) => name ∈ known
  if (Association.names fields).Nodup then some fields else none

/-- A field of a section, with a default where it is missing. -/
def field? (fields : List (String × δ)) (name : String) (read : δ → Option α) (default : α) :
    Option α :=
  match Association.get? name fields with
  | none => some default
  | some d => read d

/-! ## JSON -/

/-- Settings in JSON. The fields of a section may also be listed in order, and a choice may be the
only name of an object that says nothing about it. -/
def json : Source Json where
  text?
    | .string s => some s
    | _ => none
  truth?
    | .bool b => some b
    | _ => none
  natural?
    | .number n => n.unsigned?
    | _ => none
  optional?
    | .null => some none
    | v => some (some v)
  choice?
    | .string s => some s
    | .object [(name, .null)] => some name
    | _ => none
  items?
    | .array items => some items
    | _ => none
  members?
    | .object members => some members
    | _ => none
  record? known
    | .object members => some members
    | .array items => if items.length ≤ known.length then some (known.zip items) else none
    | _ => none

end Source

end TableGateway.Config
