import TableGateway.Association
import TableGateway.Text.Cut
import TableGateway.Yaml.Node

/-! # Values of YAML documents

Nodes with an anchor are numbered, and an alias refers to a number. What a scalar says beyond its
text depends on its tag and on how it is written.
-/

namespace TableGateway.Yaml

/-- What a document says. The tags of collections say nothing. -/
inductive Value where
  /-- There is no document. -/
  | void
  | scalar (tag : Option Tag) (style : Style) (text : String)
  | sequence (items : List Value)
  | mapping (members : List (Value × Value))
  /-- A value that is referred to by its number. -/
  | numbered (number : Nat) (v : Value)
  | reference (number : Nat)

namespace Value

/-! ## Anchors -/

/-- The numbers of anchors. -/
abbrev Anchors := List (String × Nat)

/-- Numbers a node with an anchor by how many names are known. A name that comes again is known
already, so that the next new name takes the same number as it. -/
def number (anchors : Anchors) (p : Properties) (v : Value) : Value :=
  if p.anchor.isSome then numbered anchors.length v else v

/-- The anchors from inside a node on. -/
def entered (anchors : Anchors) (p : Properties) : Anchors :=
  match p.anchor with
  | none => anchors
  | some name => Association.put name anchors.length anchors

mutual

/-- The value of a node, and the anchors behind it. An alias must follow its anchor. -/
def ofNode? (anchors : Anchors) : Node → Option (Value × Anchors)
  | .scalar p style text =>
      some (number anchors p (scalar p.tag style text), entered anchors p)
  | .sequence p items =>
      (ofNodes? (entered anchors p) items).map fun (vs, known) =>
        (number anchors p (sequence vs), known)
  | .mapping p members =>
      (ofMembers? (entered anchors p) members).map fun (ms, known) =>
        (number anchors p (mapping ms), known)
  | .alias name => (Association.get? name anchors).map fun n => (reference n, anchors)

def ofNodes? (anchors : Anchors) : List Node → Option (List Value × Anchors)
  | [] => some ([], anchors)
  | n :: ns => do
      let (v, anchors) ← ofNode? anchors n
      let (vs, anchors) ← ofNodes? anchors ns
      return (v :: vs, anchors)

def ofMembers? (anchors : Anchors) :
    List (Node × Node) → Option (List (Value × Value) × Anchors)
  | [] => some ([], anchors)
  | (name, n) :: ms => do
      let (name, anchors) ← ofNode? anchors name
      let (v, anchors) ← ofNode? anchors n
      let (ms, anchors) ← ofMembers? anchors ms
      return ((name, v) :: ms, anchors)

end

/-- The value of the only document of a text. -/
def ofText? (s : String) : Option Value := do
  match ← Node.ofTokens? (← Token.ofText? s) with
  | none => return void
  | some n => (ofNode? [] n).map Prod.fst

/-! ## References -/

mutual

/-- The last value that has the number. -/
def find? (n : Nat) : Value → Option Value
  | numbered m v => (find? n v).or (if m = n then some v else none)
  | sequence items => findInItems? n items
  | mapping members => findInMembers? n members
  | _ => none

def findInItems? (n : Nat) : List Value → Option Value
  | [] => none
  | v :: vs => (findInItems? n vs).or (find? n v)

def findInMembers? (n : Nat) : List (Value × Value) → Option Value
  | [] => none
  | (name, v) :: ms => (findInMembers? n ms).or <| (find? n v).or (find? n name)

end

/-- What a part of the document `root` says, without its number, or what it refers to. -/
def resolve? (root : Value) : Value → Option Value
  | numbered _ v => some v
  | reference n => root.find? n
  | v => some v

/-! ## Scalars -/

/-- The words that say that there is nothing. -/
def isNullWord (text : String) : Bool :=
  text ∈ ["null", "Null", "NULL", "~"]

def text? : Value → Option String
  | scalar _ _ text => some text
  | _ => none

/-- The text of a scalar that is read for what it says: a plain one, or a literal block with the
tag of the type. -/
def typedText? (tag : Tag) : Value → Option String
  | scalar _ .plain text => some text
  | scalar (some t) .literal text => if t = tag then some text else none
  | _ => none

/-- Nothing is written. -/
def isVoid : Value → Bool
  | void => true
  | scalar _ .plain text => text.isEmpty
  | _ => false

/-- The value, unless it says that there is nothing. A tag for this must be right. -/
def optional? : Value → Option (Option Value)
  | void => some none
  | scalar none .plain text =>
      some (if text.isEmpty || isNullWord text then none else some (scalar none .plain text))
  | scalar (some tag) .plain text =>
      if tag ≠ nullTag then some (some (scalar (some tag) .plain text))
      else if isNullWord text then some none
      else none
  | v => some (some v)

/-- One of several names: the text of a scalar, or a tag of one's own in front of nothing. -/
def choice? : Value → Option String
  | scalar tag style text =>
      match tag.bind Tag.ownName? with
      | none => some text
      | some name =>
          if style = .plain ∧ (text.isEmpty ∨ isNullWord text) then some name else none
  | _ => none

/-! ## Plain words -/

def truth? (text : String) : Option Bool :=
  if text ∈ ["true", "True", "TRUE"] then some true
  else if text ∈ ["false", "False", "FALSE"] then some false
  else none

/-- A numeral in base ten, or behind its mark in base sixteen, eight or two. -/
def numeral? (text : String) : Option Nat :=
  let digits := Text.withoutFront "+" text
  let based (mark : String) (base : Nat) : Option Nat := do
    let ds ← (← Text.afterFront? mark digits).toList.mapM Json.hexDigit?
    if ds.isEmpty || ds.any (base ≤ ·) then none
    else some (ds.foldl (fun n d => n * base + d) 0)
  let decimal := match digits.toList with
    | '0' :: _ :: _ => none
    | cs => Numeral.natural? cs
  (based "0x" 16).or <| (based "0o" 8).or <| (based "0b" 2).or decimal

end Value

end TableGateway.Yaml
