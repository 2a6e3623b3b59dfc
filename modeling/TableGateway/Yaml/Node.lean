import TableGateway.Yaml.Layout

/-! # Nodes of YAML documents -/

namespace TableGateway.Yaml

/-- What stands in front of a node. -/
structure Properties where
  anchor : Option String
  tag : Option Tag

namespace Properties

def none : Properties := ⟨Option.none, Option.none⟩

def isEmpty (p : Properties) : Bool :=
  p.anchor.isNone && p.tag.isNone

end Properties

/-- A node as it is written. -/
inductive Node where
  | scalar (properties : Properties) (style : Style) (text : String)
  | sequence (properties : Properties) (items : List Node)
  | mapping (properties : Properties) (members : List (Node × Node))
  | alias (anchor : String)

/-- A node of which nothing is written. -/
def Node.void : Node := .scalar .none .plain ""

/-! ## Properties -/

/-- An anchor and a tag in either order, if there are any, and the rest. -/
def properties? (handles : Handles) : List Token → Option (Properties × List Token)
  | .anchor name :: .tag t :: ts => (t.tag? handles).map fun tag => (⟨name, tag⟩, ts)
  | .tag t :: .anchor name :: ts => (t.tag? handles).map fun tag => (⟨name, tag⟩, ts)
  | .anchor name :: ts => some (⟨name, none⟩, ts)
  | .tag t :: ts => (t.tag? handles).map fun tag => (⟨none, tag⟩, ts)
  | ts => some (.none, ts)

/-- The scalar that a token and its properties make. The mark of a tag alone says nothing. -/
def scalarNode (p : Properties) (style : Style) (text : String) : Node :=
  .scalar { p with tag := p.tag.filter fun tag => tag ≠ Tag.ofText "!" } style text

/-! ## Ends -/

/-- No node starts with the token within a block sequence. -/
def endsBlockItem : List Token → Bool
  | .blockEntry :: _ => true
  | .blockEnd :: _ => true
  | _ => false

/-- No node starts with the token within a block mapping. -/
def endsBlockMember : List Token → Bool
  | .name :: _ => true
  | .value :: _ => true
  | .blockEnd :: _ => true
  | _ => false

/-- No node starts with the token within brackets. -/
def endsFlowItem : List Token → Bool
  | .flowEntry :: _ => true
  | .flowSequenceEnd :: _ => true
  | _ => false

/-- No node starts with the token within braces. -/
def endsFlowMember : List Token → Bool
  | .flowEntry :: _ => true
  | .flowMappingEnd :: _ => true
  | _ => false

def startsValue : List Token → Bool
  | .value :: _ => true
  | _ => false

/-! ## Nodes -/

/-- Where a node stands: within brackets or braces, in a block, or in a member of a block mapping,
where the items of a sequence may stand no deeper than the member. -/
inductive Place where
  | flow
  | block
  | member
deriving DecidableEq

mutual

/-- A node, and the rest. Where only properties are written, the node is void. -/
def node? (handles : Handles) : Nat → Place → List Token → Option (Node × List Token)
  | 0, _, _ => none
  | _, _, .alias anchor :: ts => some (.alias anchor, ts)
  | fuel + 1, place, ts =>
      match properties? handles ts with
      | none => none
      | some (p, ts) =>
          match ts, place with
          | .blockEntry :: _, .member =>
              (looseItems? handles fuel ts).map fun (items, rest) => (.sequence p items, rest)
          | .scalar style text :: ts, _ => some (scalarNode p style text, ts)
          | .flowSequenceStart :: ts, _ =>
              (flowItems? handles fuel true ts).map fun (items, rest) => (.sequence p items, rest)
          | .flowMappingStart :: ts, _ =>
              (flowMembers? handles fuel true ts).map fun (members, rest) =>
                (.mapping p members, rest)
          | ts, place =>
              match ts, place != .flow with
              | .blockSequenceStart :: ts, true =>
                  (blockItems? handles fuel ts).map fun (items, rest) => (.sequence p items, rest)
              | .blockMappingStart :: ts, true =>
                  (blockMembers? handles fuel ts).map fun (members, rest) =>
                    (.mapping p members, rest)
              | ts, _ => if p.isEmpty then none else some (.scalar p .plain "", ts)

/-- The items of a block sequence, and what follows its end. -/
def blockItems? (handles : Handles) : Nat → List Token → Option (List Node × List Token)
  | 0, _ => none
  | fuel + 1, .blockEntry :: ts =>
      let item := if endsBlockItem ts then some (.void, ts) else node? handles fuel .block ts
      match item with
      | none => none
      | some (n, ts) =>
          (blockItems? handles fuel ts).map fun (ns, rest) => (n :: ns, rest)
  | _, .blockEnd :: ts => some ([], ts)
  | _, _ => none

/-- The items of a sequence that stands no deeper than the member that it belongs to. -/
def looseItems? (handles : Handles) : Nat → List Token → Option (List Node × List Token)
  | 0, _ => none
  | fuel + 1, .blockEntry :: ts =>
      let item :=
        if endsBlockItem ts || endsBlockMember ts then some (.void, ts)
        else node? handles fuel .block ts
      match item with
      | none => none
      | some (n, ts) =>
          (looseItems? handles fuel ts).map fun (ns, rest) => (n :: ns, rest)
  | _, ts => some ([], ts)

/-- The members of a block mapping, and what follows its end. A member may lack its value. -/
def blockMembers? (handles : Handles) :
    Nat → List Token → Option (List (Node × Node) × List Token)
  | 0, _ => none
  | fuel + 1, .name :: ts =>
      let name := if endsBlockMember ts then some (.void, ts) else node? handles fuel .member ts
      match name with
      | none => none
      | some (name, ts) =>
          let value := match ts with
            | .value :: ts =>
                if endsBlockMember ts then some (.void, ts) else node? handles fuel .member ts
            | ts => some (.void, ts)
          match value with
          | none => none
          | some (value, ts) =>
              (blockMembers? handles fuel ts).map fun (ms, rest) => ((name, value) :: ms, rest)
  | _, .blockEnd :: ts => some ([], ts)
  | _, _ => none

/-- The items in brackets, and what follows them. The flag tells that none comes before. An item
that is a single member makes a mapping; where its name is missing, so is the token that stands in
the place of the name. -/
def flowItems? (handles : Handles) :
    Nat → Bool → List Token → Option (List Node × List Token)
  | 0, _, _ => none
  | _, _, .flowSequenceEnd :: ts => some ([], ts)
  | fuel + 1, isFirst, ts =>
      let next := match isFirst, ts with
        | true, ts => some ts
        | false, .flowEntry :: ts => some ts
        | false, _ => none
      match next with
      | none => none
      | some (.flowSequenceEnd :: ts) => some ([], ts)
      | some (.name :: ts) =>
          let name :=
            if startsValue ts || endsFlowItem ts then some (.void, ts.drop 1)
            else node? handles fuel .flow ts
          match name with
          | none => none
          | some (name, ts) =>
              let value := match ts with
                | .value :: ts =>
                    if endsFlowItem ts then some (.void, ts) else node? handles fuel .flow ts
                | ts => some (.void, ts)
              match value with
              | none => none
              | some (value, ts) =>
                  (flowItems? handles fuel false ts).map fun (ns, rest) =>
                    (.mapping .none [(name, value)] :: ns, rest)
      | some ts =>
          match node? handles fuel .flow ts with
          | none => none
          | some (n, ts) =>
              (flowItems? handles fuel false ts).map fun (ns, rest) => (n :: ns, rest)

/-- The members in braces, and what follows them. A node alone is a name without a value. -/
def flowMembers? (handles : Handles) :
    Nat → Bool → List Token → Option (List (Node × Node) × List Token)
  | 0, _, _ => none
  | _, _, .flowMappingEnd :: ts => some ([], ts)
  | fuel + 1, isFirst, ts =>
      let next := match isFirst, ts with
        | true, ts => some ts
        | false, .flowEntry :: ts => some ts
        | false, _ => none
      match next with
      | none => none
      | some (.flowMappingEnd :: ts) => some ([], ts)
      | some (.name :: ts) =>
          let name :=
            if startsValue ts || endsFlowMember ts then some (.void, ts)
            else node? handles fuel .flow ts
          match name with
          | none => none
          | some (name, ts) =>
              let value := match ts with
                | .value :: ts =>
                    if endsFlowMember ts then some (.void, ts) else node? handles fuel .flow ts
                | ts => some (.void, ts)
              match value with
              | none => none
              | some (value, ts) =>
                  (flowMembers? handles fuel false ts).map fun (ms, rest) =>
                    ((name, value) :: ms, rest)
      | some ts =>
          match node? handles fuel .flow ts with
          | none => none
          | some (n, ts) =>
              (flowMembers? handles fuel false ts).map fun (ms, rest) =>
                ((n, .void) :: ms, rest)

end

/-! ## Documents -/

/-- The handles that are declared in front of a document, each at most once, and the rest. At most
one version is declared, and it is 1.1 or 1.2. -/
def directives? (versioned : Bool) (handles : Handles) :
    List Token → Option (Handles × List Token)
  | .version major minor :: ts =>
      if !versioned && major = 1 && (minor = 1 || minor = 2) then directives? true handles ts
      else none
  | .handle name front :: ts =>
      if (handles.lookup name).isSome then none
      else directives? versioned ((name, front) :: handles) ts
  | ts => some (handles, ts)

/-- A directive comes next. -/
def startsDirective : List Token → Bool
  | .version _ _ :: _ => true
  | .handle _ _ :: _ => true
  | _ => false

/-- The node of a document, and the rest. A mark in front may only be missing where there are no
directives, and behind it the node may be missing. -/
def documentNode? (ts : List Token) : Option (Node × List Token) := do
  let fuel := 4 * ts.length + 4
  let (handles, below) ← directives? false [] ts
  match below with
  | .documentStart :: ts =>
      match ts with
      | [] => return (.void, ts)
      | .documentStart :: _ => return (.void, ts)
      | .documentEnd :: _ => return (.void, ts)
      | ts => if startsDirective ts then return (.void, ts) else node? handles fuel .block ts
  | below => if startsDirective ts then none else node? handles fuel .block below

/-- Nothing is left but marks of the end of a document. -/
def isEnd (ts : List Token) : Bool :=
  ts.all fun t => match t with
    | .documentEnd => true
    | _ => false

/-- The node of the only document of a text. A text without tokens has none. -/
def Node.ofTokens? (ts : List Token) : Option (Option Node) :=
  if ts.isEmpty then some none
  else
    match documentNode? ts with
    | some (n, rest) => if isEnd rest then some (some n) else none
    | none => none

end TableGateway.Yaml
