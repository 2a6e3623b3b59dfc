import TableGateway.Yaml.Token

/-! # The layout of YAML texts

Some tokens have no characters of their own. A block starts where a line stands deeper than those
around it and ends where one stands less deep; and that something is a name shows only at the colon
behind it, which must follow on the same line and not too far away.
-/

namespace TableGateway.Yaml

/-- A place where a name may have started. -/
structure PossibleName where
  /-- How many tokens stand before the place. -/
  place : Nat
  position : Position
  /-- Nothing but a name may stand there. -/
  required : Bool

/-- How far a text has been read. -/
structure Layout where
  rest : List Char
  position : Position
  tokens : List Token
  /-- The places of possible names: one for each open collection, the innermost first, and one for
  the blocks around them. -/
  names : List (Option PossibleName)
  /-- A name may start here. -/
  nameAllowed : Bool
  /-- The columns of the open blocks, the innermost first. -/
  columns : List Nat

namespace Layout

def start (cs : List Char) : Layout := ⟨cs, ⟨0, 0, 0⟩, [], [none], true, []⟩

/-! ## Steps -/

/-- The place is within brackets or braces. -/
def inFlow (l : Layout) : Bool :=
  1 < l.names.length

/-- The least column of what belongs to the innermost block. -/
def least (l : Layout) : Nat :=
  match l.columns with
  | [] => 0
  | column :: _ => column + 1

/-- Goes on to the rest of the text. -/
def moveTo (l : Layout) (rest : List Char) : Layout :=
  let read := l.rest.take (l.rest.length - rest.length)
  { l with rest := rest, position := l.position.after read }

def emit (l : Layout) (t : Token) : Layout :=
  { l with tokens := l.tokens ++ [t] }

/-- A token of the given number of characters. -/
def take (l : Layout) (n : Nat) (t : Token) : Layout :=
  (l.moveTo (l.rest.drop n)).emit t

/-- Puts tokens behind the first `place` ones. -/
def insert (l : Layout) (place : Nat) (ts : List Token) : Layout :=
  { l with tokens := l.tokens.take place ++ ts ++ l.tokens.drop place }

/-! ## Names -/

/-- No name starts at the last possible place. -/
def dropName? (l : Layout) : Option Layout :=
  match l.names with
  | some name :: names => if name.required then none else some { l with names := none :: names }
  | _ => some l

/-- A name may start here, if one is allowed at all. It must where a line of a block starts. -/
def saveName? (l : Layout) : Option Layout :=
  if !l.nameAllowed then some l
  else do
    let l ← l.dropName?
    let required := !l.inFlow && l.columns.head? = some l.position.column
    return { l with names := some ⟨l.tokens.length, l.position, required⟩ :: l.names.drop 1 }

/-- The greatest length of a name, with what follows up to the colon. -/
def maxNameLength : Nat := 1024

/-- The place is on another line or too far away. -/
def PossibleName.isStale (name : PossibleName) (p : Position) : Bool :=
  name.position.line < p.line || name.position.index + maxNameLength < p.index

/-- Leaves out the possible names that are on another line or too far away. -/
def dropStaleNames? (l : Layout) : Option Layout :=
  let isStale (name : Option PossibleName) : Bool :=
    name.any fun name => PossibleName.isStale name l.position
  if l.names.any fun name => isStale name && name.any PossibleName.required then none
  else some { l with names := l.names.map fun name => if isStale name then none else name }

/-! ## Blocks -/

/-- A column starts a block where it is deeper than all open ones. -/
def opensBlock (l : Layout) (column : Nat) : Bool :=
  !l.inFlow && l.least ≤ column

/-- Starts a block here, unless the line belongs to an open one. -/
def openBlock (l : Layout) (t : Token) : Layout :=
  let column := l.position.column
  if l.opensBlock column then { l.emit t with columns := column :: l.columns } else l

/-- Ends the blocks whose columns pass the test. Within brackets and braces no block ends. -/
def closeBlocks (l : Layout) (isClosed : Nat → Bool) : Layout :=
  if l.inFlow then l
  else
    { l with
      tokens := l.tokens ++ (l.columns.takeWhile isClosed).map fun _ => .blockEnd
      columns := l.columns.dropWhile isClosed }

/-! ## Separation -/

/-- Leaves out blanks, line breaks and comments. The flags tell whether the place is within brackets
or braces, whether a name may start, whether the place is at the front of a line, and whether it is
in a comment. No tab may stand where a name of a block may start, and a new line may start one. -/
def separation (inFlow : Bool) : Bool → Bool → Bool → List Char → Bool × List Char
  | allowed, _, _, [] => (allowed, [])
  | allowed, atFront, inComment, c :: cs =>
      if isBreak c then separation inFlow (allowed || !inFlow) true false cs
      else if inComment then separation inFlow allowed false true cs
      else if (atFront && c == byteOrderMark) || c == ' '
          || ((inFlow || !allowed) && c == '\t') then
        separation inFlow allowed false false cs
      else if c == '#' then separation inFlow allowed false true cs
      else (allowed, c :: cs)

def skipSeparation (l : Layout) : Layout :=
  let (allowed, rest) :=
    separation l.inFlow l.nameAllowed (l.position.column == 0) false l.rest
  { l.moveTo rest with nameAllowed := allowed }

/-! ## Tokens -/

/-- A directive. -/
def directive? (l : Layout) : Option Layout := do
  let l ← (l.closeBlocks fun _ => true).dropName?
  let (token, rest) ← Token.directive? (l.rest.drop 1)
  return { (l.moveTo rest).emit token with nameAllowed := false }

/-- The start or the end of a document. -/
def documentMark? (l : Layout) (t : Token) : Option Layout := do
  let l ← (l.closeBlocks fun _ => true).dropName?
  return { l.take 3 t with nameAllowed := false }

def flowStart? (l : Layout) (t : Token) : Option Layout := do
  let l ← l.saveName?
  return { l.take 1 t with names := none :: l.names, nameAllowed := true }

def flowEnd? (l : Layout) (t : Token) : Option Layout := do
  let l ← l.dropName?
  return { l.take 1 t with
    names := if l.inFlow then l.names.drop 1 else l.names
    nameAllowed := false }

def flowEntry? (l : Layout) : Option Layout := do
  let l ← l.dropName?
  return { l.take 1 .flowEntry with nameAllowed := true }

def blockEntry? (l : Layout) : Option Layout := do
  if !l.inFlow && !l.nameAllowed then none
  let l ← (l.openBlock .blockSequenceStart).dropName?
  return { l.take 1 .blockEntry with nameAllowed := true }

/-- A question mark in front of a name. -/
def nameMark? (l : Layout) : Option Layout := do
  if !l.inFlow && !l.nameAllowed then none
  let l ← (l.openBlock .blockMappingStart).dropName?
  return { l.take 1 .name with nameAllowed := !l.inFlow }

/-- A colon in front of a value. What was possibly a name is one, and starts a block if it is deep
enough. -/
def valueMark? (l : Layout) : Option Layout :=
  match l.names with
  | some name :: names =>
      let column := name.position.column
      let opens := l.opensBlock column
      let start := if opens then [.blockMappingStart] else []
      let l := l.insert name.place (start ++ [.name])
      some { l.take 1 .value with
        names := none :: names
        nameAllowed := false
        columns := if opens then column :: l.columns else l.columns }
  | _ =>
      if !l.inFlow && !l.nameAllowed then none
      else
        let l := l.openBlock .blockMappingStart
        some { l.take 1 .value with nameAllowed := !l.inFlow }

/-- A token that may start a name, and behind which no name may start. -/
def nodePart? (l : Layout) (read : List Char → Option (Token × List Char)) : Option Layout := do
  let l ← l.saveName?
  let (token, rest) ← read (l.rest.drop 1)
  return { (l.moveTo rest).emit token with nameAllowed := false }

/-- A literal or folded block, which no name is. -/
def literal? (l : Layout) (style : Style) : Option Layout := do
  let l ← l.dropName?
  let (text, rest) ← Literal.block? (style == .folded) l.least (l.rest.drop 1)
  return { (l.moveTo rest).emit (.scalar style text) with nameAllowed := true }

/-- A plain scalar. Behind it a name may start only where it ends with a line. -/
def plain? (l : Layout) : Option Layout := do
  let l ← l.saveName?
  let (text, broken, rest) ← Yaml.plain? l.least l.inFlow l.rest
  return { (l.moveTo rest).emit (.scalar .plain text) with nameAllowed := broken }

/-- The next token. -/
def token? (l : Layout) : Option Layout :=
  match l.rest with
  | [] => none
  | c :: cs =>
      let atFront := l.position.column == 0
      if atFront && c == '%' then l.directive?
      else if atFront && isMark "---" l.rest then l.documentMark? .documentStart
      else if atFront && isMark "..." l.rest then l.documentMark? .documentEnd
      else if c == '[' then l.flowStart? .flowSequenceStart
      else if c == '\x7b' then l.flowStart? .flowMappingStart
      else if c == ']' then l.flowEnd? .flowSequenceEnd
      else if c == '\x7d' then l.flowEnd? .flowMappingEnd
      else if c == ',' then l.flowEntry?
      else if c == '-' && endsWord cs then l.blockEntry?
      else if c == '?' && (l.inFlow || endsWord cs) then l.nameMark?
      else if c == ':' && (l.inFlow || endsWord cs) then l.valueMark?
      else if c == '*' then l.nodePart? fun cs =>
        (anchorName? cs).map fun (name, rest) => (.alias name, rest)
      else if c == '&' then l.nodePart? fun cs =>
        (anchorName? cs).map fun (name, rest) => (.anchor name, rest)
      else if c == '!' then l.nodePart? fun cs =>
        (tag? l.inFlow cs).map fun (tag, rest) => (.tag tag, rest)
      else if c == '|' && !l.inFlow then l.literal? .literal
      else if c == '>' && !l.inFlow then l.literal? .folded
      else if c == '\'' || c == '"' then l.nodePart? fun cs =>
        (quoted? c cs).map fun (text, rest) => (.scalar .quoted text, rest)
      else if startsPlain l.inFlow l.rest then l.plain?
      else none

/-- The tokens up to the end of the text. The fuel bounds their number. -/
def tokens? : Nat → Layout → Option (List Token)
  | 0, _ => none
  | fuel + 1, l =>
      match l.skipSeparation.dropStaleNames? with
      | none => none
      | some l =>
          let l := l.closeBlocks fun column => l.position.column < column
          if l.rest.isEmpty then
            ((l.closeBlocks fun _ => true).dropName?).map Layout.tokens
          else l.token?.bind (tokens? fuel)

end Layout

/-- The tokens of a text. -/
def Token.ofText? (s : String) : Option (List Token) :=
  if s.toList.all isAllowed then
    Layout.tokens? (s.toList.length + 1) (Layout.start (unifyBreaks s.toList))
  else none

end TableGateway.Yaml
