import TableGateway.Yaml.Text

/-! # Literal and folded blocks

A literal block keeps its line breaks, and a folded one turns single breaks between lines into
spaces. What becomes of the breaks at the end is said in front.
-/

namespace TableGateway.Yaml.Literal

/-! ## Headers -/

/-- What becomes of the line breaks at the end: none of them, the first one, or all of them stay. -/
inductive Ending where
  | strip
  | clip
  | keep

/-- What is said in front of a block. -/
structure Header where
  ending : Ending
  /-- How deep the lines stand below what is around them. -/
  depth : Option Nat

def ending? : List Char → Option (Ending × List Char)
  | '+' :: cs => some (.keep, cs)
  | '-' :: cs => some (.strip, cs)
  | _ => none

/-- A digit other than zero. -/
def depth? : List Char → Option (Nat × List Char)
  | c :: cs => if '1' ≤ c && c ≤ '9' then some (c.toNat - '0'.toNat, cs) else none
  | [] => none

/-- The header in front, and the rest. Depth and ending come in either order. -/
def header (cs : List Char) : Header × List Char :=
  match ending? cs, depth? cs with
  | some (ending, cs), _ => match depth? cs with
    | some (depth, cs) => (⟨ending, some depth⟩, cs)
    | none => (⟨ending, none⟩, cs)
  | none, some (depth, cs) => match ending? cs with
    | some (ending, cs) => (⟨ending, some depth⟩, cs)
    | none => (⟨.clip, some depth⟩, cs)
  | none, none => (⟨.clip, none⟩, cs)

/-! ## Lines -/

/-- A line: the number of spaces in front, the text behind them, and the line break if there is
one. -/
structure Line where
  indent : Nat
  text : List Char
  ending : List Char

namespace Line

/-- A line of the given characters. -/
def ofChars (cs ending : List Char) : Line where
  indent := (cs.takeWhile (· == ' ')).length
  text := cs.dropWhile (· == ' ')
  ending := ending

/-- The characters behind the first `depth` spaces. -/
def charsFrom (depth : Nat) (l : Line) : List Char :=
  List.replicate (l.indent - depth) ' ' ++ l.text

/-- All characters of a line. -/
def chars (l : Line) : List Char :=
  l.charsFrom 0 ++ l.ending

/-- A tab stands where only spaces may. -/
def startsWithTab (l : Line) : Bool :=
  l.text.head? = some '\t'

end Line

/-- The lines of a text behind the characters that were read of the first one. -/
def lines (before : List Char) : List Char → List Line
  | [] => [.ofChars before.reverse []]
  | c :: cs =>
      if isBreak c then .ofChars before.reverse [c] :: lines [] cs
      else lines (c :: before) cs

/-- The depth at which the first line with a text stands, or a blank one above it. -/
def foundDepth : List Line → Nat
  | [] => 0
  | l :: ls => if l.text.isEmpty then max l.indent (foundDepth ls) else l.indent

/-! ## Blocks -/

/-- The text of a block, the line break at its end, the further breaks, and the lines behind it. -/
structure Body where
  text : List Char
  ending : List Char
  breaks : List Char
  behind : List Line

/-- The lines of a block behind one that ends as given, a flag telling whether that one starts with
a blank, and behind further line breaks. Of a folded block, single breaks between lines that do not
start with a blank are spaces. -/
def body (folded : Bool) (depth : Nat) (ending : List Char) (spaced : Bool) (breaks : List Char) :
    List Line → Body
  | [] => ⟨[], ending, breaks, []⟩
  | l :: ls =>
      if l.text.isEmpty && l.indent ≤ depth then
        body folded depth ending spaced (breaks ++ l.ending) ls
      else if l.indent < depth then ⟨[], ending, breaks, l :: ls⟩
      else
        let cs := l.charsFrom depth
        let startsBlank := cs.head?.any isBlank
        let gap :=
          if folded && ending == ['\n'] && !spaced && !startsBlank then
            if breaks.isEmpty then [' '] else breaks
          else ending ++ breaks
        let rest := body folded depth l.ending startsBlank [] ls
        { rest with text := gap ++ cs ++ rest.text }

/-- A block from behind its first mark, and the rest. What is around the block stands one place
above `least`, or above everything. -/
def block? (folded : Bool) (least : Nat) (cs : List Char) : Option (String × List Char) := do
  let (header, rest) := header cs
  let below := lines [] (← nextLine? rest)
  let depth := match header.depth with
    | some n => least - 1 + n
    | none => max 1 (max least (foundDepth below))
  let body := body folded depth [] false [] below
  let first := below.find? fun l => !l.text.isEmpty
  if body.behind.head?.any Line.startsWithTab then none
  if header.depth.isNone && first.any Line.startsWithTab then none
  let kept := match header.ending with
    | .strip => []
    | .clip => body.ending
    | .keep => body.ending ++ body.breaks
  return (String.ofList (body.text ++ kept), body.behind.flatMap Line.chars)

end TableGateway.Yaml.Literal
