import TableGateway.Json.Grammar
import TableGateway.Yaml.Text

/-! # Scalars that are plain or stand in quotes

Such a scalar consists of words and of the gaps between them. A gap over several lines is folded:
a single line feed is a space, and of several ones all but the first stay.
-/

namespace TableGateway.Yaml

/-! ## Gaps -/

/-- Blanks, or line breaks with blanks around them. -/
structure Gap where
  /-- The blanks before the first line break. -/
  blanks : List Char
  breaks : List Char
  /-- How many blanks stand behind the last line break. -/
  column : Nat

namespace Gap

def isEmpty (g : Gap) : Bool :=
  g.blanks.isEmpty && g.breaks.isEmpty

/-- What a gap stands for. -/
def text (g : Gap) : List Char :=
  match g.breaks with
  | [] => g.blanks
  | ['\n'] => [' ']
  | '\n' :: more => more
  | breaks => breaks

/-- What follows the gap stands at the front of a line. -/
def endsAtFront (g : Gap) : Bool :=
  !g.breaks.isEmpty && g.column == 0

end Gap

/-- The line breaks in front, how many blanks stand behind the last one, and the rest. No tab may
stand before the column `least`. -/
def breaks? (least column : Nat) : List Char → Option (List Char × Nat × List Char)
  | [] => some ([], column, [])
  | c :: cs =>
      if isBreak c then
        (breaks? least 0 cs).map fun (breaks, column, rest) => (c :: breaks, column, rest)
      else if c == '\t' && column < least then none
      else if isBlank c then breaks? least (column + 1) cs
      else some ([], column, c :: cs)

/-- The gap in front, which may be empty, and the rest. -/
def gap? (least : Nat) (cs : List Char) : Option (Gap × List Char) :=
  let (blanks, rest) := cs.span isBlank
  if rest.head?.any isBreak then
    (breaks? least 0 rest).map fun (breaks, column, rest) => (⟨blanks, breaks, column⟩, rest)
  else some (⟨blanks, [], 0⟩, rest)

/-! ## Plain scalars -/

/-- The characters that no plain scalar starts with. -/
def isIndicator (c : Char) : Bool :=
  isFlowMark c || c ∈ ['#', '&', '*', '!', '|', '>', '\'', '"', '%', '@', Char.ofNat 0x60]

/-- A plain scalar may start here. A dash, a question mark or a colon starts one only in front of
other characters, and the latter two only outside of brackets and braces. -/
def startsPlain (inFlow : Bool) : List Char → Bool
  | [] => false
  | c :: cs =>
      if c == '-' then !endsWord cs
      else if c == '?' || c == ':' then !inFlow && !endsWord cs
      else !isIndicator c && !isBlank c && !isBreak c

/-- A word of a plain scalar, which may be empty, and the rest. A colon ends it where nothing
follows, and within brackets and braces a mark does; the one must not stand in front of the
other. -/
def plainWord? (inFlow : Bool) : List Char → Option (List Char × List Char)
  | [] => some ([], [])
  | c :: cs =>
      if isBlank c || isBreak c then some ([], c :: cs)
      else if inFlow && c == ':' && cs.head?.any (fun c => isFlowMark c || c == '?') then none
      else if (c == ':' && endsWord cs) || (inFlow && isFlowMark c) then some ([], c :: cs)
      else (plainWord? inFlow cs).map fun (word, rest) => (c :: word, rest)

/-- The words of a plain scalar behind a gap, and the rest. The flags tell whether the gap goes over
several lines and whether it ends at the front of a line. The result tells whether a gap over
several lines stands at the end. Outside of brackets and braces no word stands before the column
`least`. -/
def plainWords? (least : Nat) (inFlow : Bool) :
    Nat → List Char → Bool → Bool → List Char → Option (List Char × Bool × List Char)
  | 0, _, _, _, _ => none
  | fuel + 1, gap, broken, atFront, cs =>
      if (atFront && isDocumentMark cs) || cs.head? = some '#' then some ([], broken, cs)
      else
        match plainWord? inFlow cs with
        | none => none
        | some ([], rest) => some ([], broken, rest)
        | some (word, rest) =>
            match gap? least rest with
            | none => none
            | some (g, behind) =>
                let broken := !g.breaks.isEmpty
                if g.isEmpty then some (gap ++ word, false, rest)
                else if broken && !inFlow && g.column < least then
                  some (gap ++ word, true, behind)
                else
                  (plainWords? least inFlow fuel g.text broken g.endsAtFront behind).map
                    fun (more, broken, rest) => (gap ++ word ++ more, broken, rest)

/-- A plain scalar, whether it ends in a gap over several lines, and the rest. -/
def plain? (least : Nat) (inFlow : Bool) (cs : List Char) : Option (String × Bool × List Char) :=
  (plainWords? least inFlow (cs.length + 1) [] false false cs).map
    fun (text, broken, rest) => (String.ofList text, broken, rest)

/-! ## Quotes -/

/-- The character that a letter stands for behind a backslash. -/
def escape? (c : Char) : Option Char :=
  [('0', '\x00'), ('a', '\x07'), ('b', '\x08'), ('t', '\t'), ('n', '\n'), ('v', '\x0b'),
    ('f', '\x0c'), ('r', '\r'), ('e', '\x1b'), (' ', ' '), ('"', '"'), ('/', '/'), ('\\', '\\'),
    ('\t', '\t'), ('N', '\u0085'), ('_', '\u00a0'), ('L', '\u2028'), ('P', '\u2029')].lookup c

/-- The character with the number that the hexadecimal digits say. -/
def ofHexadecimal? (cs : List Char) : Option Char := do
  let ds ← cs.mapM Json.hexDigit?
  let n := ds.foldl (fun n d => n * 16 + d) 0
  if n.isValidChar then some (Char.ofNat n) else none

/-- A word in single quotes, and the rest. A quote is written twice. -/
def singleWord : List Char → List Char × List Char
  | [] => ([], [])
  | '\'' :: '\'' :: cs =>
      let (word, rest) := singleWord cs
      ('\'' :: word, rest)
  | c :: cs =>
      if isBlank c || isBreak c || c == '\'' then ([], c :: cs)
      else
        let (word, rest) := singleWord cs
        (c :: word, rest)

/-- A word in double quotes, whether it ends in an escaped line break, and the rest. -/
def doubleWord? : List Char → Option (List Char × Bool × List Char)
  | [] => some ([], false, [])
  | '\\' :: 'x' :: a :: b :: cs => put (ofHexadecimal? [a, b]) (doubleWord? cs)
  | '\\' :: 'u' :: a :: b :: c :: d :: cs =>
      put (ofHexadecimal? [a, b, c, d]) (doubleWord? cs)
  | '\\' :: 'U' :: a :: b :: c :: d :: e :: f :: g :: h :: cs =>
      put (ofHexadecimal? [a, b, c, d, e, f, g, h]) (doubleWord? cs)
  | '\\' :: e :: cs =>
      if isBreak e then some ([], true, cs) else put (escape? e) (doubleWord? cs)
  | c :: cs =>
      if isBlank c || isBreak c || c == '"' then some ([], false, c :: cs)
      else if c == '\\' then none
      else put (some c) (doubleWord? cs)
where
  put : Option Char → Option (List Char × Bool × List Char) →
      Option (List Char × Bool × List Char)
    | some c, some (word, broken, rest) => some (c :: word, broken, rest)
    | _, _ => none

/-- The words of a scalar in quotes up to the closing one, and the rest. Behind an escaped line
break the blanks do not count, and no further break is folded. -/
def quotedWords? (quote : Char) :
    Nat → Bool → List Char → Option (List Char × List Char)
  | 0, _, _ => none
  | fuel + 1, atFront, cs =>
      if cs.isEmpty || (atFront && isDocumentMark cs) then none
      else
        let found := if quote == '"' then doubleWord? cs else
          let (word, rest) := singleWord cs
          some (word, false, rest)
        match found with
        | none => none
        | some (word, broken, rest) =>
            if rest.head? = some quote then some (word, rest.drop 1)
            else
              let gap : Option (List Char × Bool × List Char) :=
                if broken then
                  (breaks? 0 0 rest).map fun (breaks, column, rest) => (breaks, column == 0, rest)
                else (gap? 0 rest).map fun (g, rest) => (g.text, g.endsAtFront, rest)
              match gap with
              | none => none
              | some (gap, atFront, rest) =>
                  (quotedWords? quote fuel atFront rest).map
                    fun (more, rest) => (word ++ gap ++ more, rest)

/-- A scalar from behind its opening quote, and the rest. -/
def quoted? (quote : Char) (cs : List Char) : Option (String × List Char) :=
  (quotedWords? quote (cs.length + 1) false cs).map
    fun (text, rest) => (String.ofList text, rest)

end TableGateway.Yaml
