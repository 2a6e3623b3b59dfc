/-! # Characters of YAML texts -/

namespace TableGateway.Yaml

/-! ## Classes -/

def isBlank (c : Char) : Bool :=
  c == ' ' || c == '\t'

/-- The line feed, and the separators of lines and of paragraphs. -/
def isBreak (c : Char) : Bool :=
  c == '\n' || c == '\u2028' || c == '\u2029'

/-- The characters of the names of anchors, handles and directives. -/
def isNameChar (c : Char) : Bool :=
  c.isAlphanum || c == '_' || c == '-'

/-- The marks that separate the parts of a collection in brackets or braces. -/
def isFlowMark (c : Char) : Bool :=
  c ∈ [',', '[', ']', '\x7b', '\x7d']

/-- The mark that some texts start with. -/
def byteOrderMark : Char := '\uFEFF'

/-- The characters that a text may hold, escapes apart. -/
def isAllowed (c : Char) : Bool :=
  let n := c.toNat
  c == '\t' || c == '\n' || c == '\r' || (0x20 ≤ n && n ≤ 0x7E) || n == 0x85
    || (0xA0 ≤ n && n ≤ 0xFFFD) || 0x10000 ≤ n

/-! ## Lines -/

/-- The text with a line feed for each of the usual ends of a line. -/
def unifyBreaks : List Char → List Char
  | [] => []
  | '\r' :: '\n' :: cs => '\n' :: unifyBreaks cs
  | c :: cs => (if c == '\r' || c == '\u0085' then '\n' else c) :: unifyBreaks cs

/-- A blank, a line break or the end comes next. -/
def endsWord : List Char → Bool
  | [] => true
  | c :: _ => isBlank c || isBreak c

def skipBlanks (cs : List Char) : List Char :=
  cs.dropWhile isBlank

/-- The next line, where nothing but a comment is left of this one. -/
def nextLine? (cs : List Char) : Option (List Char) :=
  let cs := skipBlanks cs
  let cs := if cs.head? = some '#' then cs.dropWhile fun c => !isBreak c else cs
  match cs with
  | [] => some []
  | c :: cs => if isBreak c then some cs else none

/-- Three characters that start or end a document, if they stand at the front of a line. -/
def isMark (mark : String) (cs : List Char) : Bool :=
  cs.take 3 == mark.toList && endsWord (cs.drop 3)

def isDocumentMark (cs : List Char) : Bool :=
  isMark "---" cs || isMark "..." cs

/-! ## Positions -/

/-- How many characters, lines, and characters of the same line stand before a place. -/
structure Position where
  index : Nat
  line : Nat
  column : Nat

/-- The position behind further characters. -/
def Position.after (p : Position) : List Char → Position
  | [] => p
  | c :: cs =>
      if isBreak c then after ⟨p.index + 1, p.line + 1, 0⟩ cs
      else after ⟨p.index + 1, p.line, p.column + 1⟩ cs

end TableGateway.Yaml
