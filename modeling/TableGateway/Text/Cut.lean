/-! # Cutting a text at separators, prefixes and suffixes -/

namespace TableGateway.Text

/-! ## Separators -/

/-- The pieces between the separators, of which there is always at least one. -/
def pieces (separator : Char) (s : String) : List String :=
  (s.toList.splitOn separator).map String.ofList

/-- The characters before and after the first separator. -/
def cutChars (separator : Char) : List Char → Option (List Char × List Char)
  | [] => none
  | c :: cs =>
      if c = separator then some ([], cs)
      else (cutChars separator cs).map fun (before, after) => (c :: before, after)

/-- The text before and after the first separator. -/
def cut (separator : Char) (s : String) : Option (String × String) :=
  (cutChars separator s.toList).map fun (before, after) =>
    (String.ofList before, String.ofList after)

/-- The pieces written one after the other with the separator between them. -/
def joined (separator : String) (parts : List String) : String :=
  separator.intercalate parts

/-! ## Prefixes and suffixes -/

/-- What follows a prefix. -/
def afterFront? (front s : String) : Option String :=
  (front.toList.isPrefixOf? s.toList).map String.ofList

/-- What precedes a suffix. -/
def beforeBack? (back s : String) : Option String :=
  (back.toList.isSuffixOf? s.toList).map String.ofList

/-- What follows a prefix, or the whole text where the prefix is missing. -/
def withoutFront (front s : String) : String :=
  (afterFront? front s).getD s

/-- What precedes a suffix, or the whole text where the suffix is missing. -/
def withoutBack (back s : String) : String :=
  (beforeBack? back s).getD s

/-- The text between an opening and a closing mark, two marks that may not overlap. -/
def between? (opening closing s : String) : Option String :=
  (afterFront? opening s).bind (beforeBack? closing)

/-! ## Occurrences -/

/-- The needle stands somewhere in the characters. -/
def occursInChars (needle : List Char) : List Char → Bool
  | [] => needle.isEmpty
  | c :: cs => needle.isPrefixOf (c :: cs) || occursInChars needle cs

/-- The needle stands somewhere in the text. -/
def occursIn (needle s : String) : Bool :=
  occursInChars needle.toList s.toList

/-- The text starts with the given one. -/
def startsWith (front s : String) : Bool :=
  front.toList.isPrefixOf s.toList

end TableGateway.Text
