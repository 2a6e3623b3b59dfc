/-! # Letter case

Only the letters `A` to `Z` and `a` to `z` have a case here; every other character is left alone.
-/

namespace TableGateway.Text

/-- The text with its letters in lower case. -/
def lower (s : String) : String :=
  String.ofList (s.toList.map Char.toLower)

/-- The text with its letters in upper case. -/
def upper (s : String) : String :=
  String.ofList (s.toList.map Char.toUpper)

/-- The text with one character put in the place of another. -/
def substitute (old new : Char) (s : String) : String :=
  String.ofList (s.toList.map fun c => if c = old then new else c)

end TableGateway.Text
