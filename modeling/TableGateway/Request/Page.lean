import TableGateway.Number.Numeral
import TableGateway.Sql.Fragment
import TableGateway.Text.Blank
import TableGateway.Text.Cut

/-! # Pages of a result -/

namespace TableGateway.Request

/-- The number of bits of offsets, limits and counts. -/
def countBits : Nat := 64

/-- The rows of a result from an offset on, at most as many as the limit says. -/
structure Page where
  offset : Nat
  limit : Option Nat
deriving DecidableEq

namespace Page

/-- All rows. -/
def whole : Page := ⟨0, none⟩

/-! ## Reading -/

/-- A count with blanks around it. -/
def count? (s : String) : Option Nat :=
  Numeral.word? countBits (Text.trim s)

/-- The rows from the first position to the last one, both of them included. -/
def closed? (first last : Nat) : Option Page :=
  if first ≤ last ∧ last - first + 1 < twoTo countBits then some ⟨first, some (last - first + 1)⟩
  else none

/-- The page of a range header, such as `items=10-19` or `10-`. -/
def ofRange? (header : String) : Option Page := do
  let bounds := Text.withoutFront "items=" (Text.trim header)
  let (first, last) ← Text.cut '-' bounds
  let first ← count? first
  if (Text.trim last).toList.isEmpty then some ⟨first, none⟩ else closed? first (← count? last)

/-- The page of a request. Parameters come before the range header, and no page exceeds the
greatest number of rows. What cannot be read counts for nothing. -/
def resolve (range limit offset : Option String) (maxRows : Option Nat) : Page :=
  let page := (range.bind ofRange?).getD whole
  let limit := (limit.bind count?).or page.limit
  let offset := ((offset.bind count?).getD page.offset)
  match maxRows with
  | none => ⟨offset, limit⟩
  | some greatest => ⟨offset, some (match limit with
      | none => greatest
      | some limit => min limit greatest)⟩

/-! ## Writing -/

/-- The end of a statement that asks for the page. -/
def fragments (page : Page) : List Sql.Fragment :=
  (match page.limit with
    | some limit => [.fixed " LIMIT ", .number limit]
    | none => [])
  ++ if 0 < page.offset then [.fixed " OFFSET ", .number page.offset] else []

/-- The positions of the rows that were found on the page, and how many rows there are in all. -/
def contentRange (page : Page) (rows : Nat) (total : Option Nat) : String :=
  let total := match total with
    | none => ['*']
    | some total => Numeral.digits total
  let span :=
    if rows = 0 then ['*']
    else
      let last := min (page.offset + (rows - 1)) (twoTo countBits - 1)
      Numeral.digits page.offset ++ '-' :: Numeral.digits last
  String.ofList (span ++ '/' :: total)

end Page

end TableGateway.Request
