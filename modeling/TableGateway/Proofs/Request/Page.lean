import TableGateway.Proofs.Request.Range
import TableGateway.Proofs.Sql.Fragment

/-! # Pages are read back

The end of a statement says its page, and the content range of a response says which rows of it were
found. Both texts can be read back. -/

namespace TableGateway.Request

variable {rows : Nat}

/-! ## Resolved pages -/

theorem Page.resolve_offset (range limit offset : Option String) (maxRows : Option Nat) :
    (Page.resolve range limit offset maxRows).offset =
      (offset.bind Page.count?).getD ((range.bind Page.ofRange?).getD Page.whole).offset := by
  cases maxRows <;> rfl

theorem Page.resolve_limit (range limit offset : Option String) (maxRows : Option Nat) :
    (Page.resolve range limit offset maxRows).limit =
      let asked := (limit.bind Page.count?).or ((range.bind Page.ofRange?).getD Page.whole).limit
      maxRows.elim asked fun greatest => some (asked.elim greatest (min · greatest)) := by
  cases maxRows with
  | none => rfl
  | some greatest =>
      simp only [Page.resolve.eq_def, Option.elim_some]
      cases (limit.bind Page.count?).or _ <;> rfl

/-! ## Ends of statements -/

/-- The number behind a keyword, and what follows it. -/
def clause? (keyword : String) (cs : List Char) : Option (Nat × List Char) := do
  let rest ← keyword.toList.isPrefixOf? cs
  let n ← Numeral.natural? (rest.takeWhile Char.isDigit)
  return (n, rest.dropWhile Char.isDigit)

/-- The page that the end of a statement asks for: a limit, if there is one, and an offset, which is
zero if there is none. -/
def Page.ofEnd? (s : String) : Option Page :=
  let (limit, rest) := match clause? " LIMIT " s.toList with
    | some (limit, rest) => (some limit, rest)
    | none => (none, s.toList)
  let (offset, rest) := (clause? " OFFSET " rest).getD (0, rest)
  if rest.isEmpty then some ⟨offset, limit⟩ else none

/-- A number ends where no digit follows. -/
theorem clause?_append (keyword : String) (n : Nat) {rest : List Char}
    (hrest : ∀ c, rest.head? = some c → c.isDigit = false) :
    clause? keyword (keyword.toList ++ (Numeral.digits n ++ rest)) = some (n, rest) := by
  have htake : rest.takeWhile Char.isDigit = [] := by
    cases rest with
    | nil => rfl
    | cons c rest => rw [List.takeWhile_cons, if_neg (by simp [hrest c rfl])]
  have hdrop : rest.dropWhile Char.isDigit = rest := by
    cases rest with
    | nil => rfl
    | cons c rest => rw [List.dropWhile_cons, if_neg (by simp [hrest c rfl])]
  have hdigits : ∀ c ∈ Numeral.digits n, c.isDigit = true := Numeral.isDigit_of_mem_digits
  rw [clause?, List.isPrefixOf?_eq_some_iff_append_eq.mpr rfl]
  simp only [Option.bind_eq_bind, Option.bind_some]
  rw [List.takeWhile_append_of_pos hdigits, List.dropWhile_append_of_pos hdigits, htake, hdrop,
    List.append_nil, Numeral.natural?_digits]
  rfl

theorem clause?_offset (n : Nat) :
    clause? " OFFSET " (" OFFSET ".toList ++ Numeral.digits n) = some (n, []) := by
  have hend : ∀ c, ([] : List Char).head? = some c → c.isDigit = false := nofun
  have h := clause?_append " OFFSET " n hend
  rwa [List.append_nil] at h

theorem clause?_limit_offset (n : Nat) :
    clause? " LIMIT " (" OFFSET ".toList ++ Numeral.digits n) = none := rfl

/-- What stands behind the limit at the end of a statement. -/
def offsetChars (page : Page) : List Char :=
  if 0 < page.offset then " OFFSET ".toList ++ Numeral.digits page.offset else []

theorem clause?_offsetChars (page : Page) :
    (clause? " OFFSET " (offsetChars page)).getD (0, offsetChars page) = (page.offset, []) := by
  unfold offsetChars
  split
  case isTrue => rw [clause?_offset, Option.getD_some]
  case isFalse h =>
    have hzero : page.offset = 0 := by omega
    rw [hzero]
    rfl

theorem Page.toList_render_fragments (page : Page) :
    (Sql.render page.fragments).toList =
      (match page.limit with
        | some limit => " LIMIT ".toList ++ (Numeral.digits limit ++ offsetChars page)
        | none => offsetChars page) := by
  obtain ⟨offset, limit⟩ := page
  rw [Sql.toList_render, Page.fragments, offsetChars]
  by_cases h : 0 < offset
  · cases limit <;> simp [Sql.Fragment.chars, h]
  · cases limit <;> simp [Sql.Fragment.chars, h]

/-- The end of a statement says its page, and nothing else. -/
theorem Page.ofEnd?_render (page : Page) : Page.ofEnd? (Sql.render page.fragments) = some page := by
  obtain ⟨offset, limit⟩ := page
  rw [Page.ofEnd?, Page.toList_render_fragments]
  cases limit with
  | none =>
      have hlimit : clause? " LIMIT " (offsetChars ⟨offset, none⟩) = none := by
        unfold offsetChars
        split
        case isTrue => exact clause?_limit_offset _
        case isFalse => rfl
      simp only [hlimit, clause?_offsetChars]
      rfl
  | some limit =>
      have hhead : ∀ c, (offsetChars ⟨offset, some limit⟩).head? = some c → c.isDigit = false := by
        unfold offsetChars
        split
        case isTrue => simp
        case isFalse => nofun
      simp only [clause?_append " LIMIT " limit hhead, clause?_offsetChars]
      rfl

/-! ## Content ranges -/

/-- What a content range reports: the first and the last position, if there is a row, and how many
rows there are in all, if that is known. -/
structure Report where
  span : Option (Nat × Nat)
  total : Option Nat
deriving DecidableEq

/-- A star stands for what is not there. -/
def orStar? {α : Type} (read : List Char → Option α) (cs : List Char) : Option (Option α) :=
  if cs = ['*'] then some none else (read cs).map some

/-- Two numbers around a hyphen. -/
def span? (cs : List Char) : Option (Nat × Nat) := do
  let (first, last) ← Text.cutChars '-' cs
  return (← Numeral.natural? first, ← Numeral.natural? last)

def Report.ofText? (s : String) : Option Report := do
  let (span, total) ← Text.cutChars '/' s.toList
  return ⟨← orStar? span? span, ← orStar? Numeral.natural? total⟩

/-- The number of all rows as a content range says it. -/
def totalText : Option Nat → String
  | none => "*"
  | some total => Numeral.text total

theorem not_mem_digits {c : Char} (hc : c.isDigit = false) (n : Nat) : c ∉ Numeral.digits n := by
  intro hmem
  rw [Numeral.isDigit_of_mem_digits c hmem] at hc
  cases hc

theorem orStar?_of_star_not_mem {α : Type} {read : List Char → Option α} {cs : List Char} {a : α}
    (hstar : '*' ∉ cs) (hread : read cs = some a) : orStar? read cs = some (some a) := by
  have hne : cs ≠ ['*'] := by
    rintro rfl
    exact hstar List.mem_cons_self
  rw [orStar?, if_neg hne, hread, Option.map_some]

theorem orStar?_totalText (total : Option Nat) :
    orStar? Numeral.natural? (totalText total).toList = some total := by
  cases total with
  | none => rfl
  | some total =>
      rw [totalText, Numeral.toList_text]
      exact orStar?_of_star_not_mem (not_mem_digits rfl total) (Numeral.natural?_digits total)

theorem span?_digits (first last : Nat) :
    span? (Numeral.digits first ++ '-' :: Numeral.digits last) = some (first, last) := by
  rw [span?, Text.cutChars_append (not_mem_digits rfl first)]
  simp only [Option.bind_eq_bind, Option.bind_some, Numeral.natural?_digits]
  rfl

/-- The text says these positions and this total, and is read back as that. -/
structure Reports (text : String) (first last : Nat) (total : Option Nat) : Prop where
  text_eq : text = Numeral.text first ++ "-" ++ Numeral.text last ++ "/" ++ totalText total
  read_back : Report.ofText? text = some ⟨some (first, last), total⟩

theorem reports_text (first last : Nat) (total : Option Nat) :
    Reports (Numeral.text first ++ "-" ++ Numeral.text last ++ "/" ++ totalText total) first last
      total where
  text_eq := rfl
  read_back := by
    have hfree : ∀ c, c.isDigit = false → c ≠ '-' →
        c ∉ Numeral.digits first ++ '-' :: Numeral.digits last := by
      intro c hc hne
      simp [not_mem_digits hc, hne]
    have hchars :
        (Numeral.text first ++ "-" ++ Numeral.text last ++ "/" ++ totalText total).toList =
          (Numeral.digits first ++ '-' :: Numeral.digits last) ++
            '/' :: (totalText total).toList := by
      simp [Numeral.toList_text]
    rw [Report.ofText?, hchars, Text.cutChars_append (hfree '/' rfl (by decide))]
    simp only [Option.bind_eq_bind, Option.bind_some,
      orStar?_of_star_not_mem (hfree '*' rfl (by decide)) (span?_digits first last),
      orStar?_totalText]
    rfl

/-- The last position of the rows that were found, as far as a word can say it. -/
def lastPosition (page : Page) (rows : Nat) : Nat :=
  min (page.offset + (rows - 1)) (twoTo countBits - 1)

section LastPosition

variable {page : Page}

theorem lastPosition_of_lt (h : page.offset + (rows - 1) < twoTo countBits) :
    lastPosition page rows = page.offset + (rows - 1) :=
  Nat.min_eq_left (by omega)

theorem le_lastPosition (h : page.offset < twoTo countBits) :
    page.offset ≤ lastPosition page rows := by
  have hlast : page.offset ≤ twoTo countBits - 1 := by omega
  exact Nat.le_min.mpr ⟨Nat.le_add_right _ _, hlast⟩

theorem lastPosition_lt (page : Page) (rows : Nat) : lastPosition page rows < twoTo countBits := by
  have hle : lastPosition page rows ≤ twoTo countBits - 1 := Nat.min_le_right _ _
  have hpos : 0 < twoTo countBits := by decide
  omega

end LastPosition

theorem Page.contentRange_zero (page : Page) (total : Option Nat) :
    page.contentRange 0 total = "*/" ++ totalText total := by
  rw [← String.toList_inj, Page.contentRange.eq_def]
  cases total <;> simp [Numeral.toList_text, totalText]

theorem Page.contentRange_reports (page : Page) (hrows : rows ≠ 0) (total : Option Nat) :
    Reports (page.contentRange rows total) page.offset (lastPosition page rows) total := by
  have htext : page.contentRange rows total =
      Numeral.text page.offset ++ "-" ++ Numeral.text (lastPosition page rows) ++ "/"
        ++ totalText total := by
    rw [← String.toList_inj, Page.contentRange.eq_def, if_neg hrows]
    cases total <;> simp [Numeral.toList_text, totalText, lastPosition]
  rw [htext]
  exact reports_text _ _ _

/-- The rows of a closed range are reported within it, and if they are all there, as the range
itself. -/
theorem ClosedRange.contentRange_reports {header : String} {first last : Nat}
    (h : ClosedRange header first last) (hrows : rows ≠ 0) (hle : rows ≤ last - first + 1)
    (total : Option Nat) :
    ∃ page finish, Page.ofRange? header = some page ∧
      Reports (page.contentRange rows total) first finish total ∧ first ≤ finish ∧
      finish ≤ last ∧ (rows = last - first + 1 → finish = last) := by
  have hpage := ofRange?_eq_some_iff.mpr (.closed h)
  obtain ⟨-, -, hlast, hfirst, -⟩ := h
  have hbound := hlast.lt
  have hfinish : lastPosition ⟨first, some (last - first + 1)⟩ rows = first + (rows - 1) :=
    lastPosition_of_lt (by simp only; omega)
  refine ⟨_, first + (rows - 1), hpage, ?_, by omega, by omega, by omega⟩
  rw [← hfinish]
  exact Page.contentRange_reports _ hrows total

end TableGateway.Request
