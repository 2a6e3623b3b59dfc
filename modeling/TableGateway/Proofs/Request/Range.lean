import TableGateway.Proofs.Number.Numeral
import TableGateway.Proofs.Text.Blank
import TableGateway.Proofs.Text.Cut
import TableGateway.Request.Page

/-! # What range headers say

A range header says a first position and perhaps a last one. Every other header says nothing, and so
does one whose rows are too many to be counted in a word. -/

namespace TableGateway.Request

variable {header s front back : String} {first last n : Nat} {page : Page}

/-! ## Counts -/

/-- The text between the blanks is an unsigned numeral whose value fits a word. -/
structure IsCount (s : String) (n : Nat) : Prop where
  unsigned : Numeral.Unsigned (Text.trim s).toList n
  lt : n < twoTo countBits

theorem count?_eq_some_iff : Page.count? s = some n ↔ IsCount s n := by
  rw [Page.count?, Numeral.word?_eq_some_iff]
  constructor
  · rintro ⟨hunsigned, hlt⟩
    exact ⟨hunsigned, hlt⟩
  · rintro ⟨hunsigned, hlt⟩
    exact ⟨hunsigned, hlt⟩

/-- A count is made of blanks, digits and a plus sign, and not of blanks alone. -/
theorem IsCount.chars (h : IsCount s n) : ∀ c ∈ s.toList,
    Text.isBlank c = true ∨ c = '+' ∨ c.isDigit = true := by
  intro c hc
  rcases Text.mem_trimmed_or_isBlank hc with hc | hblank
  · refine .inr (h.unsigned.isDigit_or c ?_)
    rwa [Text.trim, String.toList_ofList]
  · exact .inl hblank

theorem IsCount.ne_empty (h : IsCount s n) : (Text.trim s).toList ≠ [] := by
  intro hempty
  have hunsigned := h.unsigned
  rw [hempty] at hunsigned
  cases hunsigned with
  | plain h => exact h.ne_nil rfl

theorem isCount_text (h : n < twoTo countBits) : IsCount (Numeral.text n) n where
  unsigned := by
    rw [Text.trim_of_forall_not_isBlank, Numeral.toList_text]
    · exact .plain (Numeral.denotes_digits n)
    · rw [Numeral.toList_text]
      exact fun c hc => Text.isBlank_of_isDigit (Numeral.isDigit_of_mem_digits c hc)
  lt := h

/-! ## Headers -/

/-- Between blanks and behind the unit, if it is there, the header stands on both sides of its first
hyphen. -/
structure Halves (header front back : String) : Prop where
  header_eq : ∃ unit ∈ ["", "items="], Text.trim header = unit ++ front ++ "-" ++ back
  first_hyphen : '-' ∉ front.toList

/-- The header says a first position and leaves the last one open. -/
inductive OpenRange (header : String) (first : Nat) : Prop where
  | intro {front back : String} (hhalves : Halves header front back) (hfirst : IsCount front first)
      (hblank : Text.trim back = "")

/-- The header says a first and a last position, and a word can count how many there are. -/
inductive ClosedRange (header : String) (first last : Nat) : Prop where
  | intro {front back : String} (hhalves : Halves header front back) (hfirst : IsCount front first)
      (hlast : IsCount back last) (hle : first ≤ last) (hlt : last - first + 1 < twoTo countBits)

/-- The page that a range header says. -/
inductive RangeHeader (header : String) : Page → Prop where
  | opened {first : Nat} (h : OpenRange header first) : RangeHeader header ⟨first, none⟩
  | closed {first last : Nat} (h : ClosedRange header first last) :
      RangeHeader header ⟨first, some (last - first + 1)⟩

theorem halves_of_cut
    (h : Text.cut '-' (Text.withoutFront "items=" (Text.trim header)) = some (front, back)) :
    Halves header front back := by
  obtain ⟨hbounds, hfirst⟩ := Text.cut_eq_some_iff.mp h
  have hjoin : Text.withoutFront "items=" (Text.trim header) = front ++ "-" ++ back := by
    rw [← String.toList_inj, hbounds]
    simp
  refine ⟨?_, hfirst⟩
  rw [Text.withoutFront] at hjoin
  cases hunit : Text.afterFront? "items=" (Text.trim header) with
  | none =>
      rw [hunit, Option.getD_none] at hjoin
      exact ⟨"", by simp, by rw [hjoin, String.empty_append]⟩
  | some bounds =>
      rw [hunit, Option.getD_some] at hjoin
      refine ⟨"items=", by simp, ?_⟩
      rw [Text.afterFront?_eq_some_iff.mp hunit, hjoin]
      simp only [String.append_assoc]

/-- A header whose front is a count does not start with the unit on its own account. -/
theorem cut_of_halves (h : Halves header front back) (hfirst : IsCount front first) :
    Text.cut '-' (Text.withoutFront "items=" (Text.trim header)) = some (front, back) := by
  obtain ⟨⟨unit, hunit, hheader⟩, hhyphen⟩ := h
  have hbounds : Text.withoutFront "items=" (Text.trim header) = front ++ "-" ++ back := by
    rw [hheader]
    simp only [List.mem_cons, List.not_mem_nil, or_false] at hunit
    rcases hunit with rfl | rfl
    · rw [String.empty_append]
      refine Text.withoutFront_of_not_prefix fun t ht => ?_
      rw [← String.toList_inj] at ht
      cases hfront : front.toList with
      | nil =>
          rw [String.toList_append, String.toList_append, hfront] at ht
          simp at ht
      | cons c cs =>
          have hc : c = 'i' := by
            rw [String.toList_append, String.toList_append, hfront] at ht
            simpa using congrArg List.head? ht
          have hchars := hfirst.chars c (by rw [hfront]; exact List.mem_cons_self)
          rw [hc] at hchars
          revert hchars
          decide
    · rw [String.append_assoc, String.append_assoc, Text.withoutFront_append, String.append_assoc]
  rw [hbounds, Text.cut_eq_some_iff]
  exact ⟨by simp, hhyphen⟩

theorem closed?_eq_some_iff :
    Page.closed? first last = some page ↔
      (first ≤ last ∧ last - first + 1 < twoTo countBits) ∧
        page = ⟨first, some (last - first + 1)⟩ := by
  rw [Page.closed?, Option.ite_none_right_eq_some, Option.some.injEq, eq_comm (a := page)]

theorem ofRange?_eq_some_iff : Page.ofRange? header = some page ↔ RangeHeader header page := by
  have hempty : ∀ s : String, s.toList.isEmpty = true ↔ s = "" := by simp
  simp only [Page.ofRange?, Option.bind_eq_bind, Option.bind_eq_some_iff, Prod.exists]
  constructor
  · rintro ⟨front, back, hcut, first, hfirst, hpage⟩
    have hhalves := halves_of_cut hcut
    rw [count?_eq_some_iff] at hfirst
    split at hpage
    case isTrue hblank =>
      cases hpage
      exact .opened ⟨hhalves, hfirst, (hempty _).mp hblank⟩
    case isFalse =>
      obtain ⟨last, hlast, hpage⟩ := Option.bind_eq_some_iff.mp hpage
      obtain ⟨⟨hle, hlt⟩, rfl⟩ := closed?_eq_some_iff.mp hpage
      exact .closed ⟨hhalves, hfirst, count?_eq_some_iff.mp hlast, hle, hlt⟩
  · rintro (⟨⟨hhalves, hfirst, hblank⟩⟩ | ⟨⟨hhalves, hfirst, hlast, hle, hlt⟩⟩)
    · refine ⟨_, _, cut_of_halves hhalves hfirst, _, count?_eq_some_iff.mpr hfirst, ?_⟩
      rw [if_pos ((hempty _).mpr hblank)]
    · refine ⟨_, _, cut_of_halves hhalves hfirst, _, count?_eq_some_iff.mpr hfirst, ?_⟩
      rw [if_neg (by simpa using hlast.ne_empty)]
      exact Option.bind_eq_some_iff.mpr
        ⟨_, count?_eq_some_iff.mpr hlast, closed?_eq_some_iff.mpr ⟨⟨hle, hlt⟩, rfl⟩⟩

/-! ## Words -/

/-- All numbers of the page fit a word. -/
structure Page.Fits (page : Page) : Prop where
  offset_lt : page.offset < twoTo countBits
  limit_lt : ∀ limit, page.limit = some limit → limit < twoTo countBits

theorem RangeHeader.fits (h : RangeHeader header page) : page.Fits := by
  cases h with
  | opened h =>
      obtain ⟨-, hfirst, -⟩ := h
      exact ⟨hfirst.lt, nofun⟩
  | closed h =>
      obtain ⟨-, hfirst, -, -, hlt⟩ := h
      refine ⟨hfirst.lt, fun limit hlimit => ?_⟩
      cases hlimit
      exact hlt

/-- The difference of two words, unless it is negative. -/
def difference? (a b : UInt64) : Option UInt64 :=
  if b ≤ a then some (a - b) else none

/-- The word behind a word, unless there is none. -/
def next? (a : UInt64) : Option UInt64 :=
  if a < a + 1 then some (a + 1) else none

/-- How many positions there are from the first one to the last one, counted in words. -/
def countWords? (first last : UInt64) : Option UInt64 :=
  (difference? last first).bind next?

theorem toNat_next? (a : UInt64) :
    (next? a).map UInt64.toNat =
      if a.toNat + 1 < twoTo countBits then some (a.toNat + 1) else none := by
  have hsize : twoTo countBits = 2 ^ 64 := by decide
  have ha := a.toNat_lt
  have hsum : (a + 1).toNat = (a.toNat + 1) % 2 ^ 64 := UInt64.toNat_add a 1
  have hnext : a < a + 1 ↔ a.toNat + 1 < twoTo countBits := by
    rw [UInt64.lt_iff_toNat_lt, hsum, hsize]
    omega
  by_cases h : a.toNat + 1 < twoTo countBits
  · rw [next?, if_pos (hnext.mpr h), if_pos h, Option.map_some, hsum, Nat.mod_eq_of_lt (hsize ▸ h)]
  · rw [next?, if_neg (mt hnext.mp h), if_neg h, Option.map_none]

/-- Nothing wraps where a closed range is counted in words. -/
theorem closed?_eq_countWords? (first last : UInt64) :
    Page.closed? first.toNat last.toNat =
      ((countWords? first last).map UInt64.toNat).map fun n => ⟨first.toNat, some n⟩ := by
  rw [Page.closed?, countWords?, difference?]
  by_cases hle : first ≤ last
  · have hsub := UInt64.toNat_sub_of_le last first hle
    rw [if_pos hle, Option.bind_some, toNat_next?, hsub]
    rw [UInt64.le_iff_toNat_le] at hle
    simp [hle]
  · rw [if_neg hle, Option.bind_none, Option.map_none, Option.map_none]
    rw [UInt64.le_iff_toNat_le] at hle
    rw [if_neg fun h => hle h.1]

/-! ## Written ranges -/

theorem closedRange_text {unit : String} (hunit : unit ∈ ["", "items="]) (hle : first ≤ last)
    (hlast : last < twoTo countBits) (hlt : last - first + 1 < twoTo countBits) :
    ClosedRange (unit ++ Numeral.text first ++ "-" ++ Numeral.text last) first last := by
  have hdigits : ∀ n, ∀ c ∈ (Numeral.text n).toList, Text.isBlank c = false := by
    intro n c hc
    rw [Numeral.toList_text] at hc
    exact Text.isBlank_of_isDigit (Numeral.isDigit_of_mem_digits c hc)
  have hmarks : ∀ s ∈ ["", "items=", "-"], ∀ c ∈ s.toList, Text.isBlank c = false := by
    have hall : ∀ s ∈ ["", "items=", "-"], s.toList.all (fun c => !Text.isBlank c) = true := by
      decide
    intro s hs c hc
    simpa using List.all_eq_true.mp (hall s hs) c hc
  have hhyphen : '-' ∉ (Numeral.text first).toList := by
    rw [Numeral.toList_text]
    exact fun h => absurd (Numeral.isDigit_of_mem_digits '-' h) (by decide)
  refine .intro ⟨⟨unit, hunit, Text.trim_of_forall_not_isBlank ?_⟩, hhyphen⟩
    (isCount_text (hle.trans_lt hlast)) (isCount_text hlast) hle hlt
  intro c hc
  simp only [String.toList_append, List.mem_append] at hc
  rcases hc with ((hc | hc) | hc) | hc
  · exact hmarks unit (List.mem_append_left ["-"] hunit) c hc
  · exact hdigits first c hc
  · exact hmarks "-" (by simp) c hc
  · exact hdigits last c hc

/-! ## Accepted headers -/

/-- A header makes a page exactly where it says a range. Nothing wraps while a range is counted, and
every range that a word can count is read back from its positions. -/
theorem ofRange?_exact (header : String) :
    (∀ page, Page.ofRange? header = some page ↔ RangeHeader header page) ∧
      (∀ page, Page.ofRange? header = some page → page.Fits) ∧
      (∀ first last : UInt64, Page.closed? first.toNat last.toNat =
        ((countWords? first last).map UInt64.toNat).map fun n => ⟨first.toNat, some n⟩) ∧
      ∀ unit ∈ ["", "items="], ∀ first last, first ≤ last → last < twoTo countBits →
        last - first + 1 < twoTo countBits →
        Page.ofRange? (unit ++ Numeral.text first ++ "-" ++ Numeral.text last) =
          some ⟨first, some (last - first + 1)⟩ :=
  ⟨fun _ => ofRange?_eq_some_iff, fun _ h => (ofRange?_eq_some_iff.mp h).fits,
    closed?_eq_countWords?, fun _ hunit _ _ hle hlast hlt =>
      ofRange?_eq_some_iff.mpr (.closed (closedRange_text hunit hle hlast hlt))⟩

/-- The widest range that a word can count, and a range that is left open. -/
theorem ofRange?_exact_widest :
    Page.ofRange? ("items=" ++ Numeral.text 1 ++ "-" ++ Numeral.text 18446744073709551615) =
        some ⟨1, some 18446744073709551615⟩ ∧
      RangeHeader " items= +5 - " ⟨5, none⟩ ∧ (⟨5, none⟩ : Page).Fits := by
  have hread : Page.ofRange? " items= +5 - " = some ⟨5, none⟩ := by decide +kernel
  exact ⟨(ofRange?_exact "").2.2.2 "items=" (by decide) 1 18446744073709551615 (by decide)
      (by decide) (by decide), ((ofRange?_exact _).1 _).mp hread, (ofRange?_exact _).2.1 _ hread⟩

/-- One position more is too many. -/
example : Page.ofRange? "0-18446744073709551615" = none := by decide +kernel

end TableGateway.Request
