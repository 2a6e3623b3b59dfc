import TableGateway.Sql.Fragment

/-! # Parentheses in the text of a statement

Parentheses count outside of literals and of quoted identifiers only. -/

namespace TableGateway.Sql

/-! ## Regions -/

/-- Where a character of a statement stands. -/
inductive Region where
  | outside
  | literal
  | identifier
deriving DecidableEq

/-- The region behind a character. A quote that is written twice ends a region and starts it
again. -/
def Region.step (region : Region) (c : Char) : Region :=
  match region with
  | outside => if c = '\'' then literal else if c = '"' then identifier else outside
  | literal => if c = '\'' then outside else literal
  | identifier => if c = '"' then outside else identifier

/-- The characters that stand outside of literals and quoted identifiers. -/
def outsideChars (region : Region) : List Char → List Char
  | [] => []
  | c :: cs =>
      if region = .outside then c :: outsideChars (region.step c) cs
      else outsideChars (region.step c) cs

def openings (region : Region) (cs : List Char) : Nat :=
  (outsideChars region cs).count '('

def closings (region : Region) (cs : List Char) : Nat :=
  (outsideChars region cs).count ')'

theorem openings_cons (region : Region) (c : Char) (cs : List Char) :
    openings region (c :: cs) =
      openings (region.step c) cs + if region = .outside ∧ c = '(' then 1 else 0 := by
  by_cases hregion : region = .outside <;>
    simp [openings, outsideChars, hregion, List.count_cons]

theorem closings_cons (region : Region) (c : Char) (cs : List Char) :
    closings region (c :: cs) =
      closings (region.step c) cs + if region = .outside ∧ c = ')' then 1 else 0 := by
  by_cases hregion : region = .outside <;>
    simp [closings, outsideChars, hregion, List.count_cons]

/-- No part at the front closes more parentheses than it opens, and the whole text closes as many
as it opens. -/
structure Balanced (text : String) : Prop where
  fronts : ∀ front, front <+: text.toList →
    closings .outside front ≤ openings .outside front
  totals : closings .outside text.toList = openings .outside text.toList

/-! ## Scanning -/

/-- The number of open parentheses behind a character, if it does not close one too many. -/
def advance (region : Region) (depth : Nat) (c : Char) : Option Nat :=
  if region ≠ .outside then some depth
  else if c = '(' then some (depth + 1)
  else if c = ')' then (match depth with
    | 0 => none
    | depth + 1 => some depth)
  else some depth

/-- The region and the number of open parentheses behind a text, unless it closes one too many. -/
def scan (region : Region) (depth : Nat) : List Char → Option (Region × Nat)
  | [] => some (region, depth)
  | c :: cs => (advance region depth c).bind fun depth => scan (region.step c) depth cs

theorem scan_append (region : Region) (depth : Nat) (front back : List Char) :
    scan region depth (front ++ back) =
      (scan region depth front).bind fun p => scan p.1 p.2 back := by
  induction front generalizing region depth with
  | nil => rfl
  | cons c front ih =>
      rw [List.cons_append, scan, scan]
      cases advance region depth c with
      | none => rfl
      | some next => exact ih (region.step c) next

theorem advance_eq_some_iff {region : Region} {depth next : Nat} {c : Char} :
    advance region depth c = some next ↔
      next + (if region = .outside ∧ c = ')' then 1 else 0) =
        depth + if region = .outside ∧ c = '(' then 1 else 0 := by
  unfold advance
  by_cases hregion : region = .outside
  · by_cases hopen : c = '('
    · subst hopen
      simp [hregion, eq_comm]
    · by_cases hclose : c = ')'
      · subst hclose
        cases depth <;> simp [hregion, eq_comm]
      · simp [hregion, hopen, hclose, eq_comm]
  · simp [hregion, eq_comm]

/-- A scan goes through where no part at the front closes one too many, and what is open behind it
are the parentheses that were open before and those that the text opens, less those it closes. -/
theorem scan_eq_some_iff {region after : Region} {depth rest : Nat} {cs : List Char} :
    scan region depth cs = some (after, rest) ↔
      cs.foldl Region.step region = after ∧
        (∀ front, front <+: cs → closings region front ≤ depth + openings region front) ∧
        closings region cs + rest = depth + openings region cs := by
  induction cs generalizing region depth with
  | nil =>
      simp [scan, openings, closings, outsideChars, eq_comm]
  | cons c cs ih =>
      rw [scan, Option.bind_eq_some_iff, List.foldl_cons, closings_cons, openings_cons]
      constructor
      · rintro ⟨next, hnext, hscan⟩
        rw [advance_eq_some_iff] at hnext
        obtain ⟨hafter, hfronts, htotals⟩ := ih.mp hscan
        refine ⟨hafter, ?_, by omega⟩
        intro front hfront
        rcases List.prefix_cons_iff.mp hfront with rfl | ⟨short, rfl, hshort⟩
        · exact Nat.zero_le _
        · have := hfronts short hshort
          rw [closings_cons, openings_cons]
          omega
      · rintro ⟨hafter, hfronts, htotals⟩
        -- The front of one character says that there is a parenthesis to close.
        have hfirst := hfronts [c] ⟨cs, rfl⟩
        rw [closings_cons, openings_cons] at hfirst
        simp only [closings, openings, outsideChars, List.count_nil, Nat.zero_add] at hfirst
        refine ⟨_, advance_eq_some_iff.mpr (Nat.sub_add_cancel hfirst), ih.mpr ⟨hafter, ?_, ?_⟩⟩
        · intro front hfront
          have := hfronts (c :: front) (List.cons_prefix_cons.mpr ⟨rfl, hfront⟩)
          rw [closings_cons, openings_cons] at this
          omega
        · omega

theorem balanced_iff {text : String} :
    Balanced text ↔ ∃ region, scan .outside 0 text.toList = some (region, 0) := by
  constructor
  · intro h
    refine ⟨_, scan_eq_some_iff.mpr ⟨rfl, ?_, ?_⟩⟩
    · intro front hfront
      rw [Nat.zero_add]
      exact h.fronts front hfront
    · rw [Nat.zero_add, Nat.add_zero]
      exact h.totals
  · rintro ⟨region, hscan⟩
    obtain ⟨-, hfronts, htotals⟩ := scan_eq_some_iff.mp hscan
    refine ⟨fun front hfront => ?_, ?_⟩
    · have := hfronts front hfront
      rwa [Nat.zero_add] at this
    · rwa [Nat.zero_add, Nat.add_zero] at htotals

/-- The parentheses are balanced, and no literal or quoted identifier is left open. -/
structure Closed (text : String) : Prop where
  balanced : Balanced text
  region : text.toList.foldl Region.step .outside = .outside

theorem closed_iff {text : String} :
    Closed text ↔ scan .outside 0 text.toList = some (.outside, 0) := by
  constructor
  · rintro ⟨hbalanced, hregion⟩
    obtain ⟨region, hscan⟩ := balanced_iff.mp hbalanced
    rw [hscan, ← (scan_eq_some_iff.mp hscan).1, hregion]
  · intro hscan
    exact ⟨balanced_iff.mpr ⟨_, hscan⟩, (scan_eq_some_iff.mp hscan).1⟩

/-! ## Texts that nest alike -/

/-- Two texts behind which, wherever they stand, the same parentheses are open. -/
def SameNesting (cs ds : List Char) : Prop :=
  ∀ region depth, scan region depth cs = scan region depth ds

/-- A text that changes nothing, wherever it stands. -/
def Neutral (cs : List Char) : Prop :=
  SameNesting cs []

namespace SameNesting

variable {cs ds es fs : List Char}

theorem of_eq (h : cs = ds) : SameNesting cs ds :=
  fun _ _ => by rw [h]

theorem symm (h : SameNesting cs ds) : SameNesting ds cs :=
  fun region depth => (h region depth).symm

theorem trans (h : SameNesting cs ds) (hes : SameNesting ds es) : SameNesting cs es :=
  fun region depth => (h region depth).trans (hes region depth)

theorem append (h : SameNesting cs ds) (hes : SameNesting es fs) :
    SameNesting (cs ++ es) (ds ++ fs) := by
  intro region depth
  rw [scan_append, scan_append, h region depth]
  congr 1
  funext p
  exact hes p.1 p.2

theorem balanced_closed_iff {s t : String} (h : SameNesting s.toList t.toList) :
    (Balanced s ↔ Balanced t) ∧ (Closed s ↔ Closed t) := by
  rw [balanced_iff, balanced_iff, closed_iff, closed_iff, h .outside 0]
  exact ⟨Iff.rfl, Iff.rfl⟩

end SameNesting

theorem Neutral.balanced_closed {s : String} (h : Neutral s.toList) : Balanced s ∧ Closed s := by
  have hclosed : Closed s := closed_iff.mpr (h .outside 0)
  exact ⟨hclosed.balanced, hclosed⟩

theorem neutral_append {cs ds : List Char} (hcs : Neutral cs) (hds : Neutral ds) :
    Neutral (cs ++ ds) :=
  SameNesting.append hcs hds

/-- A character that starts or ends no region and is no parenthesis. -/
def isPlain (c : Char) : Bool :=
  c ∉ ['\'', '"', '(', ')']

/-- A class of characters without the four that are not plain. -/
theorem isPlain_of_class {p : Char → Bool} (hp : ['\'', '"', '(', ')'].any p = false) {c : Char}
    (h : p c = true) : isPlain c = true := by
  have hnot : c ∉ ['\'', '"', '(', ')'] := fun hc =>
    List.any_eq_false.mp hp c hc h
  simpa [isPlain] using hnot

theorem scan_cons_of_isPlain {c : Char} (h : isPlain c = true) (region : Region) (depth : Nat)
    (cs : List Char) : scan region depth (c :: cs) = scan region depth cs := by
  simp only [isPlain, List.mem_cons, List.not_mem_nil, or_false, not_or, decide_eq_true_eq] at h
  obtain ⟨hapostrophe, hquote, hopen, hclose⟩ := h
  have hstep : region.step c = region := by
    cases region <;> simp [Region.step, hapostrophe, hquote]
  have hadvance : advance region depth c = some depth := by
    by_cases hregion : region = .outside <;> simp [advance, hregion, hopen, hclose]
  rw [scan, hadvance, hstep]
  rfl

theorem neutral_of_isPlain {cs : List Char} (h : ∀ c ∈ cs, isPlain c = true) : Neutral cs := by
  intro region depth
  induction cs with
  | nil => rfl
  | cons c cs ih =>
      rw [scan_cons_of_isPlain (h c (by simp))]
      exact ih fun d hd => h d (by simp [hd])

theorem neutral_of_all {cs : List Char} (h : cs.all isPlain = true) : Neutral cs :=
  neutral_of_isPlain (List.all_eq_true.mp h)

/-- An identifier between quotes opens and closes its region, or closes and opens it again where
one is open already. -/
theorem neutral_quoted {cs : List Char} (h : ∀ c ∈ cs, isPlain c = true) :
    Neutral ('"' :: cs ++ ['"']) := by
  have hcs := neutral_of_isPlain h
  intro region depth
  have hscan : ∀ r, scan r depth (cs ++ ['"']) = scan r depth ['"'] := by
    intro r
    rw [scan_append, hcs r depth]
    rfl
  cases region <;> exact hscan _

/-- A separator that changes nothing may be left out. -/
theorem sameNesting_intercalate {separator : List Char} (h : Neutral separator)
    (items : List (List Char)) : SameNesting (separator.intercalate items) items.flatten := by
  induction items with
  | nil => exact .of_eq rfl
  | cons item items ih =>
      cases items with
      | nil => exact .of_eq (by simp)
      | cons next rest =>
          rw [List.intercalate_cons_cons, List.flatten_cons]
          have hfront : SameNesting (item ++ separator) (item ++ []) :=
            SameNesting.append (.of_eq rfl) h
          rw [List.append_nil] at hfront
          exact hfront.append ih

/-! ## Groups -/

/-- What stands before the parenthesis that closes one too many, and what stands behind it. -/
def untilClosing (region : Region) (depth : Nat) : List Char → Option (List Char × List Char)
  | [] => none
  | c :: cs =>
      match advance region depth c with
      | none => some ([], cs)
      | some depth =>
          (untilClosing (region.step c) depth cs).map fun (inside, rest) => (c :: inside, rest)

/-- The characters between the first parenthesis that opens and the one that closes it. -/
def groupChars (region : Region) : List Char → Option (List Char)
  | [] => none
  | c :: cs =>
      if region = .outside ∧ c = '(' then (untilClosing .outside 0 cs).map Prod.fst
      else groupChars (region.step c) cs

/-- The text between the first parenthesis that opens and the one that closes it. -/
def group? (text : String) : Option String :=
  (groupChars .outside text.toList).map String.ofList

theorem untilClosing_append_iff {region : Region} {depth : Nat} {cs rest : List Char} :
    (untilClosing region depth (cs ++ ')' :: rest)).map Prod.fst = some cs ↔
      scan region depth cs = some (.outside, 0) := by
  induction cs generalizing region depth with
  | nil =>
      rw [List.nil_append, untilClosing, scan]
      by_cases hregion : region = .outside
      · cases depth <;> simp [advance, hregion]
      · simp [advance, hregion]
  | cons c cs ih =>
      rw [List.cons_append, untilClosing, scan]
      cases advance region depth c with
      | none => simp
      | some next =>
          rw [Option.bind_some, ← ih]
          simp only
          generalize untilClosing (region.step c) next (cs ++ ')' :: rest) = found
          cases found <;> simp

end TableGateway.Sql
