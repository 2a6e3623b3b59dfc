import TableGateway.Proofs.Query.Parts
import TableGateway.Proofs.Sql.Identifier
import TableGateway.Proofs.Sql.Nesting
import TableGateway.Proofs.Text.Cut

/-! # Parentheses in the list of a read

The list that a read selects nests as the parameter does that it comes from: columns and their
labels have no parentheses, and all other entries are taken over as they stand. -/

namespace TableGateway

open Sql (Fragment SameNesting Neutral isPlain)

/-! ## Blanks -/

namespace Text

theorem isPlain_of_isBlank {c : Char} (h : isBlank c = true) : isPlain c = true :=
  Sql.isPlain_of_class rfl h

theorem sameNesting_dropWhile_isBlank (cs : List Char) :
    SameNesting cs (cs.dropWhile isBlank) := by
  have hblanks : Neutral (cs.takeWhile isBlank) :=
    Sql.neutral_of_isPlain fun c hc =>
      isPlain_of_isBlank (List.all_eq_true.mp List.all_takeWhile c hc)
  have h := SameNesting.append hblanks (.of_eq (rfl : cs.dropWhile isBlank = _))
  rwa [List.takeWhile_append_dropWhile, List.nil_append] at h

theorem sameNesting_trimmed (cs : List Char) : SameNesting cs (trimmed cs) := by
  refine (sameNesting_dropWhile_isBlank cs).trans ?_
  rw [trimmed]
  generalize cs.dropWhile isBlank = ds
  -- The blanks at the back stand in front of the reversed text.
  have hblanks : Neutral (ds.reverse.takeWhile isBlank).reverse :=
    Sql.neutral_of_isPlain fun c hc =>
      isPlain_of_isBlank (List.all_eq_true.mp List.all_takeWhile c (List.mem_reverse.mp hc))
  have h := SameNesting.append (.of_eq (rfl : (ds.reverse.dropWhile isBlank).reverse = _)) hblanks
  rwa [← List.reverse_append, List.takeWhile_append_dropWhile, List.reverse_reverse,
    List.append_nil] at h

theorem sameNesting_trim (s : String) : SameNesting s.toList (trim s).toList := by
  rw [trim, String.toList_ofList]
  exact sameNesting_trimmed s.toList

end Text

namespace Query

/-! ## Entries -/

theorem isPlain_of_isNameChar {c : Char} (h : Sql.Identifier.isNameChar c = true) :
    isPlain c = true :=
  Sql.isPlain_of_class rfl h

theorem neutral_of_isValid {identifier : String} (h : Sql.Identifier.isValid identifier = true) :
    Neutral identifier.toList :=
  Sql.neutral_of_isPlain fun c hc =>
    isPlain_of_isNameChar (Sql.Identifier.isNameChar_of_isValid h c hc)

theorem neutral_name {identifier : String} (h : Sql.Identifier.isValid identifier = true) :
    Neutral (Fragment.name identifier).chars := by
  rw [Fragment.chars, Sql.Identifier.quotedChars_of_isValid h]
  exact Sql.neutral_quoted fun c hc =>
    isPlain_of_isNameChar (Sql.Identifier.isNameChar_of_isValid h c hc)

theorem sameNesting_selectEntry {entry : String} {fragments : List Fragment}
    (h : selectEntry entry = .ok fragments) :
    SameNesting (fragments.flatMap Fragment.chars) entry.toList := by
  have hblanks : ∀ {name}, Sql.Identifier.isValid (Text.trim name) = true → Neutral name.toList :=
    fun hname => (Text.sameNesting_trim _).trans (neutral_of_isValid hname)
  cases (selectEntry_shape h).2 with
  | star hstar =>
      rw [hstar]
      exact .of_eq rfl
  | expression => exact .of_eq (by simp [Fragment.chars])
  | column _ hcolumn =>
      rw [List.flatMap_singleton]
      exact (neutral_name hcolumn).trans (hblanks hcolumn).symm
  | @labelled column label hcut hcolumn hlabel =>
      obtain ⟨⟨front, back⟩, hchars, hp⟩ := Option.map_eq_some_iff.mp hcut
      cases hp
      have hcolon : Neutral [':'] := Sql.neutral_of_all rfl
      have has : Neutral " AS ".toList := Sql.neutral_of_all rfl
      have hentry : Neutral entry.toList := by
        have hparts := Sql.neutral_append (hblanks hcolumn)
          (Sql.neutral_append hcolon (hblanks hlabel))
        rw [(Text.cutChars_eq_some_iff.mp hchars).1]
        simpa using hparts
      have hfragments := Sql.neutral_append (neutral_name hcolumn)
        (Sql.neutral_append has (neutral_name hlabel))
      refine SameNesting.trans (.of_eq ?_) (hfragments.trans hentry.symm)
      simp [Fragment.chars]

/-! ## Lists -/

theorem splitChars_ne_nil (depth : Nat) (cs : List Char) : splitChars depth cs ≠ [] := by
  cases cs with
  | nil => simp [splitChars]
  | cons c cs =>
      rw [splitChars]
      split
      · simp
      · simp only
        split <;> simp

/-- The parts are those of the text, with the commas that split it between them. -/
theorem intercalate_splitChars (depth : Nat) (cs : List Char) :
    [','].intercalate (splitChars depth cs) = cs := by
  induction cs generalizing depth with
  | nil => rfl
  | cons c cs ih =>
      rw [splitChars]
      split
      case isTrue hcomma =>
        rw [List.intercalate_cons_of_ne_nil (splitChars_ne_nil 0 cs), ih, hcomma.1]
        rfl
      case isFalse =>
        simp only
        generalize (if c = '(' then depth + 1 else if c = ')' then depth - 1 else depth) = inner
        have hparts := ih inner
        cases hsplit : splitChars inner cs with
        | nil => exact absurd hsplit (splitChars_ne_nil inner cs)
        | cons part parts =>
            rw [hsplit] at hparts
            rw [← hparts]
            cases parts <;> simp

theorem sameNesting_entries (parts : List (List Char)) :
    SameNesting parts.flatten
      ((((parts.map String.ofList).map Text.trim).filter
        fun entry => !entry.toList.isEmpty).flatMap String.toList) := by
  induction parts with
  | nil => exact .of_eq rfl
  | cons part parts ih =>
      have hpart : SameNesting part (Text.trim (String.ofList part)).toList := by
        simpa using Text.sameNesting_trim (String.ofList part)
      rw [List.flatten_cons, List.map_cons, List.map_cons, List.filter_cons]
      split
      case isTrue => exact hpart.append ih
      case isFalse hblank =>
        have hempty : (Text.trim (String.ofList part)).toList = [] := by simpa using hblank
        rw [hempty] at hpart
        exact hpart.append ih

theorem sameNesting_mapM {entries : List String} {items : List (List Fragment)}
    (h : entries.mapM selectEntry = .ok items) :
    SameNesting (items.map fun item => item.flatMap Fragment.chars).flatten
      (entries.flatMap String.toList) := by
  induction entries generalizing items with
  | nil =>
      cases h
      exact .of_eq rfl
  | cons entry entries ih =>
      simp only [List.mapM_cons, bind_eq_ok, pure_eq_ok] at h
      obtain ⟨item, hitem, rest, hrest, rfl⟩ := h
      exact (sameNesting_selectEntry hitem).append (ih hrest)

theorem flatMap_chars_listed (items : List (List Fragment)) :
    (Fragment.listed items).flatMap Fragment.chars =
      ", ".toList.intercalate (items.map fun item => item.flatMap Fragment.chars) := by
  rw [Fragment.listed]
  induction items with
  | nil => rfl
  | cons item items ih =>
      cases items with
      | nil => simp
      | cons next rest =>
          rw [List.intercalate_cons_cons, List.flatMap_append, List.flatMap_append, ih,
            List.flatMap_singleton]
          simp only [List.map_cons, List.intercalate_cons_cons]
          rfl

theorem sameNesting_selectList {raw : Option String} {columns : List Fragment}
    (h : selectList raw = .ok columns) :
    SameNesting (columns.flatMap Fragment.chars) (raw.getD "").toList := by
  simp only [selectList, bind_eq_ok] at h
  obtain ⟨items, hitems, h⟩ := h
  have hraw : SameNesting (items.map fun item => item.flatMap Fragment.chars).flatten
      (raw.getD "").toList := by
    refine (sameNesting_mapM hitems).trans ((sameNesting_entries _).symm.trans ?_)
    have hcomma : Neutral [','] := Sql.neutral_of_all rfl
    refine (Sql.sameNesting_intercalate hcomma _).symm.trans ?_
    exact .of_eq (intercalate_splitChars 0 (raw.getD "").toList)
  refine SameNesting.trans ?_ hraw
  split at h
  case h_1 =>
    rw [pure_eq_ok] at h
    rw [← h]
    exact Sql.neutral_of_all rfl
  case h_2 =>
    rw [pure_eq_ok] at h
    rw [← h]
    have hcomma : Neutral ", ".toList := Sql.neutral_of_all rfl
    rw [flatMap_chars_listed]
    exact Sql.sameNesting_intercalate hcomma _

end Query

end TableGateway
