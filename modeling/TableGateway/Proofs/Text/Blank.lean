import Mathlib.Data.List.TakeWhile
import TableGateway.Text.Blank
import TableGateway.Text.Cut

/-! # Blank texts and blank pieces -/

namespace TableGateway.Text

theorem isBlank_of_isDigit {c : Char} (h : c.isDigit = true) : isBlank c = false := by
  simp only [Char.isDigit, Bool.and_eq_true, decide_eq_true_eq, UInt32.le_iff_toNat_le] at h
  change 48 ≤ c.toNat ∧ c.toNat ≤ 57 at h
  rw [Bool.eq_false_iff]
  intro hblank
  simp only [isBlank, Bool.or_eq_true, Bool.and_eq_true, decide_eq_true_eq, beq_iff_eq] at hblank
  omega

theorem isBlank_of_isAlpha {c : Char} (h : c.isAlpha = true) : isBlank c = false := by
  have hcode : (65 ≤ c.toNat ∧ c.toNat ≤ 90) ∨ (97 ≤ c.toNat ∧ c.toNat ≤ 122) := by
    rcases Bool.or_eq_true_iff.mp h with hupper | hlower
    · exact .inl (of_decide_eq_true hupper)
    · exact .inr ((Bool.and_eq_true_iff.mp hlower).imp of_decide_eq_true of_decide_eq_true)
  rw [Bool.eq_false_iff]
  intro hblank
  simp only [isBlank, Bool.or_eq_true, Bool.and_eq_true, decide_eq_true_eq, beq_iff_eq] at hblank
  omega

/-! ## Trimming -/

/-- What is left in front of the last blanks begins with the character that ended the first ones,
so that nothing is left only where there was no such character. -/
theorem trimmed_eq_nil_iff {cs : List Char} :
    trimmed cs = [] ↔ ∀ c ∈ cs, isBlank c = true := by
  rw [trimmed, List.reverse_eq_nil_iff, List.dropWhile_eq_nil_iff]
  simp only [List.mem_reverse]
  constructor
  · intro h
    rw [← List.dropWhile_eq_nil_iff]
    by_contra hne
    have hhead := List.head_dropWhile_not isBlank hne
    rw [h _ (List.head_mem hne)] at hhead
    cases hhead
  · intro h c hc
    exact h c ((List.dropWhile_sublist isBlank).subset hc)

theorem toList_trim_eq_nil_iff {s : String} : (trim s).toList = [] ↔ isBlankText s = true := by
  rw [trim, String.toList_ofList, trimmed_eq_nil_iff, isBlankText, List.all_eq_true]

/-- Trimming takes away nothing but blanks. -/
theorem mem_trimmed_or_isBlank {cs : List Char} {c : Char} (hc : c ∈ cs) :
    c ∈ trimmed cs ∨ isBlank c = true := by
  rw [← List.takeWhile_append_dropWhile (p := isBlank) (l := cs), List.mem_append] at hc
  rcases hc with hc | hc
  · exact .inr (List.all_eq_true.mp List.all_takeWhile c hc)
  · rw [trimmed, List.mem_reverse]
    generalize cs.dropWhile isBlank = ds at hc ⊢
    rw [← List.mem_reverse, ← List.takeWhile_append_dropWhile (p := isBlank) (l := ds.reverse),
      List.mem_append] at hc
    rcases hc with hc | hc
    · exact .inr (List.all_eq_true.mp List.all_takeWhile c hc)
    · exact .inl hc

theorem trimmed_of_forall_not_isBlank {cs : List Char} (h : ∀ c ∈ cs, isBlank c = false) :
    trimmed cs = cs := by
  have hfree : ∀ ds : List Char, (∀ c ∈ ds, isBlank c = false) → ds.dropWhile isBlank = ds := by
    intro ds hds
    cases ds with
    | nil => rfl
    | cons c ds => rw [List.dropWhile_cons, if_neg (by simp [hds c])]
  rw [trimmed, hfree cs h, hfree cs.reverse (by simpa using h), List.reverse_reverse]

theorem trim_of_forall_not_isBlank {s : String} (h : ∀ c ∈ s.toList, isBlank c = false) :
    trim s = s := by
  rw [trim, trimmed_of_forall_not_isBlank h, String.ofList_toList]

/-- Blanks at either end make no difference. -/
theorem trimmed_append_blanks {front back : List Char} (inner : List Char)
    (hfront : ∀ c ∈ front, isBlank c = true) (hback : ∀ c ∈ back, isBlank c = true) :
    trimmed (front ++ inner ++ back) = trimmed inner := by
  have hend : back.dropWhile isBlank = [] := List.dropWhile_eq_nil_iff.mpr hback
  rw [trimmed, trimmed, List.append_assoc, List.dropWhile_append_of_pos hfront,
    List.dropWhile_append]
  split
  case isTrue hblank => rw [List.isEmpty_iff.mp hblank, hend]
  case isFalse => rw [List.reverse_append, List.dropWhile_append_of_pos (by simpa using hback)]

/-- What is trimmed stood between blanks. -/
theorem exists_trimmed (cs : List Char) : ∃ front back : List Char,
    (∀ c ∈ front, isBlank c = true) ∧ (∀ c ∈ back, isBlank c = true) ∧
      cs = front ++ trimmed cs ++ back := by
  refine ⟨cs.takeWhile isBlank, ((cs.dropWhile isBlank).reverse.takeWhile isBlank).reverse,
    fun c hc => List.all_eq_true.mp List.all_takeWhile c hc, fun c hc => ?_, ?_⟩
  · exact List.all_eq_true.mp List.all_takeWhile c (List.mem_reverse.mp hc)
  · rw [trimmed, List.append_assoc, ← List.reverse_append, List.takeWhile_append_dropWhile,
      List.reverse_reverse, List.takeWhile_append_dropWhile]

theorem dropWhile_isBlank_enclosed {front back : List Char} (inner : List Char)
    (hfront : ∀ c ∈ front, isBlank c = false) (hback : ∀ c ∈ back, isBlank c = false) :
    ∃ rest, rest.Sublist inner ∧
      (front ++ inner ++ back).dropWhile isBlank = front ++ rest ++ back := by
  cases front with
  | cons c front =>
      refine ⟨inner, List.Sublist.refl inner, ?_⟩
      rw [List.cons_append, List.cons_append, List.dropWhile_cons_of_neg (by simp [hfront c])]
  | nil =>
      refine ⟨inner.dropWhile isBlank, List.dropWhile_sublist isBlank, ?_⟩
      simp only [List.nil_append, List.dropWhile_append]
      split
      case isFalse => rfl
      case isTrue hblank =>
        rw [List.isEmpty_iff.mp hblank, List.nil_append]
        cases back with
        | nil => rfl
        | cons c back => exact List.dropWhile_cons_of_neg (by simp [hback c])

/-- What is free of blanks stays where it is at either end. -/
theorem trimmed_enclosed {front back : List Char} (inner : List Char)
    (hfront : ∀ c ∈ front, isBlank c = false) (hback : ∀ c ∈ back, isBlank c = false) :
    ∃ rest, rest.Sublist inner ∧ trimmed (front ++ inner ++ back) = front ++ rest ++ back := by
  obtain ⟨middle, hmiddle, hleft⟩ := dropWhile_isBlank_enclosed inner hfront hback
  have hback' : ∀ c ∈ back.reverse, isBlank c = false := by simpa using hback
  have hfront' : ∀ c ∈ front.reverse, isBlank c = false := by simpa using hfront
  obtain ⟨rest, hrest, hright⟩ := dropWhile_isBlank_enclosed middle.reverse hback' hfront'
  have hsublist : rest.reverse.Sublist middle := by simpa using hrest.reverse
  refine ⟨rest.reverse, hsublist.trans hmiddle, ?_⟩
  rw [trimmed, hleft]
  simp only [List.reverse_append, List.append_assoc] at hright ⊢
  rw [hright]
  simp

/-- A text between two marks that are no blanks is trimmed already. -/
theorem trim_enclosed {opening closing : String} {a b : Char} (hopening : opening.toList = [a])
    (ha : isBlank a = false) (hclosing : closing.toList = [b]) (hb : isBlank b = false)
    (s : String) : trim (opening ++ s ++ closing) = opening ++ s ++ closing := by
  rw [← String.toList_inj, trim, String.toList_ofList]
  simp only [String.toList_append, hopening, hclosing]
  rw [trimmed, List.append_assoc, List.singleton_append, List.dropWhile_cons_of_neg (by simp [ha]),
    List.reverse_cons, List.reverse_append, List.reverse_singleton, List.singleton_append,
    List.cons_append, List.dropWhile_cons_of_neg (by simp [hb])]
  simp

/-! ## Pieces -/

/-- The pieces hold all characters but the separators. -/
theorem forall_mem_splitOn {p : Char → Prop} {separator : Char} {cs : List Char} :
    (∀ piece ∈ cs.splitOn separator, ∀ c ∈ piece, p c) ↔ ∀ c ∈ cs, c ≠ separator → p c := by
  induction cs with
  | nil => simp
  | cons c cs ih =>
      obtain ⟨piece, pieces, hpieces⟩ :=
        List.exists_cons_of_ne_nil (List.splitOn_ne_nil separator cs)
      rw [hpieces] at ih
      simp only [List.forall_mem_cons] at ih
      rw [List.splitOn_cons_eq_if_modifyHead, hpieces]
      split
      case isTrue hc =>
        rw [beq_iff_eq] at hc
        simp [hc, ih]
      case isFalse hc =>
        rw [beq_iff_eq] at hc
        simp [hc, ← ih, and_assoc]

theorem forall_isBlankText_pieces {separator : Char} {s : String} :
    (∀ piece ∈ pieces separator s, isBlankText piece = true) ↔
      ∀ c ∈ s.toList, c ≠ separator → isBlank c = true := by
  simp only [pieces, List.forall_mem_map, isBlankText, String.toList_ofList, List.all_eq_true]
  exact forall_mem_splitOn

end TableGateway.Text
