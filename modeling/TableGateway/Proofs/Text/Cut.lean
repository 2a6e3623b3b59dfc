import Mathlib.Data.List.Basic
import TableGateway.Text.Cut

/-! # Where a text is cut -/

namespace TableGateway.Text

variable {separator : Char} {s t front back : String}

/-! ## Separators -/

theorem cutChars_append {before after : List Char} (h : separator ∉ before) :
    cutChars separator (before ++ separator :: after) = some (before, after) := by
  induction before with
  | nil => simp [cutChars]
  | cons c before ih =>
      rw [List.mem_cons, not_or] at h
      rw [List.cons_append, cutChars, if_neg (Ne.symm h.1), ih h.2]
      rfl

/-- The cut is at the first separator. -/
theorem cutChars_eq_some_iff {cs before after : List Char} :
    cutChars separator cs = some (before, after) ↔
      cs = before ++ separator :: after ∧ separator ∉ before := by
  constructor
  · intro h
    induction cs generalizing before with
    | nil => cases h
    | cons c cs ih =>
        rw [cutChars] at h
        split at h
        case isTrue hc =>
          cases h
          exact ⟨congrArg (· :: _) hc, List.not_mem_nil⟩
        case isFalse hc =>
          obtain ⟨⟨front, back⟩, hcut, hp⟩ := Option.map_eq_some_iff.mp h
          cases hp
          obtain ⟨rfl, hmem⟩ := ih hcut
          refine ⟨rfl, ?_⟩
          rw [List.mem_cons, not_or]
          exact ⟨Ne.symm hc, hmem⟩
  · rintro ⟨rfl, hmem⟩
    exact cutChars_append hmem

theorem cutChars_eq_none_iff {cs : List Char} : cutChars separator cs = none ↔ separator ∉ cs := by
  induction cs with
  | nil => simp [cutChars]
  | cons c cs ih =>
      rw [cutChars]
      split
      case isTrue hc => simp [hc]
      case isFalse hc => rw [Option.map_eq_none_iff, ih, List.mem_cons, not_or, eq_comm,
        and_iff_right hc]

theorem cut_eq_some_iff :
    cut separator s = some (front, back) ↔
      s.toList = front.toList ++ separator :: back.toList ∧ separator ∉ front.toList := by
  rw [cut, Option.map_eq_some_iff]
  constructor
  · rintro ⟨⟨before, after⟩, hcut, hp⟩
    cases hp
    rw [String.toList_ofList, String.toList_ofList]
    exact cutChars_eq_some_iff.mp hcut
  · intro h
    refine ⟨(front.toList, back.toList), cutChars_eq_some_iff.mpr h, ?_⟩
    simp only [String.ofList_toList]

theorem cut_eq_none_iff : cut separator s = none ↔ separator ∉ s.toList := by
  rw [cut, Option.map_eq_none_iff, cutChars_eq_none_iff]

/-! ## Prefixes -/

theorem afterFront?_eq_some_iff : afterFront? front s = some t ↔ s = front ++ t := by
  rw [afterFront?, Option.map_eq_some_iff, ← String.toList_inj, String.toList_append]
  simp only [List.isPrefixOf?_eq_some_iff_append_eq]
  constructor
  · rintro ⟨rest, hrest, rfl⟩
    rw [String.toList_ofList, hrest]
  · intro h
    exact ⟨t.toList, h.symm, String.ofList_toList⟩

theorem withoutFront_append (front back : String) : withoutFront front (front ++ back) = back := by
  rw [withoutFront, afterFront?_eq_some_iff.mpr rfl, Option.getD_some]

/-- Nothing but the prefix is taken off. -/
theorem withoutFront_cases (front s : String) :
    s = withoutFront front s ∨ s = front ++ withoutFront front s := by
  cases hrest : afterFront? front s with
  | none => exact .inl (by rw [withoutFront, hrest, Option.getD_none])
  | some t =>
      refine .inr ?_
      rw [withoutFront, hrest, Option.getD_some]
      exact afterFront?_eq_some_iff.mp hrest

theorem withoutFront_of_not_prefix (h : ∀ t, s ≠ front ++ t) : withoutFront front s = s := by
  have hnone : afterFront? front s = none :=
    Option.eq_none_iff_forall_ne_some.mpr fun t ht => h t (afterFront?_eq_some_iff.mp ht)
  rw [withoutFront, hnone, Option.getD_none]

/-! ## Suffixes -/

theorem beforeBack?_eq_some_iff : beforeBack? back s = some t ↔ s = t ++ back := by
  rw [beforeBack?, Option.map_eq_some_iff, ← String.toList_inj, String.toList_append]
  simp only [List.isSuffixOf?_eq_some_iff_append_eq]
  constructor
  · rintro ⟨rest, hrest, rfl⟩
    rw [String.toList_ofList, hrest]
  · intro h
    exact ⟨t.toList, h.symm, String.ofList_toList⟩

theorem withoutBack_append (front back : String) : withoutBack back (front ++ back) = front := by
  rw [withoutBack, beforeBack?_eq_some_iff.mpr rfl, Option.getD_some]

/-- Nothing but the suffix is taken off. -/
theorem withoutBack_cases (back s : String) :
    s = withoutBack back s ∨ s = withoutBack back s ++ back := by
  cases hrest : beforeBack? back s with
  | none => exact .inl (by rw [withoutBack, hrest, Option.getD_none])
  | some t =>
      refine .inr ?_
      rw [withoutBack, hrest, Option.getD_some]
      exact beforeBack?_eq_some_iff.mp hrest

theorem between?_enclosed (opening closing s : String) :
    between? opening closing (opening ++ s ++ closing) = some s := by
  have hfront : afterFront? opening (opening ++ s ++ closing) = some (s ++ closing) :=
    afterFront?_eq_some_iff.mpr String.append_assoc
  rw [between?, hfront, Option.bind_some, beforeBack?_eq_some_iff]

/-! ## Pieces -/

/-- The pieces of two texts with a separator between them are those of the one and of the other. -/
theorem pieces_append_separator {mark : String} (hmark : mark.toList = [separator])
    (front back : String) :
    pieces separator (front ++ mark ++ back) = pieces separator front ++ pieces separator back := by
  have hsplit : (front.toList ++ separator :: back.toList).splitOn separator =
      front.toList.splitOn separator ++ back.toList.splitOn separator :=
    List.splitOnP_append_cons front.toList back.toList (beq_self_eq_true separator)
  simp only [pieces, String.toList_append, hmark, List.append_assoc, List.singleton_append, hsplit,
    List.map_append]

/-- Texts that are joined are the pieces of the whole again, unless they hold the separator. -/
theorem pieces_joined {mark : String} {items : List String} (hmark : mark.toList = [separator])
    (hne : items ≠ []) (hfree : ∀ item ∈ items, separator ∉ item.toList) :
    pieces separator (joined mark items) = items := by
  have hlists : ∀ cs ∈ items.map String.toList, separator ∉ cs := by simpa using hfree
  rw [pieces, joined, String.toList_intercalate, hmark,
    List.splitOn_intercalate separator hlists (by simpa using hne), List.map_map]
  simp

end TableGateway.Text
