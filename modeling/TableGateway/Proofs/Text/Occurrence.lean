import Mathlib.Data.List.Infix
import TableGateway.Text.Blank
import TableGateway.Text.Cut

/-! # What occurs in a text -/

namespace TableGateway.Text

theorem occursInChars_iff {needle cs : List Char} :
    occursInChars needle cs = true ↔ needle <:+: cs := by
  induction cs with
  | nil => rw [occursInChars, List.isEmpty_iff, List.infix_nil]
  | cons c cs ih =>
      rw [occursInChars, Bool.or_eq_true, ih, List.isPrefixOf_iff_prefix, List.infix_cons_iff]

theorem occursIn_iff {needle s : String} :
    occursIn needle s = true ↔ needle.toList <:+: s.toList :=
  occursInChars_iff

theorem trimmed_infix (cs : List Char) : trimmed cs <:+: cs := by
  have hback : trimmed cs <+: cs.dropWhile isBlank := by
    rw [trimmed, ← List.reverse_suffix, List.reverse_reverse]
    exact List.dropWhile_suffix isBlank
  exact hback.isInfix.trans (List.dropWhile_suffix isBlank).isInfix

theorem trim_infix (s : String) : (trim s).toList <:+: s.toList := by
  rw [trim, String.toList_ofList]
  exact trimmed_infix s.toList

theorem startsWith_append {word front back : String}
    (h : startsWith word (front ++ back) = true) (hlength : word.length ≤ front.length) :
    startsWith word front = true := by
  rw [startsWith, List.isPrefixOf_iff_prefix] at h ⊢
  rw [String.toList_append] at h
  exact List.prefix_of_prefix_length_le h (List.prefix_append _ _)
    (by simpa [String.length_toList] using hlength)

end TableGateway.Text
