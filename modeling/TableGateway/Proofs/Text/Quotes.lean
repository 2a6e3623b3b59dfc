import TableGateway.Proofs.Text.Blank
import TableGateway.Proofs.Text.Cut

/-! # Items in quotes

Items may be written in quotes with commas between them. Nothing in the quotes is lost, whatever it
is but a comma: neither blanks, nor further quotes, nor an item that is empty. -/

namespace TableGateway.Text

variable {items : List String}

/-- An item between two quotes. -/
def inQuotes (item : String) : String :=
  "\"" ++ item ++ "\""

/-- Items in quotes with commas between them. -/
def quotedList (items : List String) : String :=
  joined "," (items.map inQuotes)

theorem between?_inQuotes (item : String) : between? "\"" "\"" (inQuotes item) = some item :=
  between?_enclosed _ _ _

theorem trim_inQuotes (item : String) : trim (inQuotes item) = inQuotes item :=
  trim_enclosed rfl (by decide) rfl (by decide) item

theorem comma_not_mem_inQuotes {item : String} (h : ',' ∉ item.toList) :
    ',' ∉ (inQuotes item).toList := by
  simp [inQuotes, h]

theorem pieces_quotedList (hne : items ≠ []) (hfree : ∀ item ∈ items, ',' ∉ item.toList) :
    pieces ',' (quotedList items) = items.map inQuotes := by
  have hquoted : ∀ text ∈ items.map inQuotes, ',' ∉ text.toList := by
    simpa using fun item hitem => comma_not_mem_inQuotes (hfree item hitem)
  exact pieces_joined rfl (by simpa using hne) hquoted

theorem isBlankText_quotedList (hne : items ≠ []) : isBlankText (quotedList items) = false := by
  have hquote : '"' ∈ (quotedList items).toList := by
    cases items with
    | nil => exact absurd rfl hne
    | cons item items =>
        rw [quotedList, joined, String.toList_intercalate, List.map_map, List.map_cons]
        cases items <;> simp [inQuotes, List.intercalate_cons_cons]
  rw [isBlankText, List.all_eq_false]
  exact ⟨'"', hquote, by decide⟩

end TableGateway.Text
