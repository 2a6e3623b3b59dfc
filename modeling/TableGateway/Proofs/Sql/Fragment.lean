import TableGateway.Proofs.Number.Numeral
import TableGateway.Sql.Fragment

/-! # Lists of fragments -/

namespace TableGateway

theorem Numeral.isNameChar_of_mem_digits {n : Nat} :
    ∀ c ∈ Numeral.digits n, Sql.Identifier.isNameChar c = true := by
  intro c hc
  simp [Sql.Identifier.isNameChar, Char.isAlphanum, isDigit_of_mem_digits c hc]

/-- What holds of the separator and within every item holds within the whole list. -/
theorem forall_mem_intercalate {α : Type} {p : α → Prop} {separator : α} (hs : p separator)
    {items : List (List α)} (hi : ∀ item ∈ items, ∀ a ∈ item, p a) :
    ∀ a ∈ [separator].intercalate items, p a := by
  induction items with
  | nil => simp
  | cons item items ih =>
      have hitems : ∀ it ∈ items, ∀ a ∈ it, p a := fun it h => hi it (by simp [h])
      cases items with
      | nil => simpa using hi item (by simp)
      | cons next rest =>
          intro a ha
          rw [List.intercalate_cons_cons] at ha
          simp only [List.mem_append, List.mem_singleton] at ha
          rcases ha with (ha | rfl) | ha
          · exact hi item (by simp) a ha
          · exact hs
          · exact ih hitems a ha

namespace Sql

/-! ## Texts -/

theorem toList_render (fragments : List Fragment) :
    (render fragments).toList = fragments.flatMap Fragment.chars := by
  simp [render]

theorem render_append (front back : List Fragment) :
    render (front ++ back) = render front ++ render back := by
  simp [render, List.flatMap_append]

theorem render_fixed_cons (text : String) (fragments : List Fragment) :
    render (.fixed text :: fragments) = text ++ render fragments := by
  simp [render, Fragment.chars]

theorem render_name_cons (identifier : String) (fragments : List Fragment) :
    render (.name identifier :: fragments) = Identifier.quoted identifier ++ render fragments := by
  simp [render, Fragment.chars, Identifier.quoted]

theorem render_placeholder_cons (index : Nat) (fragments : List Fragment) :
    render (.placeholder index :: fragments) = "$" ++ Numeral.text index ++ render fragments := by
  simp [render, Fragment.chars, Numeral.text, String.append_assoc]

theorem render_nil : render [] = "" := rfl

theorem render_intercalate (separator : String) (items : List (List Fragment)) :
    render ([.fixed separator].intercalate items) = separator.intercalate (items.map render) := by
  induction items with
  | nil => rfl
  | cons item items ih =>
      cases items with
      | nil => simp
      | cons next rest =>
          have hseparator : render [.fixed separator] = separator := by
            simp [render, Fragment.chars]
          rw [List.intercalate_cons_cons, render_append, render_append, ih, hseparator]
          simp only [List.map_cons, String.intercalate_cons_cons]

theorem render_names (identifiers : List String) :
    render (Fragment.names identifiers) =
      ", ".intercalate (identifiers.map Identifier.quoted) := by
  rw [Fragment.names, Fragment.listed, render_intercalate, List.map_map]
  congr 1
  refine List.map_congr_left fun identifier _ => ?_
  rw [Function.comp_apply, render_name_cons, render_nil, String.append_empty]

namespace Fragment

/-! ## Lists with separators -/

/-- A list of fragments is known as such here, so that unification finds the property. -/
theorem forall_mem_intercalate {p : Fragment → Prop} {separator : Fragment} (hs : p separator)
    {items : List (List Fragment)} (hi : ∀ item ∈ items, ∀ f ∈ item, p f) :
    ∀ f ∈ [separator].intercalate items, p f :=
  TableGateway.forall_mem_intercalate hs hi

/-- A function of the fragments that says nothing of the separator is taken item by item. -/
theorem filterMap_intercalate {β : Type} {read : Fragment → Option β} {separator : Fragment}
    (hs : read separator = none) (items : List (List Fragment)) :
    ([separator].intercalate items).filterMap read = items.flatMap fun it => it.filterMap read := by
  induction items with
  | nil => rfl
  | cons item items ih =>
      cases items with
      | nil => simp
      | cons next rest =>
          rw [List.intercalate_cons_cons, List.filterMap_append, ih]
          simp [hs]

/-! ## Placeholders -/

/-- The index of a placeholder. -/
def index? : Fragment → Option Nat
  | placeholder index => some index
  | _ => none

/-- The indices of the placeholders in order. -/
def indices (fragments : List Fragment) : List Nat :=
  fragments.filterMap index?

@[simp] theorem indices_nil : indices [] = [] := rfl

@[simp] theorem indices_append (front back : List Fragment) :
    indices (front ++ back) = indices front ++ indices back :=
  List.filterMap_append

@[simp] theorem indices_fixed_cons (text : String) (fragments : List Fragment) :
    indices (fixed text :: fragments) = indices fragments := rfl

@[simp] theorem indices_name_cons (identifier : String) (fragments : List Fragment) :
    indices (name identifier :: fragments) = indices fragments := rfl

@[simp] theorem indices_number_cons (n : Nat) (fragments : List Fragment) :
    indices (number n :: fragments) = indices fragments := rfl

@[simp] theorem indices_placeholder_cons (index : Nat) (fragments : List Fragment) :
    indices (placeholder index :: fragments) = index :: indices fragments := rfl

theorem indices_intercalate (separator : String) (items : List (List Fragment)) :
    indices ([fixed separator].intercalate items) = items.flatMap indices :=
  filterMap_intercalate rfl items

theorem indices_listed (items : List (List Fragment)) :
    indices (listed items) = items.flatMap indices :=
  indices_intercalate ", " items

@[simp] theorem indices_names (identifiers : List String) : indices (names identifiers) = [] := by
  simp [names, indices_listed, List.flatMap_map]

end Fragment

end Sql

end TableGateway
