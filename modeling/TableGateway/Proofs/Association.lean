import Mathlib.Data.List.Nodup
import TableGateway.Association

/-! # Associations with distinct names

Where no name comes twice, a look-up finds what stands in the list, and taking a name out or keeping
some of the fields acts on the look-up as it does on the list. -/

namespace TableGateway.Association

variable {α β : Type} {name : String} {value : α} {pairs front : List (String × α)}

/-! ## Look-ups -/

theorem get?_append_of_not_mem (h : name ∉ names front) (value : α)
    (back : List (String × α)) : get? name (front ++ (name, value) :: back) = some value := by
  induction front with
  | nil => simp [get?]
  | cons p front ih =>
      obtain ⟨n, v⟩ := p
      simp only [names, List.map_cons, List.mem_cons, not_or] at h
      rw [List.cons_append, get?, if_neg (Ne.symm h.1)]
      exact ih h.2

theorem get?_map (f : α → β) (name : String) (pairs : List (String × α)) :
    get? name (pairs.map fun p => (p.1, f p.2)) = (get? name pairs).map f := by
  induction pairs with
  | nil => rfl
  | cons p pairs ih =>
      rw [List.map_cons, get?, get?]
      split
      · rfl
      · exact ih

theorem mem_of_get? (h : get? name pairs = some value) : (name, value) ∈ pairs := by
  induction pairs with
  | nil => cases h
  | cons p pairs ih =>
      obtain ⟨n, v⟩ := p
      rw [get?] at h
      split at h
      case isTrue hn =>
        cases h
        simp [hn]
      case isFalse => exact List.mem_cons_of_mem _ (ih h)

theorem get?_of_mem (hnodup : (names pairs).Nodup) (h : (name, value) ∈ pairs) :
    get? name pairs = some value := by
  obtain ⟨front, back, rfl⟩ := List.append_of_mem h
  refine get?_append_of_not_mem ?_ value back
  intro hfront
  rw [names, List.map_append] at hnodup
  exact (List.nodup_append.mp hnodup).2.2 name hfront name (by simp) rfl

theorem get?_eq_some_iff (hnodup : (names pairs).Nodup) :
    get? name pairs = some value ↔ (name, value) ∈ pairs :=
  ⟨mem_of_get?, get?_of_mem hnodup⟩

theorem exists_get?_of_mem_names (hnodup : (names pairs).Nodup) (h : name ∈ names pairs) :
    ∃ value, get? name pairs = some value := by
  obtain ⟨⟨n, value⟩, hmem, rfl⟩ := List.mem_map.mp h
  exact ⟨value, get?_of_mem hnodup hmem⟩

/-! ## Putting -/

theorem nodup_names_put (name : String) (value : α) {pairs : List (String × α)}
    (h : (names pairs).Nodup) : (names (put name value pairs)).Nodup := by
  rw [names_put]
  split
  case isTrue => exact h
  case isFalse hnew =>
    rw [← List.concat_eq_append]
    exact List.Nodup.concat hnew h

/-- A new name goes to the end. -/
theorem put_of_not_mem (h : name ∉ names pairs) (value : α) :
    put name value pairs = pairs ++ [(name, value)] := by
  induction pairs with
  | nil => rfl
  | cons p pairs ih =>
      obtain ⟨n, v⟩ := p
      simp only [names, List.map_cons, List.mem_cons, not_or] at h
      rw [put, if_neg (Ne.symm h.1), ih h.2, List.cons_append]

/-! ## Taking out -/

theorem erase_append_of_not_mem (h : name ∉ names front) (value : α)
    (back : List (String × α)) : erase name (front ++ (name, value) :: back) = front ++ back := by
  induction front with
  | nil => simp [erase]
  | cons p front ih =>
      obtain ⟨n, v⟩ := p
      simp only [names, List.map_cons, List.mem_cons, not_or] at h
      rw [List.cons_append, erase, if_neg (Ne.symm h.1), ih h.2, List.cons_append]

theorem erase_eq_filter (hnodup : (names pairs).Nodup) :
    erase name pairs = pairs.filter fun p => p.1 ≠ name := by
  induction pairs with
  | nil => rfl
  | cons p pairs ih =>
      obtain ⟨n, v⟩ := p
      obtain ⟨hfresh, hnodup⟩ := List.nodup_cons.mp hnodup
      rw [erase]
      split
      case isTrue hn =>
        subst hn
        have hothers : ∀ p ∈ pairs, p.1 ≠ n := by
          rintro p hp rfl
          exact hfresh (List.mem_map.mpr ⟨_, hp, rfl⟩)
        rw [List.filter_cons_of_neg (by simp), List.filter_eq_self.mpr (by simpa using hothers)]
      case isFalse hn => rw [List.filter_cons_of_pos (by simpa using hn), ih hnodup]

/-- What is found for a name is what stands at the first place that has it, and the list without
that place is what is left. -/
theorem findIdx?_cases (name : String) (pairs : List (String × α)) :
    (pairs.findIdx? (fun p => p.1 = name) = none ∧ get? name pairs = none ∧
      erase name pairs = pairs) ∨
    ∃ i, pairs.findIdx? (fun p => p.1 = name) = some i ∧
      pairs[i]?.map Prod.snd = get? name pairs ∧ pairs.eraseIdx i = erase name pairs := by
  induction pairs with
  | nil => exact .inl ⟨rfl, rfl, rfl⟩
  | cons p pairs ih =>
      obtain ⟨n, v⟩ := p
      rw [List.findIdx?_cons, get?, erase]
      by_cases hn : n = name
      · exact .inr ⟨0, by simp [hn]⟩
      · rcases ih with ⟨hnone, hget, herase⟩ | ⟨i, hi, hget, herase⟩
        · exact .inl (by simp [hn, hnone, hget, herase])
        · exact .inr ⟨i + 1, by simp [hn, hi, hget, herase]⟩

/-! ## Keeping -/

theorem nodup_names_filter (keep : String × α → Bool) (hnodup : (names pairs).Nodup) :
    (names (pairs.filter keep)).Nodup :=
  hnodup.sublist ((List.filter_sublist).map Prod.fst)

theorem get?_filter (keep : String × α → Bool) (hnodup : (names pairs).Nodup) :
    get? name (pairs.filter keep) = (get? name pairs).filter fun v => keep (name, v) := by
  ext v
  rw [get?_eq_some_iff (nodup_names_filter keep hnodup), List.mem_filter,
    Option.filter_eq_some_iff, get?_eq_some_iff hnodup]

end TableGateway.Association
