/-! # Ordered associations

A list of named values in which a name that is put again keeps its place.
-/

namespace TableGateway.Association

variable {α : Type}

/-- Puts a value under a name: a name that is there keeps its place, a new one goes to the end. -/
def put (name : String) (value : α) : List (String × α) → List (String × α)
  | [] => [(name, value)]
  | (n, v) :: rest =>
      if n = name then (n, value) :: rest else (n, v) :: put name value rest

/-- The first value under a name. -/
def get? (name : String) : List (String × α) → Option α
  | [] => none
  | (n, v) :: rest => if n = name then some v else get? name rest

/-- Leaves out the first value under a name. -/
def erase (name : String) : List (String × α) → List (String × α)
  | [] => []
  | (n, v) :: rest => if n = name then rest else (n, v) :: erase name rest

/-- The names in order. -/
def names (pairs : List (String × α)) : List String :=
  pairs.map Prod.fst

theorem get?_put (name other : String) (value : α) (pairs : List (String × α)) :
    get? other (put name value pairs) = if name = other then some value else get? other pairs := by
  induction pairs with
  | nil => simp [put, get?]
  | cons p rest ih =>
      obtain ⟨n, v⟩ := p
      by_cases hn : n = name <;> by_cases ho : name = other <;> grind [put, get?]

theorem names_put (name : String) (value : α) (pairs : List (String × α)) :
    names (put name value pairs) =
      if name ∈ names pairs then names pairs else names pairs ++ [name] := by
  induction pairs with
  | nil => simp [put, names]
  | cons p rest ih =>
      obtain ⟨n, v⟩ := p
      by_cases hn : n = name
      · simp [put, names, hn]
      · have hne : name ≠ n := fun h => hn h.symm
        simp only [names] at ih
        by_cases hm : name ∈ rest.map Prod.fst <;> simp [put, names, hn, hne, ih, hm]

end TableGateway.Association
