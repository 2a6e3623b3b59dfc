import TableGateway.Json.Reader
import TableGateway.Proofs.Association

/-! # What a JSON text is read as

A string is shorter than the text that it is read from, which has its quotes, too. The names of an
object are distinct. -/

namespace TableGateway.Json

/-! ## Strings -/

theorem length_of_stringRest {cs rest : List Char} {parts : List StringPart}
    (h : stringRest cs = some (parts, rest)) : parts.length + rest.length < cs.length := by
  fun_induction stringRest cs generalizing parts rest with
  | case1 => cases h
  | case2 cs =>
      cases h
      simp
  | case3 _ _ _ _ cs _ _ _ hback _ ih =>
      cases h
      have := ih hback
      simp only [List.length_cons]
      omega
  | case4 => cases h
  | case5 _ cs _ _ _ _ hback _ ih =>
      cases h
      have := ih hback
      simp only [List.length_cons]
      omega
  | case6 => cases h
  | case7 => cases h
  | case8 _ cs _ _ _ _ ih =>
      obtain ⟨⟨back, after⟩, hback, h⟩ := Option.map_eq_some_iff.mp h
      cases h
      have := ih hback
      simp only [List.length_cons]
      omega

theorem length_of_partsChars? {parts : List StringPart} {cs : List Char}
    (h : partsChars? parts = some cs) : cs.length ≤ parts.length := by
  fun_induction partsChars? parts generalizing cs with
  | case1 =>
      cases h
      simp
  | case2 _ _ ih =>
      obtain ⟨rest, hrest, rfl⟩ := Option.map_eq_some_iff.mp h
      exact Nat.succ_le_succ (ih hrest)
  | case3 _ _ _ _ _ ih =>
      obtain ⟨rest, hrest, rfl⟩ := Option.map_eq_some_iff.mp h
      exact Nat.le_succ_of_le (Nat.succ_le_succ (ih hrest))
  | case4 => cases h
  | case5 => cases h
  | case6 => cases h
  | case7 _ _ _ _ ih =>
      obtain ⟨rest, hrest, rfl⟩ := Option.map_eq_some_iff.mp h
      exact Nat.succ_le_succ (ih hrest)

/-- Nothing but an opening quote leads to a string. -/
theorem stringRest_of_value? {fuel : Nat} {cs rest : List Char} {parts : List StringPart}
    (h : value? fuel cs = some (.string parts, rest)) :
    ∃ inner, skipSpace cs = '"' :: inner ∧ stringRest inner = some (parts, rest) := by
  cases fuel with
  | zero =>
      rw [value?] at h
      cases h
  | succ fuel =>
      rw [value?] at h
      split at h
      case h_1 => cases h
      case h_2 => cases h
      case h_3 => cases h
      case h_4 inner hinner =>
        obtain ⟨⟨_, _⟩, hrest, h⟩ := Option.map_eq_some_iff.mp h
        cases h
        exact ⟨inner, hinner, hrest⟩
      case h_5 =>
        split at h
        · cases h
        · obtain ⟨_, -, h⟩ := Option.map_eq_some_iff.mp h
          cases h
      case h_6 =>
        split at h
        · cases h
        · obtain ⟨_, -, h⟩ := Option.map_eq_some_iff.mp h
          cases h
      case h_7 =>
        obtain ⟨_, -, h⟩ := Option.map_eq_some_iff.mp h
        cases h

theorem length_of_ofText? {s : String} {parts : List StringPart}
    (h : Tree.ofText? s = some (.string parts)) : parts.length + 2 ≤ s.length := by
  simp only [Tree.ofText?] at h
  split at h
  case h_1 tree rest hvalue =>
    split at h
    case isTrue =>
      cases h
      obtain ⟨inner, hinner, hrest⟩ := stringRest_of_value? hvalue
      have hinside := length_of_stringRest hrest
      have houtside := (List.dropWhile_suffix isSpace (l := s.toList)).length_le
      rw [← skipSpace, hinner, List.length_cons, String.length_toList] at houtside
      omega
    case isFalse => cases h
  case h_2 => cases h

theorem exists_parts_of_meaning? {t : Tree} {s : String} (h : t.meaning? = some (.string s)) :
    ∃ parts, t = .string parts ∧ partsString? parts = some s := by
  cases t with
  | string parts =>
      obtain ⟨_, hs, h⟩ := Option.map_eq_some_iff.mp h
      cases h
      exact ⟨parts, rfl, hs⟩
  | _ => simp [Tree.meaning?] at h

theorem length_of_parse? {text s : String} (h : parse? text = some (.string s)) :
    s.length + 2 ≤ text.length := by
  obtain ⟨t, ht, hvalue⟩ := Option.bind_eq_some_iff.mp h
  rw [Tree.value?] at hvalue
  split at hvalue
  case isTrue =>
    obtain ⟨parts, rfl, hparts⟩ := exists_parts_of_meaning? hvalue
    obtain ⟨cs, hcs, rfl⟩ := Option.map_eq_some_iff.mp hparts
    have hchars := length_of_partsChars? hcs
    have htext := length_of_ofText? ht
    rw [String.length_ofList]
    omega
  case isFalse => cases hvalue

/-- No text is read as the string that it is itself. -/
theorem parse?_ne_string (text : String) : parse? text ≠ some (.string text) := by
  intro h
  have := length_of_parse? h
  omega

/-! ## Objects -/

theorem nodup_names_of_membersMeaning? {before members : List (String × Json)}
    {trees : List (List StringPart × Tree)} (hbefore : (Association.names before).Nodup)
    (h : membersMeaning? before trees = some members) : (Association.names members).Nodup := by
  induction trees generalizing before with
  | nil =>
      cases h
      exact hbefore
  | cons tree trees ih =>
      rw [membersMeaning?] at h
      split at h
      case h_1 => exact ih (Association.nodup_names_put _ _ hbefore) h
      case h_2 => cases h

theorem nodup_names_of_meaning? {t : Tree} {members : List (String × Json)}
    (h : t.meaning? = some (.object members)) : (Association.names members).Nodup := by
  cases t with
  | object trees =>
      obtain ⟨_, hmembers, h⟩ := Option.map_eq_some_iff.mp h
      cases h
      have hempty : (Association.names ([] : List (String × Json))).Nodup := List.nodup_nil
      exact nodup_names_of_membersMeaning? hempty hmembers
  | _ => simp [Tree.meaning?] at h

theorem exists_meaning?_of_mem {trees : List Tree} {items : List Json}
    (h : itemsMeaning? trees = some items) {item : Json} (hitem : item ∈ items) :
    ∃ t ∈ trees, t.meaning? = some item := by
  induction trees generalizing items with
  | nil =>
      cases h
      cases hitem
  | cons tree trees ih =>
      rw [itemsMeaning?] at h
      split at h
      case h_1 hfirst hrest =>
        cases h
        rcases List.mem_cons.mp hitem with rfl | hitem
        · exact ⟨tree, by simp, hfirst⟩
        · obtain ⟨t, ht, hmeaning⟩ := ih hrest hitem
          exact ⟨t, by simp [ht], hmeaning⟩
      case h_2 => cases h

/-- The names of an object are distinct, and so are those of the objects in an array. -/
def HasDistinctNames : Json → Prop
  | .object members => (Association.names members).Nodup
  | .array items => ∀ members, .object members ∈ items → (Association.names members).Nodup
  | _ => True

theorem hasDistinctNames_of_parse? {text : String} {v : Json} (h : parse? text = some v) :
    v.HasDistinctNames := by
  obtain ⟨t, -, hvalue⟩ := Option.bind_eq_some_iff.mp h
  rw [Tree.value?] at hvalue
  split at hvalue
  case isFalse => cases hvalue
  case isTrue =>
    cases v with
    | object members => exact nodup_names_of_meaning? hvalue
    | array items =>
        intro members hmember
        cases t with
        | array trees =>
            obtain ⟨_, hitems, hvalue⟩ := Option.map_eq_some_iff.mp hvalue
            cases hvalue
            obtain ⟨tree, -, hmeaning⟩ := exists_meaning?_of_mem hitems hmember
            exact nodup_names_of_meaning? hmeaning
        | _ => simp [Tree.meaning?] at hvalue
    | _ => trivial

end TableGateway.Json
