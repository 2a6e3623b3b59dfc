import TableGateway.Parameter.Conversion
import TableGateway.Proofs.Json.Reader

/-! # JSON parameters

A value of a body reaches a JSON parameter as it is, unless it is a string that is itself a JSON
text: such a string is read as if it came from a query. -/

namespace TableGateway

open Sql (Value)

namespace Parameter

/-! ## Texts -/

theorem jsonOfText_of_parse?_eq_none {s : String} (h : Json.parse? s = none) :
    jsonOfText s = .string s := by
  rw [jsonOfText, h, Option.getD_none]

theorem jsonOfText_of_parse?_eq_some {s : String} {v : Json} (h : Json.parse? s = some v) :
    jsonOfText s = v := by
  rw [jsonOfText, h, Option.getD_some]

/-- A text stays the string that it is just where it is no JSON text. -/
theorem jsonOfText_eq_string_iff {s : String} :
    jsonOfText s = .string s ↔ Json.parse? s = none := by
  constructor
  · intro h
    cases hparse : Json.parse? s with
    | none => rfl
    | some v =>
        rw [jsonOfText_of_parse?_eq_some hparse] at h
        exact absurd (h ▸ hparse) (Json.parse?_ne_string s)
  · exact jsonOfText_of_parse?_eq_none

/-! ## Values of a body -/

theorem jsonOf_ofJson_eq_self_iff {v : Json} :
    jsonOf (.ofJson v) = v ↔ ∀ s, v = .string s → Json.parse? s = none := by
  cases v with
  | string s =>
      rw [Value.ofJson, jsonOf, jsonOfText_eq_string_iff]
      constructor
      · intro h t ht
        cases ht
        exact h
      · intro h
        exact h s rfl
  | null | bool _ | number _ | array _ | object _ =>
      constructor
      · intro _ s hs
        cases hs
      · intro _
        rfl

/-! ## Types -/

/-- Both names of JSON stand for one kind. -/
theorem SqlType.ofName_eq_json {name : String} (h : Text.upper name ∈ ["JSON", "JSONB"]) :
    SqlType.ofName name = ⟨some .json, false⟩ := by
  simp only [List.mem_cons, List.not_mem_nil, or_false] at h
  rcases h with h | h
  · rw [ofName, h]
    decide +kernel
  · rw [ofName, h]
    decide +kernel

theorem convert_json {v : Json} (hv : v ≠ .null) :
    convert ⟨some .json, false⟩ (.ofJson v) =
      .ok (.scalar .json (some (.json (jsonOf (.ofJson v))))) := by
  cases v with
  | null => exact absurd rfl hv
  | _ => rfl

/-! ## Parameters -/

theorem convert_ofJson_json {name : String} (hname : Text.upper name ∈ ["JSON", "JSONB"])
    {v : Json} (hv : v ≠ .null) :
    (convert (.ofName name) (.ofJson v) = .ok (.scalar .json (some (.json v))) ↔
      ∀ s, v = .string s → Json.parse? s = none) ∧
    ∀ s w, v = .string s → Json.parse? s = some w →
      convert (.ofName name) (.ofJson v) = .ok (.scalar .json (some (.json w))) ∧ w ≠ v := by
  rw [SqlType.ofName_eq_json hname, convert_json hv]
  constructor
  · simp only [Except.ok.injEq, scalar.injEq, Option.some.injEq, Datum.json.injEq, true_and]
    exact jsonOf_ofJson_eq_self_iff
  · intro s w hs hw
    subst hs
    have hread : jsonOf (.ofJson (.string s)) = w := jsonOfText_of_parse?_eq_some hw
    refine ⟨by rw [hread], ?_⟩
    intro hsame
    exact Json.parse?_ne_string s (hsame ▸ hw)

/-- A list of notes, one of which would be a number if it were read. -/
def notes : Json :=
  .object [("notes", .array [.string "1", .bool true, .null]), ("by", .string "null")]

theorem convert_ofJson_json_notes :
    convert (.ofName "Jsonb") (.ofJson notes) = .ok (.scalar .json (some (.json notes))) ∧
    convert (.ofName "json") (.ofJson (.string "plain")) =
      .ok (.scalar .json (some (.json (.string "plain")))) ∧
    convert (.ofName "JSON") (.ofJson (.string "[1]")) =
      .ok (.scalar .json (some (.json (.array [.number (.integer 1)])))) := by
  have hnotes : notes ≠ .null := nofun
  have hplain : Json.string "plain" ≠ .null := nofun
  have hquoted : Json.string "[1]" ≠ .null := nofun
  refine ⟨(convert_ofJson_json (by decide) hnotes).1.mpr ?_,
    (convert_ofJson_json (by decide) hplain).1.mpr ?_,
    ((convert_ofJson_json (by decide) hquoted).2 "[1]" _ rfl ?_).1⟩
  · intro s hs
    cases hs
  · intro s hs
    cases hs
    rfl
  · rfl

/-- A string of a body that is the text of a number arrives as the number. -/
theorem not_unchanged_quotedNumber :
    convert (.ofName "JSONB") (.ofJson (.string "1")) ≠
      .ok (.scalar .json (some (.json (.string "1")))) := by
  have hread : convert (.ofName "JSONB") (.ofJson (.string "1")) =
      .ok (.scalar .json (some (.json (.number (.integer 1))))) := by rfl
  rw [hread]
  intro h
  cases h

end Parameter

end TableGateway
