import TableGateway.Parameter.Conversion
import TableGateway.Proofs.Result
import TableGateway.Proofs.Text.Quotes

/-! # Arrays in three spellings

A list of texts may be the items of a filter, an array of a body, or a text in braces. The spelling
makes no difference: each item is converted by itself, and one that has no form in the type is one
too many. -/

namespace TableGateway

open Sql (Value)

namespace Parameter

variable {kind : Kind} {items : List String} {name element : String} {v : Value}

/-! ## Types -/

theorem SqlType.ofName_array (hname : Text.upper name = element ++ "[]") :
    SqlType.ofName name = ⟨Kind.ofName? element, true⟩ := by
  have hback : Text.beforeBack? "[]" (Text.upper name) = some element :=
    Text.beforeBack?_eq_some_iff.mpr hname
  simp only [ofName, hback]

/-- The names of the kinds. -/
def kindNames : List String :=
  ["BOOL", "INT2", "INT4", "INT8", "FLOAT4", "FLOAT8", "NUMERIC", "TEXT", "VARCHAR", "BPCHAR",
    "CHAR", "NAME", "UNKNOWN", "UUID", "JSON", "JSONB", "DATE", "TIMESTAMP", "TIMESTAMPTZ"]

theorem mem_kindNames (h : Kind.ofName? name = some kind) : name ∈ kindNames := by
  by_contra hnot
  simp only [kindNames, List.mem_cons, List.not_mem_nil, or_false, not_or] at hnot
  simp [Kind.ofName?, hnot] at h

/-- No name of a kind ends like that of an array. -/
theorem SqlType.ofName_kind (h : Kind.ofName? (Text.upper name) = some kind) :
    SqlType.ofName name = ⟨some kind, false⟩ := by
  have hplain : ∀ known ∈ kindNames, Text.beforeBack? "[]" known = none := by decide +kernel
  simp only [ofName, hplain _ (mem_kindNames h), h]

theorem convert_scalar (kind : Kind) (v : Value) :
    convert ⟨some kind, false⟩ v = scalarOf kind v := by
  cases kind <;> rfl

theorem convert_array (hkind : kind ≠ .json) (v : Value) :
    convert ⟨some kind, true⟩ v = arrayOf kind v := by
  cases kind with
  | json => exact absurd rfl hkind
  | _ => rfl

theorem scalarOf_of_ne_null (hv : v ≠ .null) :
    scalarOf kind v = match datum? kind v with
      | some d => .ok (.scalar kind (some d))
      | none => .error ⟨⟩ :=
  scalarOf.eq_2 kind v hv

theorem arrayOf_of_items? {vs : List Value} (hv : v ≠ .null) (hitems : items? v = some vs) :
    arrayOf kind v = match vs.mapM (datum? kind) with
      | some ds => .ok (.array kind (some ds))
      | none => .error ⟨⟩ := by
  rw [arrayOf.eq_2 kind v hv, hitems]
  rfl

/-! ## Item by item -/

/-- An array of texts is converted text by text, or one of them has no form in the type. -/
inductive ItemByItem (kind : Kind) (items : List String) : Except Mismatch Parameter → Prop where
  | converted {ds : List Datum}
      (h : List.Forall₂ (fun item d =>
        convert ⟨some kind, false⟩ (.text item) = .ok (.scalar kind (some d))) items ds) :
      ItemByItem kind items (.ok (.array kind (some ds)))
  | refused {item : String} (hmem : item ∈ items)
      (h : convert ⟨some kind, false⟩ (.text item) = .error ⟨⟩) :
      ItemByItem kind items (.error ⟨⟩)

theorem convert_of_datum? {d : Datum} (hv : v ≠ .null) (h : datum? kind v = some d) :
    convert ⟨some kind, false⟩ v = .ok (.scalar kind (some d)) := by
  rw [convert_scalar, scalarOf_of_ne_null hv, h]

theorem datum?_of_convert {d : Datum} (hv : v ≠ .null)
    (h : convert ⟨some kind, false⟩ v = .ok (.scalar kind (some d))) : datum? kind v = some d := by
  rw [convert_scalar, scalarOf_of_ne_null hv] at h
  cases hdatum : datum? kind v with
  | none =>
      rw [hdatum] at h
      cases h
  | some e =>
      rw [hdatum] at h
      cases h
      rfl

theorem convert_scalar_congr {w : Value} (hv : v ≠ .null) (hw : w ≠ .null)
    (h : datum? kind v = datum? kind w) :
    convert ⟨some kind, false⟩ v = convert ⟨some kind, false⟩ w := by
  rw [convert_scalar, convert_scalar, scalarOf_of_ne_null hv, scalarOf_of_ne_null hw, h]

theorem convert_of_datum?_eq_none (hv : v ≠ .null) (h : datum? kind v = none) :
    convert ⟨some kind, false⟩ v = .error ⟨⟩ := by
  rw [convert_scalar, scalarOf_of_ne_null hv, h]

theorem convert_of_mapM {vs : List Value} {ds : List Datum} (hkind : kind ≠ .json) (hv : v ≠ .null)
    (hitems : items? v = some vs) (h : vs.mapM (datum? kind) = some ds) :
    convert ⟨some kind, true⟩ v = .ok (.array kind (some ds)) := by
  rw [convert_array hkind, arrayOf_of_items? hv hitems, h]

theorem convert_of_mapM_eq_none {vs : List Value} (hkind : kind ≠ .json) (hv : v ≠ .null)
    (hitems : items? v = some vs) (h : vs.mapM (datum? kind) = none) :
    convert ⟨some kind, true⟩ v = .error ⟨⟩ := by
  rw [convert_array hkind, arrayOf_of_items? hv hitems, h]

theorem itemByItem (hkind : kind ≠ .json) (hv : v ≠ .null)
    (hitems : items? v = some (items.map .text)) :
    ItemByItem kind items (convert ⟨some kind, true⟩ v) := by
  have htext : ∀ s, Value.text s ≠ .null := nofun
  have hmap := List.mapM_map (m := Option) (f := Value.text) (g := datum? kind) (l := items)
  cases hdata : items.mapM (datum? kind ∘ .text) with
  | some ds =>
      rw [convert_of_mapM hkind hv hitems (hmap.trans hdata)]
      exact .converted ((mapM_eq_some_iff.mp hdata).imp fun _ _ h => convert_of_datum? (htext _) h)
  | none =>
      rw [convert_of_mapM_eq_none hkind hv hitems (hmap.trans hdata)]
      obtain ⟨item, hmem, hitem⟩ := mapM_eq_none_iff.mp hdata
      exact .refused hmem (convert_of_datum?_eq_none (htext item) hitem)

/-! ## Spellings -/

/-- Items in quotes between braces. -/
def bracedText (items : List String) : String :=
  "\x7b" ++ Text.quotedList items ++ "\x7d"

theorem bracedItems?_bracedText (hfree : ∀ item ∈ items, ',' ∉ item.toList) :
    bracedItems? (bracedText items) = some items := by
  have htrim : Text.trim (bracedText items) = bracedText items :=
    Text.trim_enclosed rfl (by decide) rfl (by decide) _
  have hinner : Text.between? "\x7b" "\x7d" (bracedText items) = some (Text.quotedList items) :=
    Text.between?_enclosed _ _ _
  rw [bracedItems?, htrim, hinner, Option.map_some, Option.some.injEq]
  cases items with
  | nil => rfl
  | cons item items =>
      rw [Text.isBlankText_quotedList (by simp), if_neg (by decide),
        Text.pieces_quotedList (by simp) hfree, List.map_map]
      refine (List.map_congr_left fun item _ => ?_).trans (List.map_id _)
      simp only [Function.comp_apply, Text.trim_inQuotes, Text.between?_inQuotes, Option.getD_some,
        id_eq]

theorem items?_textArray (items : List String) :
    items? (.textArray items) = some (items.map .text) := rfl

theorem items?_strings (items : List String) :
    items? (.json (.strings items)) = some (items.map .text) := by
  rw [Json.strings, items?, List.map_map]
  rfl

theorem items?_bracedText (hfree : ∀ item ∈ items, ',' ∉ item.toList) :
    items? (.text (bracedText items)) = some (items.map .text) := by
  have hitems : items? (.text (bracedText items)) =
      (bracedItems? (bracedText items)).map fun items => items.map .text := rfl
  rw [hitems, bracedItems?_bracedText hfree, Option.map_some]

/-- Arrays are converted alike if they have the same items. -/
theorem convert_array_congr {w : Value} {vs : List Value} (hkind : kind ≠ .json) (hv : v ≠ .null)
    (hw : w ≠ .null) (hitems : items? v = some vs) (hitems' : items? w = some vs) :
    convert ⟨some kind, true⟩ v = convert ⟨some kind, true⟩ w := by
  rw [convert_array hkind, convert_array hkind, arrayOf_of_items? hv hitems,
    arrayOf_of_items? hw hitems']

theorem convert_strings (type : SqlType) (items : List String) :
    convert type (.textArray items) = convert type (.json (.strings items)) := by
  obtain ⟨element, isArray⟩ := type
  cases element with
  | none => rfl
  | some kind =>
      cases isArray with
      | false => cases kind <;> rfl
      | true =>
          by_cases hkind : kind = .json
          · rw [hkind]
            rfl
          · exact convert_array_congr hkind nofun nofun (items?_textArray items)
              (items?_strings items)

/-- The items of a filter and an array of a body are converted alike to every type, and a text in
braces to every array of a known kind. There each item is converted by itself. -/
theorem convert_spellings (name : String) (items : List String) :
    convert (.ofName name) (.textArray items) = convert (.ofName name) (.json (.strings items)) ∧
      ∀ element kind, Text.upper name = element ++ "[]" → Kind.ofName? element = some kind →
        kind ≠ .json →
          ItemByItem kind items (convert (.ofName name) (.textArray items)) ∧
            ((∀ item ∈ items, ',' ∉ item.toList) →
              convert (.ofName name) (.text (bracedText items)) =
                convert (.ofName name) (.textArray items)) := by
  refine ⟨convert_strings _ items, fun element kind hname hkind hjson => ?_⟩
  rw [SqlType.ofName_array hname, hkind]
  refine ⟨itemByItem hjson nofun (items?_textArray items), fun hfree => ?_⟩
  exact convert_array_congr hjson nofun nofun (items?_bracedText hfree) (items?_textArray items)

/-- Nothing, a quote, a brace, and a text among blanks. -/
def noisyTexts : List String :=
  ["", "\"", "\x7d", " a b "]

theorem convert_spellings_noisyTexts :
    (∀ item ∈ noisyTexts, ',' ∉ item.toList) ∧
      convert (.ofName "Text[]") (.text (bracedText noisyTexts)) =
        .ok (.array .text (some (noisyTexts.map .text))) ∧
      convert (.ofName "date") (.textArray noisyTexts) =
        convert (.ofName "date") (.json (.strings noisyTexts)) ∧
      ItemByItem .int4 ["1", "x"] (convert (.ofName "INT4[]") (.textArray ["1", "x"])) := by
  have hfree : ∀ item ∈ noisyTexts, ',' ∉ item.toList := by decide
  have htext := (convert_spellings "Text[]" noisyTexts).2 "TEXT" .text (by decide +kernel)
    (by decide +kernel) nofun
  have hwords := (convert_spellings "INT4[]" ["1", "x"]).2 "INT4" .int4 (by decide +kernel)
    (by decide +kernel) nofun
  have htype : SqlType.ofName "Text[]" = ⟨some .text, true⟩ := by decide +kernel
  refine ⟨hfree, (htext.2 hfree).trans ?_, (convert_spellings "date" noisyTexts).1, hwords.1⟩
  rw [htype]
  rfl

end Parameter

end TableGateway
