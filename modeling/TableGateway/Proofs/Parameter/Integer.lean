import Mathlib.Data.List.TakeDrop
import Mathlib.Data.List.TakeWhile
import TableGateway.Parameter.Conversion
import TableGateway.Proofs.Json.Printer
import TableGateway.Proofs.Parameter.Array

/-! # Parameters that are integers

A value becomes the integer that it says, if the type has it, and nothing at all otherwise. A number
becomes the same as the text that is printed for it. -/

namespace TableGateway

open Sql (Value)

/-! ## Decimal numbers -/

theorem span_of_forall {p : Char → Bool} {cs : List Char} (h : ∀ c ∈ cs, p c = true) :
    cs.span p = (cs, []) := by
  rw [List.span_eq_takeWhile_dropWhile, List.takeWhile_eq_self_iff.mpr h,
    List.dropWhile_eq_nil_iff.mpr h]

namespace Decimal

theorem grouped?_digits (n : Nat) : grouped? (Numeral.digits n) = some n := by
  have hfree : ∀ c ∈ Numeral.digits n, c ≠ '_' := by
    intro c hc hmark
    have hdigit := Numeral.isDigit_of_mem_digits c hc
    rw [hmark] at hdigit
    revert hdigit
    decide
  have hfilter : (Numeral.digits n).filter (· ≠ '_') = Numeral.digits n :=
    List.filter_eq_self.mpr fun c hc => decide_eq_true (hfree c hc)
  unfold grouped?
  split
  case h_1 heq => exact absurd rfl (hfree '_' (heq ▸ List.mem_cons_self))
  case h_2 => rw [hfilter, Numeral.natural?_digits]

theorem integer?_digits (n : Nat) : integer? (Numeral.digits n) = some (n : Int) := by
  have hsign : ∀ c ∈ ['-', '+'], c.isDigit = false := by simp
  unfold integer?
  split
  case h_1 heq =>
    have hdigit := Numeral.isDigit_of_mem_digits '-' (heq ▸ List.mem_cons_self)
    exact absurd (hdigit.symm.trans (hsign '-' (by decide))) (by decide)
  case h_2 heq =>
    have hdigit := Numeral.isDigit_of_mem_digits '+' (heq ▸ List.mem_cons_self)
    exact absurd (hdigit.symm.trans (hsign '+' (by decide))) (by decide)
  case h_3 =>
    rw [grouped?_digits]
    rfl

theorem integer?_ofInt (k : Int) : integer? (Numeral.ofInt k) = some k := by
  rw [Numeral.ofInt]
  split
  case isTrue hneg =>
    have hk : -(k.natAbs : Int) = k := by omega
    rw [integer?, grouped?_digits]
    exact congrArg some hk
  case isFalse hpos =>
    have hk : (k.natAbs : Int) = k := by omega
    rw [integer?_digits, hk]

/-- An integer is read as the decimal number without a fraction. -/
theorem parse?_signedText (k : Int) : parse? (Numeral.signedText k) = some ⟨k, 0⟩ := by
  have hplain : ∀ c ∈ Numeral.ofInt k, c ≠ 'e' ∧ c ≠ 'E' ∧ c ≠ '.' := by
    have hmarks : ∀ c ∈ ['e', 'E', '.'], ¬(c = '-' ∨ c.isDigit = true) := by simp
    intro c hc
    have hchar := Numeral.isDigit_or_of_mem_ofInt c hc
    refine ⟨?_, ?_, ?_⟩
    · rintro rfl
      exact hmarks _ (by decide) hchar
    · rintro rfl
      exact hmarks _ (by decide) hchar
    · rintro rfl
      exact hmarks _ (by decide) hchar
  have hmantissa : (Numeral.ofInt k).span (fun c => c ≠ 'e' && c ≠ 'E') = (Numeral.ofInt k, []) :=
    span_of_forall fun c hc => by simp [hplain c hc]
  have hwhole : (Numeral.ofInt k).span (· ≠ '.') = (Numeral.ofInt k, []) :=
    span_of_forall fun c hc => by simp [hplain c hc]
  have hpointed : pointed? (Numeral.ofInt k) = some (k, 0) := by
    simp only [pointed?, hwhole, List.drop_nil, List.append_nil, integer?_ofInt, Option.map_some,
      List.filter_nil, List.length_nil]
  have hscale : Numeral.inWord 64 ((0 : Nat) - (0 : Int)) = true := by decide
  simp only [parse?, Numeral.signedText, String.toList_ofList, hmantissa, hpointed,
    Option.bind_eq_bind, Option.bind_some]
  rw [if_pos hscale]
  rfl

end Decimal

namespace Parameter

variable {kind : Kind} {bits : Nat} {v : Value} {k : Int} {type name : String}

/-! ## Integers that are said -/

/-- A value says an integer: it is the number itself, or a numeral between blanks. -/
inductive Says : Value → Int → Prop where
  | number (k : Int) : Says (.number (.integer k)) k
  | text {s : String} {k : Int} (h : Numeral.Signed (Text.trim s).toList k) : Says (.text s) k

/-- What fits the word is neither beyond a signed number nor beyond a numeral of 64 bits, so that
nothing but the last check refuses it. -/
theorem wordOf?_eq_some_iff (hbits : 0 < bits) (hle : bits ≤ 64) :
    wordOf? bits v = some k ↔ Says v k ∧ Numeral.Fits bits k := by
  rw [wordOf?, Option.filter_eq_some_iff, ← Numeral.inWord_iff hbits]
  refine and_congr_left fun hword => ?_
  have hwide : Numeral.inWord 64 k = true := Numeral.inWord_mono hle hword
  have hlt : k < twoTo 63 := by
    rw [Numeral.inWord, Bool.and_eq_true, decide_eq_true_iff, decide_eq_true_iff] at hwide
    exact hwide.2
  constructor
  · intro h
    cases v with
    | number n =>
        cases n with
        | integer j =>
            rw [integerOf?, Json.Number.signed?, Option.ite_none_right_eq_some] at h
            cases h.2
            exact .number k
        | float x => cases h
    | text s => exact .text (Numeral.signedWord?_eq_some_iff.mp h).1
    | _ => cases h
  · intro h
    cases h with
    | number => rw [integerOf?, Json.Number.signed?, if_pos hlt]
    | text h => exact Numeral.signedWord?_eq_some_iff.mpr ⟨h, hwide⟩

/-- What is printed for a number says the same as the number. -/
theorem says_text_iff {n : Json.Number} : Says (.text n.text) k ↔ Says (.number n) k := by
  have htext : Says (.text n.text) k ↔ n = .integer k := by
    rw [← Json.Number.signed_chars_iff]
    constructor
    · rintro ⟨⟩
      rename_i h
      rwa [n.trim_text, Json.Number.text, String.toList_ofList] at h
    · intro h
      refine .text ?_
      rwa [n.trim_text, Json.Number.text, String.toList_ofList]
  rw [htext]
  constructor
  · rintro rfl
    exact .number k
  · rintro ⟨⟩
    rfl

/-! ## Types of integers -/

/-- The names of the types of integers, and how many bits their words have. -/
def integerTypes : List (String × Kind × Nat) :=
  [("INT2", .int2, 16), ("INT4", .int4, 32), ("INT8", .int8, 64)]

theorem ofName?_integer (h : (name, kind, bits) ∈ integerTypes) :
    Kind.ofName? name = some kind := by
  simp only [integerTypes, List.mem_cons, Prod.mk.injEq, List.not_mem_nil, or_false] at h
  rcases h with ⟨rfl, rfl, -⟩ | ⟨rfl, rfl, -⟩ | ⟨rfl, rfl, -⟩ <;> decide +kernel

theorem datum?_integer (h : (name, kind, bits) ∈ integerTypes) (v : Value) :
    datum? kind v = (wordOf? bits v).map .integer := by
  simp only [integerTypes, List.mem_cons, Prod.mk.injEq, List.not_mem_nil, or_false] at h
  rcases h with ⟨rfl, rfl, rfl⟩ | ⟨rfl, rfl, rfl⟩ | ⟨rfl, rfl, rfl⟩ <;> rfl

theorem datum?_integer_eq_some_iff (h : (name, kind, bits) ∈ integerTypes) {d : Datum} :
    datum? kind v = some d ↔ ∃ k, d = .integer k ∧ Says v k ∧ Numeral.Fits bits k := by
  have hbits : 0 < bits ∧ bits ≤ 64 := by
    simp only [integerTypes, List.mem_cons, Prod.mk.injEq, List.not_mem_nil, or_false] at h
    omega
  rw [datum?_integer h, Option.map_eq_some_iff]
  constructor
  · rintro ⟨k, hk, rfl⟩
    exact ⟨k, rfl, (wordOf?_eq_some_iff hbits.1 hbits.2).mp hk⟩
  · rintro ⟨k, rfl, hk⟩
    exact ⟨k, (wordOf?_eq_some_iff hbits.1 hbits.2).mpr hk, rfl⟩

/-- A type of integers takes the integers of its word as they are, and refuses all else. -/
structure TakesWords (type : SqlType) (kind : Kind) (bits : Nat) : Prop where
  ok_iff : ∀ v k, convert type v = .ok (.scalar kind (some (.integer k))) ↔
    Says v k ∧ Numeral.Fits bits k
  null : convert type .null = .ok (.scalar kind none)
  refused : ∀ v, v ≠ .null → (¬∃ k, Says v k ∧ Numeral.Fits bits k) → convert type v = .error ⟨⟩

theorem takesWords (h : (Text.upper type, kind, bits) ∈ integerTypes) :
    TakesWords (.ofName type) kind bits := by
  rw [SqlType.ofName_kind (ofName?_integer h)]
  have hnull : convert ⟨some kind, false⟩ .null = .ok (.scalar kind none) := by
    rw [convert_scalar, scalarOf]
  refine ⟨fun v k => ?_, hnull, fun v hv hnone => ?_⟩
  · constructor
    · intro hconvert
      have hv : v ≠ .null := by
        rintro rfl
        cases hnull.symm.trans hconvert
      obtain ⟨j, hj, hsaid⟩ := (datum?_integer_eq_some_iff h).mp (datum?_of_convert hv hconvert)
      cases hj
      exact hsaid
    · intro hsaid
      have hv : v ≠ .null := by
        rintro rfl
        cases hsaid.1
      exact convert_of_datum? hv ((datum?_integer_eq_some_iff h).mpr ⟨k, rfl, hsaid⟩)
  · refine convert_of_datum?_eq_none hv (Option.eq_none_iff_forall_ne_some.mpr fun d hd => ?_)
    obtain ⟨k, -, hsaid⟩ := (datum?_integer_eq_some_iff h).mp hd
    exact hnone ⟨k, hsaid⟩

/-! ## Arrays of integers -/

theorem datum?_signedText (h : (name, kind, bits) ∈ integerTypes) (k : Int) :
    datum? kind (.text (Numeral.signedText k)) =
      if Numeral.Fits bits k then some (.integer k) else none := by
  have hsaid : ∀ j, Says (.text (Numeral.signedText k)) j ↔ j = k := by
    intro j
    have hnumber : Says (.number (.integer k)) j ↔ j = k := by
      constructor
      · rintro ⟨⟩
        rfl
      · rintro rfl
        exact .number j
    exact (says_text_iff (n := .integer k)).trans hnumber
  split
  case isTrue hfits =>
    exact (datum?_integer_eq_some_iff h).mpr ⟨k, rfl, (hsaid k).mpr rfl, hfits⟩
  case isFalse hbeyond =>
    refine Option.eq_none_iff_forall_ne_some.mpr fun d hd => ?_
    obtain ⟨j, -, hj, hfits⟩ := (datum?_integer_eq_some_iff h).mp hd
    rw [(hsaid j).mp hj] at hfits
    exact hbeyond hfits

theorem kind_ne_json_of_integer (h : (name, kind, bits) ∈ integerTypes) : kind ≠ .json := by
  simp only [integerTypes, List.mem_cons, Prod.mk.injEq, List.not_mem_nil, or_false] at h
  rcases h with ⟨-, rfl, -⟩ | ⟨-, rfl, -⟩ | ⟨-, rfl, -⟩ <;> decide

theorem SqlType.ofName_integers (h : (name, kind, bits) ∈ integerTypes)
    (htype : Text.upper type = name ++ "[]") : SqlType.ofName type = ⟨some kind, true⟩ := by
  rw [ofName_array htype, ofName?_integer h]

/-- The texts of integers become an array of any type of integers whose words hold all of them. -/
structure ArrivesAsWords (value : Value) (ks : List Int) : Prop where
  fits : ∀ name kind bits type, (name, kind, bits) ∈ integerTypes →
    Text.upper type = name ++ "[]" → (∀ k ∈ ks, Numeral.Fits bits k) →
    convert (.ofName type) value = .ok (.array kind (some (ks.map .integer)))
  beyond : ∀ name kind bits type, (name, kind, bits) ∈ integerTypes →
    Text.upper type = name ++ "[]" → (∃ k ∈ ks, ¬Numeral.Fits bits k) →
    convert (.ofName type) value = .error ⟨⟩

theorem arrivesAsWords (ks : List Int) :
    ArrivesAsWords (.textArray (ks.map Numeral.signedText)) ks := by
  have hvalue : Value.textArray (ks.map Numeral.signedText) ≠ .null := by simp
  have hitems := items?_textArray (ks.map Numeral.signedText)
  rw [List.map_map] at hitems
  constructor
  · intro name kind bits type h htype hfits
    have hdata : (ks.map (Value.text ∘ Numeral.signedText)).mapM (datum? kind) =
        some (ks.map .integer) := by
      rw [mapM_eq_some_iff, List.forall₂_map_left_iff, List.forall₂_map_right_iff,
        List.forall₂_same]
      intro k hk
      rw [Function.comp_apply, datum?_signedText h, if_pos (hfits k hk)]
    rw [SqlType.ofName_integers h htype]
    exact convert_of_mapM (kind_ne_json_of_integer h) hvalue hitems hdata
  · rintro name kind bits type h htype ⟨k, hk, hbeyond⟩
    have hdata : (ks.map (Value.text ∘ Numeral.signedText)).mapM (datum? kind) = none := by
      refine mapM_eq_none_iff.mpr ⟨.text (Numeral.signedText k), ?_, ?_⟩
      · exact List.mem_map_of_mem (f := Value.text ∘ Numeral.signedText) hk
      · rw [datum?_signedText h, if_neg hbeyond]
    rw [SqlType.ofName_integers h htype]
    exact convert_of_mapM_eq_none (kind_ne_json_of_integer h) hvalue hitems hdata

/-! ## Numbers and their texts -/

/-- The names of the types that tell no number from the text that is printed for it. -/
def numeralTypes : List String :=
  ["INT2", "INT4", "INT8", "NUMERIC", "TEXT", "VARCHAR", "BPCHAR", "CHAR", "NAME", "UNKNOWN"]

theorem SqlType.ofName_numeral (h : Text.upper type ∈ numeralTypes) :
    ∃ kind ∈ [Kind.int2, .int4, .int8, .numeric, .text],
      SqlType.ofName type = ⟨some kind, false⟩ := by
  have hkinds : ∀ name ∈ numeralTypes, ∃ kind ∈ [Kind.int2, .int4, .int8, .numeric, .text],
      Kind.ofName? name = some kind := by decide +kernel
  obtain ⟨kind, hkind, hname⟩ := hkinds _ h
  exact ⟨kind, hkind, ofName_kind hname⟩

theorem datum?_text_number {n : Json.Number}
    (hkind : kind ∈ [Kind.int2, .int4, .int8, .numeric, .text]) :
    datum? kind (.text n.text) = datum? kind (.number n) := by
  have hinteger : ∀ name bits, (name, kind, bits) ∈ integerTypes →
      datum? kind (.text n.text) = datum? kind (.number n) := by
    intro name bits h
    refine Option.ext fun d => ?_
    simp only [datum?_integer_eq_some_iff h, says_text_iff]
  simp only [List.mem_cons, List.not_mem_nil, or_false] at hkind
  rcases hkind with rfl | rfl | rfl | rfl | rfl
  · exact hinteger "INT2" 16 (by decide)
  · exact hinteger "INT4" 32 (by decide)
  · exact hinteger "INT8" 64 (by decide)
  · rw [datum?, datum?, decimalOf?, decimalOf?, n.trim_text]
  · rfl

theorem convert_number (h : Text.upper type ∈ numeralTypes) (n : Json.Number) :
    convert (.ofName type) (.number n) = convert (.ofName type) (.text n.text) := by
  obtain ⟨kind, hkind, htype⟩ := SqlType.ofName_numeral h
  rw [htype]
  exact convert_scalar_congr nofun nofun (datum?_text_number hkind).symm

theorem convert_numeric (h : Text.upper type = "NUMERIC") (k : Int) :
    convert (.ofName type) (.number (.integer k)) =
      .ok (.scalar .numeric (some (.decimal ⟨k, 0⟩))) := by
  have htype : SqlType.ofName type = ⟨some .numeric, false⟩ := by
    refine SqlType.ofName_kind ?_
    rw [h]
    decide +kernel
  have hdecimal : decimalOf? (.number (.integer k)) = some ⟨k, 0⟩ := Decimal.parse?_signedText k
  have hvalue : Value.number (.integer k) ≠ .null := by simp
  rw [htype]
  refine convert_of_datum? hvalue ?_
  rw [datum?, hdecimal, Option.map_some]

/-! ## Integers are exact -/

/-- An integer arrives as it is in each type whose words hold it, and nothing else arrives there.
Types that read numerals tell no number from its text. -/
theorem integers_exact :
    (∀ type kind bits, (Text.upper type, kind, bits) ∈ integerTypes →
        TakesWords (.ofName type) kind bits) ∧
      (∀ type, Text.upper type ∈ numeralTypes → ∀ n : Json.Number,
        convert (.ofName type) (.number n) = convert (.ofName type) (.text n.text)) ∧
      ∀ type, Text.upper type = "NUMERIC" → ∀ k,
        convert (.ofName type) (.number (.integer k)) =
          .ok (.scalar .numeric (some (.decimal ⟨k, 0⟩))) :=
  ⟨fun _ _ _ => takesWords, fun _ => convert_number, fun _ => convert_numeric⟩

/-- The least word of sixteen bits, one more than the greatest of thirty-two, and numbers that are
no integers or no signed words. -/
theorem integers_exact_edges :
    convert (.ofName "int2") (.text " -32768\n") = .ok (.scalar .int2 (some (.integer (-32768)))) ∧
      convert (.ofName "INT4") (.number (.integer 2147483648)) = .error ⟨⟩ ∧
      convert (.ofName "Int8") (.number (.integer 18446744073709551615)) =
        convert (.ofName "Int8") (.text "18446744073709551615") ∧
      convert (.ofName "numeric") (.number (.integer 18446744073709551615)) =
        .ok (.scalar .numeric (some (.decimal ⟨18446744073709551615, 0⟩))) := by
  obtain ⟨hwords, hnumerals, hnumeric⟩ := integers_exact
  have hleast : Says (.text " -32768\n") (-32768) :=
    .text (Numeral.signed?_eq_some_iff.mp (by decide +kernel))
  have hbeyond : ¬∃ k, Says (.number (.integer 2147483648)) k ∧ Numeral.Fits 32 k := by
    rintro ⟨_, ⟨⟩, hfits⟩
    revert hfits
    decide
  have htext : Json.Number.text (.integer 18446744073709551615) = "18446744073709551615" := by
    decide +kernel
  refine ⟨((hwords "int2" .int2 16 (by decide +kernel)).ok_iff _ _).mpr ⟨hleast, by decide⟩,
    (hwords "INT4" .int4 32 (by decide +kernel)).refused _ nofun hbeyond, ?_,
    hnumeric "numeric" (by decide +kernel) _⟩
  rw [hnumerals "Int8" (by decide +kernel), htext]

end Parameter

end TableGateway
