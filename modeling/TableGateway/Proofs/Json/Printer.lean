import TableGateway.Json.Printer
import TableGateway.Proofs.Number.Numeral
import TableGateway.Proofs.Text.Blank

/-! # What is printed for a number

A number is printed without blanks, and one that is no integer with a point or an exponent. -/

namespace TableGateway.Json

variable {c : Char} {body : List Char}

/-! ## Doubles -/

/-- Digits around a point, or digits that may have a point in front of an exponent. -/
inductive FloatShape : List Char → Prop where
  | plain {whole fraction : List Char} (hwhole : ∀ c ∈ whole, c.isDigit = true)
      (hfraction : ∀ c ∈ fraction, c.isDigit = true) : FloatShape (whole ++ '.' :: fraction)
  | scientific {mantissa exponent : List Char} {sign : Char}
      (hmantissa : ∀ c ∈ mantissa, c = '.' ∨ c.isDigit = true) (hsign : sign = '-' ∨ sign = '+')
      (hexponent : ∀ c ∈ exponent, c.isDigit = true) :
      FloatShape (mantissa ++ ['e', sign] ++ exponent)

theorem FloatShape.mark_mem (h : FloatShape body) : '.' ∈ body ∨ 'e' ∈ body := by
  cases h with
  | plain => simp
  | scientific => simp

theorem FloatShape.isBlank (h : FloatShape body) : ∀ c ∈ body, Text.isBlank c = false := by
  intro c hc
  cases h with
  | plain hwhole hfraction =>
      simp only [List.mem_append, List.mem_cons] at hc
      rcases hc with hc | rfl | hc
      · exact Text.isBlank_of_isDigit (hwhole c hc)
      · decide
      · exact Text.isBlank_of_isDigit (hfraction c hc)
  | scientific hmantissa hsign hexponent =>
      simp only [List.mem_append, List.mem_cons, List.not_mem_nil, or_false] at hc
      rcases hc with (hc | rfl | rfl) | hc
      · rcases hmantissa c hc with rfl | hdigit
        · decide
        · exact Text.isBlank_of_isDigit hdigit
      · decide
      · rcases hsign with rfl | rfl <;> decide
      · exact Text.isBlank_of_isDigit (hexponent c hc)

theorem mem_scientificDigits {ds : List Char} (hds : ∀ c ∈ ds, c.isDigit = true) :
    ∀ c ∈ scientificDigits ds, c = '.' ∨ c.isDigit = true := by
  intro c hc
  unfold scientificDigits at hc
  split at hc
  case h_1 d e ds =>
    rcases List.mem_cons.mp hc with rfl | hc
    · exact .inr (hds c (by simp))
    · rcases List.mem_cons.mp hc with rfl | hc
      · exact .inl rfl
      · exact .inr (hds c (List.mem_cons_of_mem d hc))
  case h_2 => exact .inr (hds c hc)

theorem isDigit_of_mem_zeros {n : Nat} : ∀ c ∈ List.replicate n '0', c.isDigit = true := by
  intro c hc
  rw [List.eq_of_mem_replicate hc]
  decide

/-- A double is printed as a shape behind an optional minus sign. -/
theorem floatChars_shape (x : Double) : ∃ sign body, floatChars x = sign ++ body ∧
    (∀ c ∈ sign, c = '-') ∧ FloatShape body := by
  have hdigits : ∀ c ∈ Numeral.digits x.shortest.digits, c.isDigit = true :=
    Numeral.isDigit_of_mem_digits
  have hzero : ∀ c ∈ ['0'], c.isDigit = true := by simp
  refine ⟨_, _, rfl, ?_, ?_⟩
  · split <;> simp
  · split
    case isTrue => exact .plain hzero hzero
    case isFalse =>
      split
      case isTrue =>
        refine .scientific (mem_scientificDigits hdigits) ?_ Numeral.isDigit_of_mem_digits
        split
        · exact .inl rfl
        · exact .inr rfl
      case isFalse =>
        split
        case isTrue =>
          refine .plain (fun c hc => ?_) hzero
          rcases List.mem_append.mp hc with hc | hc
          · exact hdigits c hc
          · exact isDigit_of_mem_zeros c hc
        case isFalse =>
          split
          case isTrue =>
            exact .plain (fun c hc => hdigits c (List.mem_of_mem_take hc))
              fun c hc => hdigits c (List.mem_of_mem_drop hc)
          case isFalse =>
            refine .plain hzero fun c hc => ?_
            rcases List.mem_append.mp hc with hc | hc
            · exact isDigit_of_mem_zeros c hc
            · exact hdigits c hc

/-- What is printed for a double is the numeral of no integer. -/
theorem not_signed_floatChars (x : Double) (k : Int) : ¬Numeral.Signed (floatChars x) k := by
  obtain ⟨sign, body, hprinted, -, hbody⟩ := floatChars_shape x
  have hmarks : ∀ c ∈ ['.', 'e'], ¬(c = '+' ∨ c = '-' ∨ c.isDigit = true) := by simp
  intro h
  rw [hprinted] at h
  rcases hbody.mark_mem with hmem | hmem
  · exact hmarks '.' (by decide) (h.isDigit_or '.' (List.mem_append_right _ hmem))
  · exact hmarks 'e' (by decide) (h.isDigit_or 'e' (List.mem_append_right _ hmem))

/-! ## Numbers -/

theorem Number.trim_text (n : Number) : Text.trim n.text = n.text := by
  refine Text.trim_of_forall_not_isBlank fun c hc => ?_
  rw [Number.text, String.toList_ofList] at hc
  cases n with
  | integer k =>
      rcases Numeral.isDigit_or_of_mem_ofInt c hc with rfl | hdigit
      · decide
      · exact Text.isBlank_of_isDigit hdigit
  | float x =>
      obtain ⟨sign, body, hprinted, hsign, hbody⟩ := floatChars_shape x
      rw [Number.chars, hprinted] at hc
      rcases List.mem_append.mp hc with hc | hc
      · rw [hsign c hc]
        decide
      · exact hbody.isBlank c hc

/-- What is printed for a number is the numeral of an integer just where the number is one. -/
theorem Number.signed_chars_iff {n : Number} {k : Int} :
    Numeral.Signed n.chars k ↔ n = .integer k := by
  cases n with
  | integer j =>
      rw [Number.chars, ← Numeral.signed?_eq_some_iff,
        Numeral.signed?_eq_some_iff.mpr (Numeral.signed_ofInt j), Option.some.injEq,
        Number.integer.injEq]
  | float x =>
      constructor
      · intro h
        exact absurd h (not_signed_floatChars x k)
      · intro h
        cases h

end TableGateway.Json
