import Mathlib.Data.List.Induction
import TableGateway.Number.Numeral

/-! # Which texts are numerals

A numeral is one or more decimal digits, and its value is counted digit by digit. An unsigned
numeral may have a plus sign in front, a signed one any sign. -/

namespace TableGateway.Numeral

variable {cs : List Char} {n : Nat}

/-! ## Digits -/

/-- One or more decimal digits, and the number that they denote. -/
inductive Denotes : List Char → Nat → Prop where
  | digit {c : Char} (hc : c.isDigit = true) : Denotes [c] (c.toNat - '0'.toNat)
  | snoc {cs : List Char} {n : Nat} {c : Char} (hcs : Denotes cs n) (hc : c.isDigit = true) :
      Denotes (cs ++ [c]) (10 * n + (c.toNat - '0'.toNat))

theorem Denotes.ne_nil (h : Denotes cs n) : cs ≠ [] := by
  cases h with
  | digit => exact List.cons_ne_nil _ _
  | snoc => exact List.concat_ne_nil _ _

theorem Denotes.isDigit (h : Denotes cs n) : ∀ c ∈ cs, c.isDigit = true := by
  induction h with
  | digit hc => simpa using hc
  | snoc _ hc ih => simpa [or_imp, forall_and] using ⟨ih, hc⟩

theorem Denotes.value (h : Denotes cs n) : Nat.ofDigitChars 10 cs 0 = n := by
  induction h with
  | digit => simp [Nat.ofDigitChars_cons, Nat.ofDigitChars_nil]
  | snoc _ _ ih => rw [Nat.ofDigitChars_append, ih, Nat.ofDigitChars_cons, Nat.ofDigitChars_nil]

theorem Denotes.lt_tenTo (h : Denotes cs n) : n < tenTo cs.length := by
  have hvalue : ∀ c : Char, c.isDigit = true → c.toNat - '0'.toNat < 10 := by
    intro c hc
    simp only [Char.isDigit, Bool.and_eq_true, decide_eq_true_eq, UInt32.le_iff_toNat_le] at hc
    change 48 ≤ c.toNat ∧ c.toNat ≤ 57 at hc
    change c.toNat - 48 < 10
    omega
  induction h with
  | digit hc => exact hvalue _ hc
  | snoc _ hc ih =>
      have hdigit := hvalue _ hc
      rw [List.length_append, List.length_singleton, tenTo_succ]
      omega

theorem denotes_ofDigitChars (hne : cs ≠ []) (hdigits : ∀ c ∈ cs, c.isDigit = true) :
    Denotes cs (Nat.ofDigitChars 10 cs 0) := by
  induction cs using List.reverseRecOn with
  | nil => exact absurd rfl hne
  | append_singleton cs c ih =>
      have hc : c.isDigit = true := hdigits c (by simp)
      rw [Nat.ofDigitChars_append, Nat.ofDigitChars_cons, Nat.ofDigitChars_nil]
      rcases eq_or_ne cs [] with rfl | hcs
      · simpa using Denotes.digit hc
      · exact .snoc (ih hcs fun d hd => hdigits d (by simp [hd])) hc

theorem natural?_eq_some_iff : natural? cs = some n ↔ Denotes cs n := by
  rw [natural?, Option.ite_none_right_eq_some, Bool.and_eq_true, Bool.not_eq_true',
    List.isEmpty_eq_false_iff, List.all_eq_true]
  constructor
  · rintro ⟨⟨hne, hdigits⟩, h⟩
    cases h
    exact denotes_ofDigitChars hne hdigits
  · intro h
    exact ⟨⟨h.ne_nil, h.isDigit⟩, congrArg some h.value⟩

/-! ## Signs -/

/-- A numeral that may have a plus sign in front. -/
inductive Unsigned : List Char → Nat → Prop where
  | plain {cs : List Char} {n : Nat} (h : Denotes cs n) : Unsigned cs n
  | plus {cs : List Char} {n : Nat} (h : Denotes cs n) : Unsigned ('+' :: cs) n

theorem Unsigned.isDigit_or (h : Unsigned cs n) : ∀ c ∈ cs, c = '+' ∨ c.isDigit = true := by
  intro c hc
  cases h with
  | plain h => exact .inr (h.isDigit c hc)
  | plus h =>
      rcases List.mem_cons.mp hc with rfl | hc
      · exact .inl rfl
      · exact .inr (h.isDigit c hc)

theorem unsigned?_eq_some_iff : unsigned? cs = some n ↔ Unsigned cs n := by
  constructor
  · intro h
    unfold unsigned? at h
    split at h
    · exact .plus (natural?_eq_some_iff.mp h)
    · exact .plain (natural?_eq_some_iff.mp h)
  · intro h
    cases h with
    | plus h => exact natural?_eq_some_iff.mpr h
    | plain h =>
        unfold unsigned?
        split
        case h_1 => exact absurd (h.isDigit '+' List.mem_cons_self) (by decide)
        case h_2 => exact natural?_eq_some_iff.mpr h

theorem word?_eq_some_iff {bits : Nat} {s : String} :
    word? bits s = some n ↔ Unsigned s.toList n ∧ n < twoTo bits := by
  rw [word?, Option.filter_eq_some_iff, unsigned?_eq_some_iff, decide_eq_true_iff]

/-- A numeral that may have a sign in front. -/
inductive Signed : List Char → Int → Prop where
  | unsigned {cs : List Char} {n : Nat} (h : Unsigned cs n) : Signed cs n
  | minus {cs : List Char} {n : Nat} (h : Denotes cs n) : Signed ('-' :: cs) (-n)

theorem Signed.isDigit_or {k : Int} (h : Signed cs k) :
    ∀ c ∈ cs, c = '+' ∨ c = '-' ∨ c.isDigit = true := by
  intro c hc
  cases h with
  | unsigned h => exact (h.isDigit_or c hc).imp_right .inr
  | minus h =>
      rcases List.mem_cons.mp hc with rfl | hc
      · exact .inr (.inl rfl)
      · exact .inr (.inr (h.isDigit c hc))

theorem signed?_eq_some_iff {k : Int} : signed? cs = some k ↔ Signed cs k := by
  constructor
  · intro h
    unfold signed? at h
    split at h
    · obtain ⟨_, hread, rfl⟩ := Option.map_eq_some_iff.mp h
      obtain ⟨n, hn, hcast⟩ := Option.bind_eq_some_iff.mp hread
      cases hcast
      exact .minus (natural?_eq_some_iff.mp hn)
    · obtain ⟨n, hn, rfl⟩ := Option.map_eq_some_iff.mp h
      exact .unsigned (unsigned?_eq_some_iff.mp hn)
  · intro h
    cases h with
    | minus h =>
        have hread := natural?_eq_some_iff.mpr h
        exact Option.map_eq_some_iff.mpr ⟨_, Option.bind_eq_some_iff.mpr ⟨_, hread, rfl⟩, rfl⟩
    | unsigned h =>
        unfold signed?
        split
        case h_1 =>
          rcases h.isDigit_or '-' List.mem_cons_self with hminus | hminus
          · exact absurd hminus (by decide)
          · exact absurd hminus (by decide)
        case h_2 => exact Option.map_eq_some_iff.mpr ⟨_, unsigned?_eq_some_iff.mpr h, rfl⟩

/-! ## Words -/

/-- The integer is one of a two's complement word of so many bits: the word that is made of it
denotes it again. -/
def Fits (bits : Nat) (k : Int) : Prop :=
  (BitVec.ofInt bits k).toInt = k

instance (bits : Nat) (k : Int) : Decidable (Fits bits k) :=
  inferInstanceAs (Decidable (_ = _))

theorem bmod_eq_self_iff {k : Int} {half : Nat} (hhalf : 0 < half) :
    k.bmod (half * 2) = k ↔ -(half : Int) ≤ k ∧ k < half := by
  constructor
  · intro h
    have hlow := Int.le_bmod (x := k) (m := half * 2) (by omega)
    have hhigh := Int.bmod_lt (x := k) (m := half * 2) (by omega)
    omega
  · intro h
    exact Int.bmod_eq_of_le (by omega) (by omega)

theorem inWord_iff {bits : Nat} {k : Int} (hbits : 0 < bits) :
    inWord bits k = true ↔ Fits bits k := by
  obtain ⟨bits, rfl⟩ := Nat.exists_eq_succ_of_ne_zero (Nat.ne_of_gt hbits)
  have hhalf : 0 < twoTo bits := Nat.pow_pos (by decide)
  have hword : (BitVec.ofInt (bits + 1) k).toInt = k.bmod (twoTo bits * 2) := BitVec.toInt_ofInt k
  rw [Fits, Nat.succ_eq_add_one, hword, bmod_eq_self_iff hhalf, inWord, Bool.and_eq_true,
    decide_eq_true_iff, decide_eq_true_iff, Nat.add_sub_cancel]

theorem twoTo_mono {n m : Nat} (h : n ≤ m) : twoTo n ≤ twoTo m :=
  Nat.pow_le_pow_right (by decide) h

/-- A wider word holds all that a narrower one holds. -/
theorem inWord_mono {bits wider : Nat} {k : Int} (hle : bits ≤ wider) (h : inWord bits k = true) :
    inWord wider k = true := by
  have hhalf : twoTo (bits - 1) ≤ twoTo (wider - 1) := twoTo_mono (by omega)
  rw [inWord, Bool.and_eq_true, decide_eq_true_iff, decide_eq_true_iff] at h ⊢
  omega

theorem signedWord?_eq_some_iff {bits : Nat} {s : String} {k : Int} :
    signedWord? bits s = some k ↔ Signed s.toList k ∧ inWord bits k = true := by
  rw [signedWord?, Option.filter_eq_some_iff, signed?_eq_some_iff]

/-! ## Writing -/

theorem isDigit_of_mem_digits : ∀ c ∈ digits n, c.isDigit = true :=
  fun _ hc => Nat.isDigit_of_mem_toDigits (by decide) (by decide) hc

theorem denotes_digits (n : Nat) : Denotes (digits n) n :=
  natural?_eq_some_iff.mp (natural?_digits n)

theorem isDigit_of_mem_padded {width : Nat} : ∀ c ∈ padded width n, c.isDigit = true := by
  intro c hc
  rcases List.mem_append.mp hc with hc | hc
  · obtain ⟨-, rfl⟩ := List.mem_replicate.mp hc
    rfl
  · exact isDigit_of_mem_digits c hc

/-- Zeros in front make no difference. -/
theorem denotes_padded (width n : Nat) : Denotes (padded width n) n := by
  have hne : padded width n ≠ [] := by
    rw [padded, ne_eq, List.append_eq_nil_iff]
    exact fun h => (denotes_digits n).ne_nil h.2
  have hvalue : Nat.ofDigitChars 10 (padded width n) 0 = n := by
    rw [padded, Nat.ofDigitChars_append, Nat.ofDigitChars_replicate_zero, Nat.mul_zero,
      (denotes_digits n).value]
  simpa only [hvalue] using denotes_ofDigitChars hne isDigit_of_mem_padded

theorem length_padded {width n : Nat} (hwidth : 0 < width) (h : n < tenTo width) :
    (padded width n).length = width := by
  have hdigits : (digits n).length ≤ width :=
    (Nat.length_toDigits_le_iff (by decide) hwidth).mpr h
  rw [padded, List.length_append, List.length_replicate]
  omega

theorem toList_text (n : Nat) : (text n).toList = digits n :=
  String.toList_ofList

/-- The text of an integer. -/
def signedText (k : Int) : String :=
  String.ofList (ofInt k)

theorem signed_ofInt (k : Int) : Signed (ofInt k) k := by
  have hdigits := denotes_digits k.natAbs
  rw [ofInt]
  split
  case isTrue hneg =>
    have hk : k = -(k.natAbs : Int) := by omega
    rw [hk, Int.natAbs_neg, Int.natAbs_natCast]
    exact .minus hdigits
  case isFalse hpos =>
    have hk : k = (k.natAbs : Int) := by omega
    rw [hk, Int.natAbs_natCast]
    exact .unsigned (.plain hdigits)

theorem ofInt_ne_nil (k : Int) : ofInt k ≠ [] := by
  rw [ofInt]
  split
  case isTrue => exact List.cons_ne_nil _ _
  case isFalse => exact (denotes_digits k.natAbs).ne_nil

theorem isDigit_or_of_mem_ofInt {k : Int} : ∀ c ∈ ofInt k, c = '-' ∨ c.isDigit = true := by
  intro c hc
  rw [ofInt] at hc
  split at hc
  case isTrue =>
    rcases List.mem_cons.mp hc with rfl | hc
    · exact .inl rfl
    · exact .inr (isDigit_of_mem_digits c hc)
  case isFalse => exact .inr (isDigit_of_mem_digits c hc)

end TableGateway.Numeral
