import TableGateway.Proofs.Time.Civil
import TableGateway.Proofs.Time.FreeForm
import TableGateway.Time.Writing

/-! # Written times are read back

A universal time is read back from its text to the nanosecond, in any year of the calendar. -/

namespace TableGateway

open TimeReading

variable {rest : List Char} {d : Date} {t : TimeOfDay} {n : Nat}

/-! ## Dates -/

namespace TimeReading

theorem field_padded {width : Nat} (hwidth : 0 < width) (h : n < tenTo width) :
    Field width width (Numeral.padded width n) n :=
  ⟨Numeral.denotes_padded width n, (Numeral.length_padded hwidth h).ge,
    (Numeral.length_padded hwidth h).le⟩

theorem freeYear_yearChars (year : Int) : FreeYear (yearChars year) year := by
  have hdenotes := Numeral.denotes_padded 4 year.natAbs
  unfold yearChars
  split
  case isTrue hneg =>
    have hminus := @FreeYear.minus [] _ _ nofun hdenotes
    rwa [Int.ofNat_natAbs_of_nonpos hneg.le, neg_neg] at hminus
  case isFalse hnonneg =>
    have habs : (year.natAbs : Int) = year := Int.natAbs_of_nonneg (Int.not_lt.mp hnonneg)
    split
    case isTrue =>
      have hplus := @FreeYear.plus [] _ _ nofun hdenotes
      rwa [habs] at hplus
    case isFalse hle =>
      have hfield : Field 4 4 (Numeral.padded 4 year.natAbs) year.natAbs :=
        field_padded (by decide) (by change _ < 10000; omega)
      have hplain := FreeYear.plain (hfield.mono (show 1 ≤ 4 by decide)).padded
      rwa [habs] at hplain

theorem blanks_cons {c : Char} (h : Text.isBlank c = false) (cs : List Char) :
    blanks (c :: cs) = some ((), c :: cs) := by
  rw [blanks, List.dropWhile_cons_of_neg (by simp [h])]

theorem shortNumber_padded (h : n < 100) (rest : List Char) :
    shortNumber (Numeral.padded 2 n ++ rest) = some (n, rest) :=
  shortNumber_append (.inl (field_padded (by decide) h).padded)

theorem day_le (d : Date) : d.day ≤ 31 := by
  refine d.day_bounds.2.trans ?_
  unfold daysInMonth
  split
  case h_12 => split <;> decide
  all_goals decide

theorem noDigit_hyphen (cs : List Char) : NoDigit ('-' :: cs) :=
  noDigit_cons (by decide)

theorem freeDate_chars (d : Date) (rest : List Char) :
    freeDate blanks (d.chars ++ rest) = some (d, rest) := by
  have hmonth : d.month < 100 := by
    have := d.month_bounds
    omega
  have hday : d.day < 100 := by
    have := day_le d
    omega
  have hdate : Date.ofParts? d.year d.month d.day = some d :=
    Date.ofParts?_eq_some_iff.mpr ⟨rfl, rfl, rfl⟩
  have hgap : ∀ cs, blanks ('-' :: cs) = some ((), '-' :: cs) := blanks_cons (by decide)
  simp only [Date.chars, List.append_assoc, List.cons_append]
  simp only [freeDate, freeYear_append (freeYear_yearChars d.year) (noDigit_hyphen _), hgap,
    literal_cons, shortNumber_padded hmonth, shortNumber_padded hday, hdate,
    Option.bind_eq_bind, Option.bind_some, Option.pure_def]

/-! ## Times of day -/

theorem fractionText_fractionChars (t : TimeOfDay) :
    FractionText t.fractionChars t.writtenNanosecond := by
  have hlt : t.writtenNanosecond < 1000000000 := Nat.mod_lt _ (by decide)
  unfold TimeOfDay.fractionChars
  simp only
  generalize t.writtenNanosecond = n at hlt
  have hpoint : ∀ {width k : Nat}, 0 < width → width ≤ 9 → k < tenTo width →
      FractionText ('.' :: Numeral.padded width k) (k * tenTo (9 - width)) := by
    intro width k hpos hle hk
    have hfield : Field 1 9 (Numeral.padded width k) k := by
      have hfull := field_padded hpos hk
      exact ⟨hfull.denotes, hpos.trans_le hfull.least_le, hfull.le_most.trans hle⟩
    have hfraction := FractionText.point hfield (List.forall_mem_nil _) (.inr rfl)
    rwa [List.append_nil, Numeral.length_padded hpos hk] at hfraction
  split
  case isTrue hzero =>
    rw [hzero]
    exact .none
  case isFalse =>
    split
    case isTrue hmillis =>
      have hfraction := @hpoint 3 (n / 1000000) (by decide) (by decide) (by change _ < 1000; omega)
      rwa [show tenTo (9 - 3) = 1000000 from rfl,
        Nat.div_mul_cancel (Nat.dvd_of_mod_eq_zero hmillis)] at hfraction
    case isFalse =>
      split
      case isTrue hmicros =>
        have hfraction := @hpoint 6 (n / 1000) (by decide) (by decide)
          (by change _ < 1000000; omega)
        rwa [show tenTo (9 - 6) = 1000 from rfl,
          Nat.div_mul_cancel (Nat.dvd_of_mod_eq_zero hmicros)] at hfraction
      case isFalse =>
        have hfraction := @hpoint 9 n (by decide) (by decide) hlt
        rwa [show tenTo (9 - 9) = 1 from rfl, Nat.mul_one] at hfraction

end TimeReading

/-- A time that a clock shows. Only behind the last second of a minute do the nanoseconds go on. -/
structure TimeOfDay.IsShown (t : TimeOfDay) : Prop where
  hour : t.hour < 24
  minute : t.minute < 60
  second : t.second < 60
  nanosecond : t.nanosecond < 1000000000 ∨ t.second = 59 ∧ t.nanosecond < 2000000000

namespace TimeOfDay.IsShown

theorem writtenSecond_lt (h : t.IsShown) : t.writtenSecond < 100 := by
  have hsecond := h.second
  unfold writtenSecond
  split <;> omega

/-- A time is made again of what is written for it. -/
theorem ofParts?_written (h : t.IsShown) :
    ofParts? t.hour t.minute t.writtenSecond t.writtenNanosecond = some t := by
  have hwritten : t.writtenNanosecond < 1000000000 := Nat.mod_lt _ (by decide)
  rw [ofParts?, if_pos ⟨h.hour, h.minute, hwritten⟩]
  rcases h.nanosecond with hlt | ⟨hsecond, hlt⟩
  · rw [writtenSecond, if_pos hlt, if_pos h.second, writtenNanosecond, Nat.mod_eq_of_lt hlt]
  · by_cases hshort : t.nanosecond < 1000000000
    · rw [writtenSecond, if_pos hshort, if_pos h.second, writtenNanosecond,
        Nat.mod_eq_of_lt hshort]
    · have hnanosecond : t.writtenNanosecond + 1000000000 = t.nanosecond := by
        unfold writtenNanosecond
        omega
      have hleap : t.second + 1 = 60 := congrArg (· + 1) hsecond
      rw [writtenSecond, if_neg hshort, hleap, if_neg (by decide), if_pos rfl, hnanosecond,
        ← hsecond]

theorem seconds_lt (h : t.IsShown) : t.seconds < 86400 := by
  have hhour := h.hour
  have hminute := h.minute
  have hsecond := h.second
  unfold seconds
  omega

theorem ofSeconds_seconds (h : t.IsShown) : ofSeconds t.seconds t.nanosecond = t := by
  have hminute := h.minute
  have hsecond := h.second
  have hparts : t.seconds / 3600 = t.hour ∧ t.seconds / 60 % 60 = t.minute ∧
      t.seconds % 60 = t.second := by
    unfold seconds
    omega
  obtain ⟨hhours, hminutes, hseconds⟩ := hparts
  rw [ofSeconds, hhours, hminutes, hseconds]

end TimeOfDay.IsShown

namespace TimeReading

theorem freeTime_chars (h : t.IsShown) (hpoint : '.' ∉ rest.head?) (hend : NoDigit rest) :
    freeTime blanks (t.chars ++ (t.fractionChars ++ rest)) = some (t, rest) := by
  have hgap : ∀ cs, blanks (':' :: cs) = some ((), ':' :: cs) := blanks_cons (by decide)
  have hfraction := fraction_append (fractionText_fractionChars t) hpoint hend
  have hhour := h.hour.trans (show 24 < 100 by decide)
  have hminute := h.minute.trans (show 60 < 100 by decide)
  simp only [TimeOfDay.chars, List.append_assoc, List.cons_append]
  simp only [freeTime, hgap, literal_cons, shortNumber_padded hhour, shortNumber_padded hminute,
    shortNumber_padded h.writtenSecond_lt, hfraction, h.ofParts?_written,
    Option.bind_eq_bind, Option.bind_some, Option.pure_def]

end TimeReading

/-! ## Whole texts -/

namespace DateTime

variable {t : DateTime}

theorem toUniversal?_zero (h : t.time.IsShown) : t.toUniversal? 0 = some t := by
  have hlt := h.seconds_lt
  have hearly : ¬(t.time.seconds : Int) - 0 < 0 := by omega
  have hlate : ¬86400 ≤ (t.time.seconds : Int) - 0 := by omega
  have hmod : (((t.time.seconds : Int) - 0) % 86400).toNat = t.time.seconds := by omega
  simp only [toUniversal?, if_neg hearly, if_neg hlate, hmod, h.ofSeconds_seconds,
    Option.map_some]

/-- A time is read back from its text. -/
theorem ofRelaxedInternet?_internetText (h : t.time.IsShown) :
    ofRelaxedInternet? t.internetText = some t := by
  have hdate := freeDate_chars t.date
    ('T' :: (t.time.chars ++ (t.time.fractionChars ++ ['Z'])))
  have htime := @freeTime_chars ['Z'] _ h (by decide) (noDigit_cons (by decide))
  have hnil : blanks [] = some ((), []) := rfl
  rw [ofRelaxedInternet?, whole?_eq_some_iff, internetText, String.toList_ofList]
  simp only [List.append_assoc, List.cons_append]
  simp only [relaxedInternet, hdate, htime, internetSeparator, relaxedZone, zone, hnil,
    blanks_cons (show Text.isBlank 'Z' = false by decide), toUniversal?_zero h,
    Option.bind_eq_bind, Option.bind_some, Option.pure_def]

end DateTime

end TableGateway
