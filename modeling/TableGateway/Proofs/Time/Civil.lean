import Mathlib.Tactic.IntervalCases
import TableGateway.Time.Civil

/-! # Days and seconds in a row

Each day has the number after that of the day before it, across the ends of months and years. So
the universal time of a clock that is ahead lies so many seconds before what the clock shows. -/

namespace TableGateway

/-! ## Months -/

/-- The number of the first day of a month. -/
def monthStart (year : Int) (month : Nat) : Int :=
  let shifted := if month ≤ 2 then year - 1 else year
  let place : Int := if month ≤ 2 then month + 9 else month - 3
  365 * shifted + shifted / 4 - shifted / 100 + shifted / 400 + (153 * place + 2) / 5

theorem month_bounds_of_daysInMonth {year : Int} {month : Nat} (h : 0 < daysInMonth year month) :
    1 ≤ month ∧ month ≤ 12 := by
  unfold daysInMonth at h
  split at h <;> omega

theorem daysInMonth_pos {year : Int} {month : Nat} (hlow : 1 ≤ month) (hhigh : month ≤ 12) :
    0 < daysInMonth year month := by
  by_cases hmonth : month = 2
  · cases hleap : isLeapYear year <;> simp [hmonth, daysInMonth, hleap]
  · interval_cases month <;> simp [daysInMonth] at hmonth ⊢

theorem monthStart_succ {year : Int} {month : Nat} (hlow : 1 ≤ month) (hhigh : month ≤ 11) :
    monthStart year (month + 1) = monthStart year month + daysInMonth year month := by
  -- Only February has a length that depends on the year.
  by_cases hmonth : month = 2
  · subst hmonth
    simp only [monthStart, daysInMonth, isLeapYear, Bool.and_eq_true, Bool.or_eq_true,
      decide_eq_true_eq]
    split <;> norm_num <;> omega
  · interval_cases month <;> simp [monthStart, daysInMonth] <;> omega

theorem monthStart_january (year : Int) :
    monthStart (year + 1) 1 = monthStart year 12 + daysInMonth year 12 := by
  simp [monthStart, daysInMonth]
  omega

/-! ## Days -/

namespace Date

theorem month_bounds (d : Date) : 1 ≤ d.month ∧ d.month ≤ 12 :=
  month_bounds_of_daysInMonth (Nat.lt_of_lt_of_le d.day_bounds.1 d.day_bounds.2)

theorem dayNumber_eq (d : Date) : d.dayNumber = monthStart d.year d.month + d.day - 1 := rfl

theorem ofParts?_eq_some_iff {year : Int} {month day : Nat} {d : Date} :
    ofParts? year month day = some d ↔ d.year = year ∧ d.month = month ∧ d.day = day := by
  constructor
  · intro h
    simp only [ofParts?, Option.dite_none_right_eq_some, Option.some.injEq] at h
    obtain ⟨_, _, rfl⟩ := h
    exact ⟨rfl, rfl, rfl⟩
  · rintro ⟨rfl, rfl, rfl⟩
    simp only [ofParts?, d.year_bounds, d.day_bounds, and_self, dite_true]

theorem ofParts?_eq_none_iff {year : Int} {month day : Nat} :
    ofParts? year month day = none ↔
      ¬((minYear ≤ year ∧ year ≤ maxYear) ∧ 1 ≤ day ∧ day ≤ daysInMonth year month) := by
  rw [ofParts?]
  split
  case isTrue hyear =>
    split
    case isTrue hday => simp [hyear, hday]
    case isFalse hday => simp [hday]
  case isFalse hyear => simp [hyear]

theorem exists_ofParts? {year : Int} {month day : Nat} (hyear : minYear ≤ year ∧ year ≤ maxYear)
    (hday : 1 ≤ day ∧ day ≤ daysInMonth year month) : ∃ d, ofParts? year month day = some d :=
  ⟨⟨year, month, day, hyear, hday⟩, ofParts?_eq_some_iff.mpr ⟨rfl, rfl, rfl⟩⟩

theorem exists_next {d : Date} (h : d.year < maxYear) : ∃ e, d.next? = some e := by
  have hyear := d.year_bounds
  obtain ⟨newYear, hnew⟩ := @exists_ofParts? (d.year + 1) 1 1 (by omega)
    (by simp [daysInMonth])
  rw [← Option.isSome_iff_exists, next?, hnew]
  simp

theorem exists_previous {d : Date} (h : minYear < d.year) : ∃ e, d.previous? = some e := by
  have hyear := d.year_bounds
  have hmonth := d.month_bounds
  have hday := d.day_bounds
  unfold previous?
  split
  case isTrue hlater => exact exists_ofParts? hyear (by omega)
  case isFalse =>
    split
    case isTrue hlater =>
      have hpos := @daysInMonth_pos d.year (d.month - 1) (by omega) (by omega)
      exact exists_ofParts? hyear ⟨hpos, Nat.le_refl _⟩
    case isFalse => exact exists_ofParts? (by omega) (by simp [daysInMonth])

theorem dayNumber_next {d e : Date} (h : d.next? = some e) : e.dayNumber = d.dayNumber + 1 := by
  have hmonth := d.month_bounds
  have hday := d.day_bounds
  have hyear := d.year_bounds
  simp only [next?, Option.or_eq_some_iff, ofParts?_eq_some_iff, ofParts?_eq_none_iff] at h
  rw [dayNumber_eq, dayNumber_eq]
  rcases h with ⟨hy, hm, hd⟩ | ⟨hlast, ⟨hy, hm, hd⟩ | ⟨hdecember, hy, hm, hd⟩⟩
  · rw [hy, hm, hd]
    omega
  · have hstart : d.month ≤ 11 := by
      have := e.month_bounds
      omega
    rw [hy, hm, hd, monthStart_succ hmonth.1 hstart]
    omega
  · have htwelve : d.month = 12 := by
      by_contra hne
      have hpos := @daysInMonth_pos d.year (d.month + 1) (by omega) (by omega)
      exact hdecember ⟨hyear, by omega, by omega⟩
    rw [hy, hm, hd, htwelve, monthStart_january]
    rw [htwelve] at hlast hday
    omega

theorem dayNumber_previous {d e : Date} (h : d.previous? = some e) :
    e.dayNumber = d.dayNumber - 1 := by
  have hmonth := d.month_bounds
  have hday := d.day_bounds
  rw [dayNumber_eq, dayNumber_eq]
  unfold previous? at h
  split at h
  case isTrue hlater =>
    obtain ⟨hy, hm, hd⟩ := ofParts?_eq_some_iff.mp h
    rw [hy, hm, hd]
    omega
  case isFalse hfirst =>
    split at h
    case isTrue hlater =>
      obtain ⟨hy, hm, hd⟩ := ofParts?_eq_some_iff.mp h
      have hstep := @monthStart_succ d.year (d.month - 1) (by omega) (by omega)
      rw [Nat.sub_add_cancel hmonth.1] at hstep
      rw [hy, hm, hd]
      omega
    case isFalse hjanuary =>
      obtain ⟨hy, hm, hd⟩ := ofParts?_eq_some_iff.mp h
      have hone : d.month = 1 := by omega
      have hstep := monthStart_january (d.year - 1)
      have hdays : daysInMonth (d.year - 1) 12 = 31 := rfl
      rw [Int.sub_add_cancel] at hstep
      rw [hy, hm, hd, hone]
      omega

end Date

/-! ## Seconds -/

namespace TimeOfDay

theorem seconds_ofSeconds (seconds nanosecond : Nat) :
    (ofSeconds seconds nanosecond).seconds = seconds := by
  simp only [ofSeconds, TimeOfDay.seconds]
  omega

theorem seconds_lt_of_ofParts? {hour minute second nanosecond : Nat} {t : TimeOfDay}
    (h : ofParts? hour minute second nanosecond = some t) : t.seconds < 86400 := by
  simp only [ofParts?, Option.ite_none_right_eq_some] at h
  obtain ⟨hbounds, h⟩ := h
  split at h
  case isTrue =>
    cases h
    simp only [seconds]
    omega
  case isFalse =>
    obtain ⟨_, h⟩ := Option.ite_none_right_eq_some.mp h
    cases h
    simp only [seconds]
    omega

end TimeOfDay

namespace DateTime

/-- The whole seconds since the start of the year 2000. -/
def secondsSince2000 (t : DateTime) : Int :=
  t.date.daysSince2000 * 86400 + t.time.seconds

theorem exists_toUniversal? {l : DateTime} (hlow : minYear < l.date.year)
    (hhigh : l.date.year < maxYear) (ahead : Int) : ∃ t, l.toUniversal? ahead = some t := by
  obtain ⟨before, hbefore⟩ := Date.exists_previous hlow
  obtain ⟨after, hafter⟩ := Date.exists_next hhigh
  rw [← Option.isSome_iff_exists, toUniversal?, Option.isSome_map, hbefore, hafter]
  split
  case isTrue => rfl
  case isFalse => split <;> rfl

/-- A clock that is ahead by less than a day shows universal time and the seconds that it is
ahead. -/
theorem secondsSince2000_toUniversal? {l t : DateTime} {ahead : Int}
    (htime : l.time.seconds < 86400) (hlow : -86400 < ahead) (hhigh : ahead < 86400)
    (h : l.toUniversal? ahead = some t) :
    t.secondsSince2000 = l.secondsSince2000 - ahead ∧ t.time.nanosecond = l.time.nanosecond := by
  simp only [toUniversal?, Option.map_eq_some_iff] at h
  obtain ⟨date, hdate, rfl⟩ := h
  refine ⟨?_, rfl⟩
  simp only [secondsSince2000, Date.daysSince2000, TimeOfDay.seconds_ofSeconds]
  split at hdate
  case isTrue hbefore =>
    rw [Date.dayNumber_previous hdate]
    omega
  case isFalse =>
    split at hdate
    case isTrue hafter =>
      rw [Date.dayNumber_next hdate]
      omega
    case isFalse =>
      cases hdate
      omega

end DateTime

end TableGateway
