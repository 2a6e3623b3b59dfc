import TableGateway.Proofs.Result
import TableGateway.Proofs.Time.Civil
import TableGateway.Proofs.Time.FreeForm

/-! # Dates and times in the Internet format

A text in the Internet format is a local time and an offset. No text is also one in the free form:
the offset has a mark more than times of day have. -/

namespace TableGateway.TimeReading

open Numeral (Denotes)

variable {cs ds rest text offset : List Char} {n least most : Nat} {separator : Char}
variable {l t : DateTime} {ahead : Int}

/-! ## Parts -/

/-- A date and a time in fields of fixed width with a separator between them. -/
inductive LocalText (separator : Char) : List Char → DateTime → Prop where
  | mk {ds ts : List Char} {d : Date} {t : TimeOfDay}
      (hdate : DateText FixedYear (Field 2 2) (Field 2 2) ds d)
      (htime : TimeText (Field 2 2) ts t) : LocalText separator (ds ++ separator :: ts) ⟨d, t⟩

/-- Hours and minutes with a colon between them, and how many seconds they are. -/
inductive ClockText : List Char → Int → Prop where
  | mk {hs ms : List Char} {h m : Nat} (hhours : Field 2 2 hs h) (hminutes : Field 2 2 ms m)
      (hlt : h < 24 ∧ m < 60) : ClockText (hs ++ ':' :: ms) (h * 3600 + m * 60)

/-- How far a clock is ahead of universal time: a `Z` for nothing, or a signed clock. -/
inductive OffsetText : List Char → Int → Prop where
  | universal {c : Char} (hc : c = 'Z' ∨ c = 'z') : OffsetText [c] 0
  | ahead {text : List Char} {k : Int} (h : ClockText text k) : OffsetText ('+' :: text) k
  | behind {c : Char} {text : List Char} {k : Int} (hc : c = '-' ∨ c = '\u2212')
      (h : ClockText text k) : OffsetText (c :: text) (-k)

theorem OffsetText.bounds (h : OffsetText text ahead) :
    -86400 < ahead ∧ ahead < 86400 := by
  cases h with
  | universal => decide
  | ahead h =>
      cases h with
      | mk _ _ hlt => omega
  | behind _ h =>
      cases h with
      | mk _ _ hlt => omega

theorem OffsetText.head (h : OffsetText text ahead) :
    '.' ∉ text.head? ∧ NoDigit text := by
  have hmarks : ∀ c ∈ ['Z', 'z', '+', '-', '\u2212'], c ≠ '.' ∧ c.isDigit = false := by
    simp
  obtain ⟨c, tail, rfl, hc⟩ : ∃ c tail, text = c :: tail ∧ c ∈ ['Z', 'z', '+', '-', '\u2212'] := by
    cases h with
    | universal hc => rcases hc with rfl | rfl <;> exact ⟨_, [], rfl, by decide⟩
    | ahead => exact ⟨_, _, rfl, by simp⟩
    | behind hc => rcases hc with rfl | rfl <;> exact ⟨_, _, rfl, by decide⟩
  exact ⟨fun hpoint => (hmarks c hc).1 (Option.some.inj hpoint), noDigit_cons (hmarks c hc).2⟩

/-- What is read behind the sign of an offset. -/
def clock (negative : Bool) (cs : List Char) : Option (Int × List Char) := do
  let (hours, cs) ← number 2 2 cs
  let ((), cs) ← literal ':' cs
  let (minutes, cs) ← number 2 2 cs
  if hours < 24 ∧ minutes < 60 then
    let seconds : Int := hours * 3600 + minutes * 60
    some (if negative then -seconds else seconds, cs)
  else none

theorem clock_eq_some_iff (negative : Bool) :
    clock negative cs = some (ahead, []) ↔
      ∃ k, ClockText cs k ∧ ahead = if negative then -k else k := by
  simp only [clock, Option.bind_eq_bind, Option.bind_eq_some_iff, Prod.exists, literal_eq_some_iff,
    Option.ite_none_right_eq_some, Option.some.injEq, Prod.mk.injEq]
  constructor
  · rintro ⟨h, _, hh, _, _, rfl, m, _, hm, hlt, rfl, rfl⟩
    obtain ⟨hs, rfl, hhours⟩ := exists_of_number_full (by decide) hh
    obtain ⟨ms, rfl, hminutes⟩ := exists_of_number_full (by decide) hm
    rw [List.append_nil]
    exact ⟨_, .mk hhours hminutes hlt, rfl⟩
  · rintro ⟨_, ⟨hhours, hminutes, hlt⟩, rfl⟩
    have hread := @number_full _ [] _ _ hminutes
    rw [List.append_nil] at hread
    exact ⟨_, _, number_full hhours, (), _, rfl, _, _, hread, hlt, rfl, rfl⟩

theorem zone_eq_some_iff :
    zone (literal ':') cs = some (ahead, []) ↔ OffsetText cs ahead := by
  constructor
  · intro h
    unfold zone at h
    split at h
    case h_1 =>
      cases h
      exact .universal (.inl rfl)
    case h_2 =>
      cases h
      exact .universal (.inr rfl)
    case h_3 =>
      unfold clockOffset at h
      split at h
      case h_1 cs =>
        obtain ⟨k, hk, rfl⟩ := (clock_eq_some_iff false).mp h
        exact .ahead hk
      case h_2 cs =>
        obtain ⟨k, hk, rfl⟩ := (clock_eq_some_iff true).mp h
        exact .behind (.inl rfl) hk
      case h_3 cs =>
        obtain ⟨k, hk, rfl⟩ := (clock_eq_some_iff true).mp h
        exact .behind (.inr rfl) hk
      case h_4 => cases h
  · intro h
    cases h with
    | universal hc => rcases hc with rfl | rfl <;> rfl
    | ahead h => exact (clock_eq_some_iff false).mpr ⟨_, h, rfl⟩
    | behind hc h =>
        rcases hc with rfl | rfl
        · exact (clock_eq_some_iff true).mpr ⟨_, h, rfl⟩
        · exact (clock_eq_some_iff true).mpr ⟨_, h, rfl⟩

/-- What may stand between a date and a time. -/
def IsSeparator (c : Char) : Prop :=
  c = 'T' ∨ c = 't' ∨ c = ' '

theorem internetSeparator_eq_some_iff :
    internetSeparator cs = some ((), rest) ↔ ∃ c, IsSeparator c ∧ cs = c :: rest := by
  constructor
  · intro h
    unfold internetSeparator at h
    split at h
    case h_1 =>
      cases h
      exact ⟨'T', .inl rfl, rfl⟩
    case h_2 =>
      cases h
      exact ⟨'t', .inr (.inl rfl), rfl⟩
    case h_3 =>
      cases h
      exact ⟨' ', .inr (.inr rfl), rfl⟩
    case h_4 => cases h
  · rintro ⟨c, rfl | rfl | rfl, rfl⟩
    · rfl
    · rfl
    · rfl

theorem exists_of_number_bind {α : Type} {f : Nat × List Char → Option α} {a : α} (most : Nat)
    (hmost : 0 < most) (h : (number most most cs >>= f) = some a) :
    ∃ ds n rest, cs = ds ++ rest ∧ Field most most ds n ∧ f (n, rest) = some a := by
  obtain ⟨⟨n, rest⟩, hread, hf⟩ := Option.bind_eq_some_iff.mp h
  obtain ⟨ds, hcs, hds⟩ := exists_of_number_full hmost hread
  exact ⟨ds, n, rest, hcs, hds, hf⟩

theorem exists_of_literal_bind {α : Type} {c : Char} {f : Unit × List Char → Option α} {a : α}
    (h : (literal c cs >>= f) = some a) : ∃ rest, cs = c :: rest ∧ f ((), rest) = some a := by
  obtain ⟨⟨_, rest⟩, hread, hf⟩ := Option.bind_eq_some_iff.mp h
  exact ⟨rest, literal_eq_some_iff.mp hread, hf⟩

/-- A local time and an offset, for the universal time that they give. -/
inductive InternetText : List Char → DateTime → Prop where
  | mk {separator : Char} {text offset : List Char} {l t : DateTime} {ahead : Int}
      (hseparator : IsSeparator separator) (hlocal : LocalText separator text l)
      (hoffset : OffsetText offset ahead) (hshift : l.toUniversal? ahead = some t) :
      InternetText (text ++ offset) t

theorem internetText_of_internet (h : internet cs = some (t, [])) : InternetText cs t := by
  obtain ⟨ys, y, _, rfl, hyear, h⟩ := exists_of_number_bind 4 (by decide) h
  obtain ⟨_, rfl, h⟩ := exists_of_literal_bind h
  obtain ⟨ms, m, _, rfl, hmonth, h⟩ := exists_of_number_bind 2 (by decide) h
  obtain ⟨_, rfl, h⟩ := exists_of_literal_bind h
  obtain ⟨ds, d, _, rfl, hday, h⟩ := exists_of_number_bind 2 (by decide) h
  obtain ⟨⟨_, _⟩, hmark, hclock⟩ := Option.bind_eq_some_iff.mp h
  obtain ⟨separator, hseparator, rfl⟩ := internetSeparator_eq_some_iff.mp hmark
  obtain ⟨hours, hour, _, rfl, hhour, h⟩ := exists_of_number_bind 2 (by decide) hclock
  obtain ⟨_, rfl, h⟩ := exists_of_literal_bind h
  obtain ⟨minutes, minute, _, rfl, hminute, h⟩ := exists_of_number_bind 2 (by decide) h
  obtain ⟨_, rfl, h⟩ := exists_of_literal_bind h
  obtain ⟨seconds, second, _, rfl, hsecond, h⟩ := exists_of_number_bind 2 (by decide) h
  obtain ⟨⟨f, _⟩, hpoint, hend⟩ := Option.bind_eq_some_iff.mp h
  obtain ⟨point, rfl, hfraction⟩ := exists_of_fraction hpoint
  obtain ⟨⟨ahead, _⟩, hzone, hend⟩ := Option.bind_eq_some_iff.mp hend
  obtain ⟨date, hdate, hend⟩ := Option.bind_eq_some_iff.mp hend
  obtain ⟨time, htime, hend⟩ := Option.bind_eq_some_iff.mp hend
  obtain ⟨_, hshift, hend⟩ := Option.bind_eq_some_iff.mp hend
  cases hend
  have hlocal : LocalText separator _ ⟨date, time⟩ :=
    .mk (.mk (.mk hyear) hmonth hday hdate) (.mk hhour hminute hsecond hfraction htime)
  have htext := InternetText.mk hseparator hlocal (zone_eq_some_iff.mp hzone) hshift
  simpa only [List.append_assoc, List.cons_append] using htext

theorem internet_append (hseparator : IsSeparator separator) (hlocal : LocalText separator text l)
    (hoffset : OffsetText offset ahead) :
    internet (text ++ offset) = (l.toUniversal? ahead).map fun t => (t, []) := by
  obtain ⟨⟨⟨hyear⟩, hmonth, hday, hdate⟩, ⟨hhour, hminute, hsecond, hfraction, htime⟩⟩ := hlocal
  have hpoint := fraction_append hfraction hoffset.head.1 hoffset.head.2
  simp only [List.append_assoc, List.cons_append]
  refine (bind_of_eq (number_full hyear)).trans ?_
  refine (bind_of_eq (literal_cons _ _)).trans ?_
  refine (bind_of_eq (number_full hmonth)).trans ?_
  refine (bind_of_eq (literal_cons _ _)).trans ?_
  refine (bind_of_eq (number_full hday)).trans ?_
  refine (bind_of_eq (internetSeparator_eq_some_iff.mpr ⟨separator, hseparator, rfl⟩)).trans ?_
  refine (bind_of_eq (number_full hhour)).trans ?_
  refine (bind_of_eq (literal_cons _ _)).trans ?_
  refine (bind_of_eq (number_full hminute)).trans ?_
  refine (bind_of_eq (literal_cons _ _)).trans ?_
  refine (bind_of_eq (number_full hsecond)).trans ?_
  refine (bind_of_eq hpoint).trans ?_
  refine (bind_of_eq (zone_eq_some_iff.mpr hoffset)).trans ?_
  refine (bind_of_eq hdate).trans ((bind_of_eq htime).trans ?_)
  exact Option.map_eq_bind.symm

theorem ofInternet?_eq_some_iff {s : String} :
    DateTime.ofInternet? s = some t ↔ InternetText s.toList t := by
  rw [DateTime.ofInternet?, whole?_eq_some_iff]
  generalize s.toList = cs
  constructor
  · exact internetText_of_internet
  · rintro ⟨hseparator, hlocal, hoffset, hshift⟩
    rw [internet_append hseparator hlocal hoffset, hshift, Option.map_some]

/-! ## The forms exclude each other -/

/-- The characters that only times of day and offsets have. -/
def isMark (c : Char) : Bool :=
  c == ':' || c == 'Z' || c == 'z'

/-- How many marks there are. -/
def marks (cs : List Char) : Nat :=
  cs.countP isMark

theorem marks_append (cs ds : List Char) : marks (cs ++ ds) = marks cs + marks ds :=
  List.countP_append

theorem marks_cons (c : Char) (cs : List Char) :
    marks (c :: cs) = marks cs + if isMark c then 1 else 0 :=
  List.countP_cons

theorem marks_eq_zero (h : ∀ c ∈ cs, Text.isBlank c = true ∨ c.isDigit = true) : marks cs = 0 := by
  have hplain : ∀ c ∈ [':', 'Z', 'z'], ¬(Text.isBlank c = true ∨ c.isDigit = true) := by
    simp [Text.isBlank]
  refine List.countP_eq_zero.mpr fun c hc hmark => ?_
  simp only [isMark, Bool.or_eq_true, beq_iff_eq, or_assoc] at hmark
  exact hplain c (by simpa using hmark) (h c hc)

theorem marks_denotes (h : Denotes ds n) : marks ds = 0 :=
  marks_eq_zero fun c hc => .inr (h.isDigit c hc)

theorem marks_padded (h : Padded least most text n) : marks text = 0 := by
  obtain ⟨hblanks, hds⟩ := h
  rw [marks_append, marks_denotes hds.denotes, marks_eq_zero fun c hc => .inl (hblanks c hc)]

theorem marks_fraction (h : FractionText text n) : marks text = 0 := by
  cases h with
  | none => rfl
  | point hcounted hfurther =>
      rw [marks_cons, marks_append, marks_denotes hcounted.denotes,
        marks_eq_zero fun c hc => .inr (hfurther c hc)]
      rfl

theorem marks_freeYear {year : Int} (h : FreeYear text year) : marks text = 0 := by
  cases h with
  | plain h => exact marks_padded h
  | plus hblanks h =>
      rw [marks_append, marks_cons, marks_denotes h, marks_eq_zero fun c hc => .inl (hblanks c hc)]
      rfl
  | minus hblanks h =>
      rw [marks_append, marks_cons, marks_denotes h, marks_eq_zero fun c hc => .inl (hblanks c hc)]
      rfl

theorem marks_date {date : Date} (h : DateText FreeYear (Padded 1 2) (Padded 1 2) text date) :
    marks text = 0 := by
  obtain ⟨hyear, hmonth, hday, -⟩ := h
  simp only [marks_append, marks_cons, marks_freeYear hyear, marks_padded hmonth,
    marks_padded hday]
  rfl

theorem marks_time {time : TimeOfDay} (h : TimeText (Padded 1 2) text time) : marks text = 2 := by
  obtain ⟨hhour, hminute, hsecond, hfraction, -⟩ := h
  simp only [marks_append, marks_cons, marks_padded hhour, marks_padded hminute,
    marks_padded hsecond, marks_fraction hfraction]
  rfl

theorem marks_civil (h : CivilText text t) : marks text = 2 := by
  cases h with
  | marked hdate htime =>
      rw [marks_append, marks_cons, marks_date hdate, marks_time htime]
      rfl
  | joined hdate htime =>
      rw [marks_append, marks_date (hdate.elim .loosen And.left), marks_time htime]

theorem marks_offset (h : OffsetText text ahead) : marks text = 1 := by
  have hclock : ∀ {text k}, ClockText text k → marks text = 1 := by
    rintro _ _ ⟨hhours, hminutes, -⟩
    rw [marks_append, marks_cons, marks_denotes hhours.denotes, marks_denotes hminutes.denotes]
    rfl
  cases h with
  | universal hc => rcases hc with rfl | rfl <;> rfl
  | ahead h =>
      rw [marks_cons, hclock h]
      rfl
  | behind hc h =>
      rw [marks_cons, hclock h]
      rcases hc with rfl | rfl <;> rfl

theorem LocalText.date_time (h : LocalText separator text l) :
    ∃ ds ts, text = ds ++ separator :: ts ∧
      DateText FreeYear (Padded 1 2) (Padded 1 2) ds l.date ∧ TimeText (Padded 1 2) ts l.time := by
  obtain ⟨hdate, ⟨hhour, hminute, hsecond, hfraction, htime⟩⟩ := h
  have hloose : ∀ {cs n}, Field 2 2 cs n → Padded 1 2 cs n := fun h => (h.mono (by decide)).padded
  refine ⟨_, _, rfl, hdate.mono ?_ (fun _ _ => hloose) fun _ _ => hloose,
    .mk (hloose hhour) (hloose hminute) (hloose hsecond) hfraction htime⟩
  rintro _ _ ⟨hyear⟩
  exact .plain (hyear.mono (by decide)).padded

/-- Without its offset a text in the Internet format is one in the free form, unless the separator
is a small letter. -/
theorem LocalText.civil (hseparator : separator = 'T' ∨ separator = ' ')
    (h : LocalText separator text l) : CivilText text l := by
  obtain ⟨ds, ts, rfl, hdate, htime⟩ := h.date_time
  rcases hseparator with rfl | rfl
  · exact .marked hdate htime
  · have hgap : TimeText (Padded 1 2) (' ' :: ts) l.time := by
      generalize l.time = time at htime
      obtain ⟨⟨hblanks, hhour⟩, hminute, hsecond, hfraction, htime⟩ := htime
      have hspace : Text.isBlank ' ' = true := by decide
      have hpad := Padded.mk (List.forall_mem_cons.mpr ⟨hspace, hblanks⟩) hhour
      exact .mk hpad hminute hsecond hfraction htime
    exact .joined (.inr ⟨hdate, noDigit_cons (by decide)⟩) hgap

theorem marks_local (hseparator : IsSeparator separator) (h : LocalText separator text l) :
    marks text = 2 := by
  obtain ⟨ds, ts, rfl, hdate, htime⟩ := h.date_time
  rw [marks_append, marks_cons, marks_date hdate, marks_time htime]
  rcases hseparator with rfl | rfl | rfl <;> rfl

theorem marks_internet (h : InternetText text t) : marks text = 3 := by
  obtain ⟨hseparator, hlocal, hoffset, -⟩ := h
  rw [marks_append, marks_local hseparator hlocal, marks_offset hoffset]

/-! ## Local times in universal time -/

theorem LocalText.year_bounds (h : LocalText separator text l) :
    0 ≤ l.date.year ∧ l.date.year < 10000 := by
  obtain ⟨⟨⟨hyear⟩, -, -, hdate⟩, -⟩ := h
  have hlt := hyear.denotes.lt_tenTo
  have hlength := Nat.le_antisymm hyear.le_most hyear.least_le
  rw [hlength] at hlt
  rw [(Date.ofParts?_eq_some_iff.mp hdate).1]
  change _ < 10000 at hlt
  omega

/-- Four digits of a year are far from the ends of the calendar, so that no offset leads out of
it. -/
theorem LocalText.exists_toUniversal? (hlocal : LocalText separator text l)
    (hoffset : OffsetText offset ahead) :
    ∃ t, l.toUniversal? ahead = some t ∧ t.secondsSince2000 = l.secondsSince2000 - ahead ∧
      t.time.nanosecond = l.time.nanosecond := by
  have hyear := hlocal.year_bounds
  obtain ⟨t, ht⟩ := DateTime.exists_toUniversal? (l := l) (by unfold minYear; omega)
    (by unfold maxYear; omega) ahead
  have htime : l.time.seconds < 86400 := by
    obtain ⟨-, ⟨-, -, -, -, htime⟩⟩ := hlocal
    exact TimeOfDay.seconds_lt_of_ofParts? htime
  exact ⟨t, ht, DateTime.secondsSince2000_toUniversal? htime hoffset.bounds.1 hoffset.bounds.2 ht⟩

end TableGateway.TimeReading
