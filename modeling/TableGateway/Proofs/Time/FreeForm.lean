import Mathlib.Data.List.DropRight
import TableGateway.Proofs.Number.Numeral
import TableGateway.Proofs.Text.Blank
import TableGateway.Time.Reading

/-! # Dates and times in the free form

What each step takes from the front is a text of a grammar, and each text of the grammar is taken
where the next character cannot go on with it. -/

namespace TableGateway.TimeReading

open Numeral (Denotes)

variable {cs ds rest text blanks : List Char} {n least most : Nat}

/-! ## Numbers -/

/-- So many digits at least and so many at most, and the number that they denote. -/
structure Field (least most : Nat) (ds : List Char) (n : Nat) : Prop where
  denotes : Denotes ds n
  least_le : least ≤ ds.length
  le_most : ds.length ≤ most

/-- Blanks, and then digits. -/
inductive Padded (least most : Nat) : List Char → Nat → Prop where
  | mk {blanks ds : List Char} {n : Nat} (hblanks : ∀ c ∈ blanks, Text.isBlank c = true)
      (h : Field least most ds n) : Padded least most (blanks ++ ds) n

theorem Field.mono {fewer : Nat} (hle : fewer ≤ least) (h : Field least most ds n) :
    Field fewer most ds n :=
  ⟨h.denotes, hle.trans h.least_le, h.le_most⟩

theorem field_of_natural? (h : Numeral.natural? ds = some n) (hlength : ds.length = most) :
    Field most most ds n :=
  ⟨Numeral.natural?_eq_some_iff.mp h, hlength.ge, hlength.le⟩

theorem Padded.exists_cons (h : Padded least most text n) :
    ∃ c tail, text = c :: tail ∧ (Text.isBlank c = true ∨ c.isDigit = true) := by
  cases h with
  | @mk blanks ds n hblanks h =>
      cases blanks with
      | nil =>
          obtain ⟨c, tail, rfl⟩ := List.exists_cons_of_ne_nil h.denotes.ne_nil
          exact ⟨c, tail, rfl, .inr (h.denotes.isDigit c List.mem_cons_self)⟩
      | cons c blanks => exact ⟨c, blanks ++ ds, rfl, .inl (hblanks c List.mem_cons_self)⟩

theorem Padded.mono {fewer : Nat} (hle : fewer ≤ least) (h : Padded least most text n) :
    Padded fewer most text n := by
  cases h with
  | mk hblanks h => exact .mk hblanks (h.mono hle)

/-- The text does not begin with a digit. -/
def NoDigit (cs : List Char) : Prop :=
  ∀ c ∈ cs.head?, c.isDigit = false

theorem noDigit_cons {c : Char} (h : c.isDigit = false) : NoDigit (c :: cs) := by
  intro d hd
  cases hd
  exact h

theorem NoDigit.takeWhile_eq_nil (h : NoDigit cs) : cs.takeWhile Char.isDigit = [] := by
  cases cs with
  | nil => rfl
  | cons c cs => exact List.takeWhile_cons_of_neg (by simp [h c rfl])

theorem NoDigit.dropWhile_eq_self (h : NoDigit cs) : cs.dropWhile Char.isDigit = cs := by
  cases cs with
  | nil => rfl
  | cons c cs => exact List.dropWhile_cons_of_neg (by simp [h c rfl])

theorem Field.padded (h : Field least most ds n) : Padded least most ds n :=
  @Padded.mk _ _ [] _ _ nofun h

theorem takeWhile_take_eq_nil_iff {k : Nat} :
    (cs.take k).takeWhile Char.isDigit = [] ↔ k = 0 ∨ NoDigit cs := by
  cases k with
  | zero => simp
  | succ k =>
      cases cs with
      | nil => simp [NoDigit]
      | cons c cs => simp [NoDigit, List.takeWhile_cons]

theorem takeWhile_take_append (hds : ∀ c ∈ ds, c.isDigit = true) (hle : ds.length ≤ most) :
    ((ds ++ rest).take most).takeWhile Char.isDigit =
      ds ++ (rest.take (most - ds.length)).takeWhile Char.isDigit := by
  rw [List.take_append, List.take_of_length_le hle, List.takeWhile_append_of_pos hds]

/-- A number takes as many digits as there are and may be. -/
theorem exists_of_number (hleast : 0 < least) (h : number least most cs = some (n, rest)) :
    ∃ ds, cs = ds ++ rest ∧ (Field most most ds n ∨ Field least most ds n ∧ NoDigit rest) := by
  rw [number, Option.ite_none_left_eq_some, Nat.not_lt] at h
  obtain ⟨hlength, h⟩ := h
  generalize hds : (cs.take most).takeWhile Char.isDigit = ds at hlength h
  cases h
  have hdigits : ∀ c ∈ ds, c.isDigit = true := fun c hc =>
    List.all_eq_true.mp List.all_takeWhile c (hds ▸ hc)
  have hfront : ds <+: cs.take most := hds ▸ List.takeWhile_prefix _
  have hmost : ds.length ≤ most := hfront.length_le.trans (List.length_take_le most cs)
  have hcs : cs = ds ++ cs.drop ds.length :=
    (List.prefix_iff_eq_append.mp (hfront.trans (List.take_prefix most cs))).symm
  have hdenotes := Numeral.denotes_ofDigitChars (List.ne_nil_of_length_pos (by omega)) hdigits
  rw [hcs, takeWhile_take_append hdigits hmost, List.append_right_eq_self,
    takeWhile_take_eq_nil_iff] at hds
  refine ⟨ds, hcs, hds.imp (fun hfull => ?_) fun hend => ?_⟩
  · exact ⟨hdenotes, by omega, hmost⟩
  · exact ⟨⟨hdenotes, hlength, hmost⟩, hend⟩

theorem number_append (hle : least ≤ most)
    (h : Field most most ds n ∨ Field least most ds n ∧ NoDigit rest) :
    number least most (ds ++ rest) = some (n, rest) := by
  have hds : Field least most ds n := h.elim (.mono hle) And.left
  have hrest : (rest.take (most - ds.length)).takeWhile Char.isDigit = [] := by
    rw [takeWhile_take_eq_nil_iff]
    exact h.imp (fun hfull => Nat.sub_eq_zero_of_le hfull.least_le) And.right
  have hdigits : ((ds ++ rest).take most).takeWhile Char.isDigit = ds := by
    rw [takeWhile_take_append hds.denotes.isDigit hds.le_most, hrest, List.append_nil]
  simp only [number, hdigits]
  rw [if_neg (Nat.not_lt.mpr hds.least_le), hds.denotes.value, List.drop_left]

theorem exists_of_number_full (hmost : 0 < most) (h : number most most cs = some (n, rest)) :
    ∃ ds, cs = ds ++ rest ∧ Field most most ds n := by
  obtain ⟨ds, hcs, hds⟩ := exists_of_number hmost h
  exact ⟨ds, hcs, hds.elim id And.left⟩

theorem number_full (h : Field most most ds n) :
    number most most (ds ++ rest) = some (n, rest) :=
  number_append (Nat.le_refl _) (.inl h)

theorem ne_cons_of_denotes {c : Char} {tail : List Char} (hds : Denotes ds n)
    (hc : c.isDigit = false) : ds ++ rest ≠ c :: tail := by
  intro heq
  obtain ⟨d, digits, rfl⟩ := List.exists_cons_of_ne_nil hds.ne_nil
  cases heq
  exact absurd (hds.isDigit c List.mem_cons_self) (by simp [hc])

theorem isBlank_of_mem_takeWhile : ∀ c ∈ cs.takeWhile Text.isBlank, Text.isBlank c = true :=
  fun c hc => List.all_eq_true.mp List.all_takeWhile c hc

/-- Blanks in front are dropped, and no digit is. -/
theorem dropWhile_blanks (hblanks : ∀ c ∈ blanks, Text.isBlank c = true) (hds : Denotes ds n) :
    (blanks ++ (ds ++ rest)).dropWhile Text.isBlank = ds ++ rest := by
  rw [List.dropWhile_append_of_pos hblanks]
  obtain ⟨d, digits, rfl⟩ := List.exists_cons_of_ne_nil hds.ne_nil
  have hd := Text.isBlank_of_isDigit (hds.isDigit d List.mem_cons_self)
  exact List.dropWhile_cons_of_neg (by simp [hd])

theorem exists_of_shortNumber (h : shortNumber cs = some (n, rest)) :
    ∃ text, cs = text ++ rest ∧ (Padded 2 2 text n ∨ Padded 1 2 text n ∧ NoDigit rest) := by
  obtain ⟨ds, hcs, hds⟩ := exists_of_number (by decide) h
  refine ⟨cs.takeWhile Text.isBlank ++ ds, ?_,
    hds.imp (.mk isBlank_of_mem_takeWhile) (.imp_left (.mk isBlank_of_mem_takeWhile))⟩
  rw [List.append_assoc, ← hcs, List.takeWhile_append_dropWhile]

theorem exists_padded_of_shortNumber (h : shortNumber cs = some (n, rest)) :
    ∃ text, cs = text ++ rest ∧ Padded 1 2 text n := by
  obtain ⟨text, hcs, htext⟩ := exists_of_shortNumber h
  exact ⟨text, hcs, htext.elim (.mono (by decide)) And.left⟩

theorem shortNumber_append (h : Padded 2 2 text n ∨ Padded 1 2 text n ∧ NoDigit rest) :
    shortNumber (text ++ rest) = some (n, rest) := by
  obtain ⟨blanks, ds, rfl, hblanks, hds⟩ : ∃ blanks ds, text = blanks ++ ds ∧
      (∀ c ∈ blanks, Text.isBlank c = true) ∧
        (Field 2 2 ds n ∨ Field 1 2 ds n ∧ NoDigit rest) := by
    rcases h with ⟨hblanks, hds⟩ | ⟨⟨hblanks, hds⟩, hend⟩
    · exact ⟨_, _, rfl, hblanks, .inl hds⟩
    · exact ⟨_, _, rfl, hblanks, .inr ⟨hds, hend⟩⟩
  have hdenotes : Denotes ds n := hds.elim Field.denotes fun hds => hds.1.denotes
  rw [shortNumber, List.append_assoc, dropWhile_blanks hblanks hdenotes]
  exact number_append (by decide) hds

/-! ## Years -/

/-- A year of four digits. -/
inductive FixedYear : List Char → Int → Prop where
  | mk {ds : List Char} {n : Nat} (h : Field 4 4 ds n) : FixedYear ds n

/-- A year behind blanks: a number with a sign, or one of up to four digits without. -/
inductive FreeYear : List Char → Int → Prop where
  | plain {text : List Char} {n : Nat} (h : Padded 1 4 text n) : FreeYear text n
  | plus {blanks ds : List Char} {n : Nat} (hblanks : ∀ c ∈ blanks, Text.isBlank c = true)
      (h : Denotes ds n) : FreeYear (blanks ++ '+' :: ds) n
  | minus {blanks ds : List Char} {n : Nat} (hblanks : ∀ c ∈ blanks, Text.isBlank c = true)
      (h : Denotes ds n) : FreeYear (blanks ++ '-' :: ds) (-n)

theorem exists_of_longNumber (h : longNumber cs = some (n, rest)) :
    ∃ ds, cs = ds ++ rest ∧ Denotes ds n := by
  obtain ⟨ds, hcs, hds⟩ := exists_of_number (by decide) h
  exact ⟨ds, hcs, hds.elim Field.denotes fun hds => hds.1.denotes⟩

theorem longNumber_append (h : Denotes ds n) (hend : NoDigit rest) :
    longNumber (ds ++ rest) = some (n, rest) := by
  have hpos : 1 ≤ ds.length := List.length_pos_iff.mpr h.ne_nil
  have hle : ds.length ≤ (ds ++ rest).length := by simp
  exact number_append (hpos.trans hle) (.inr ⟨⟨h, hpos, hle⟩, hend⟩)

theorem exists_of_freeYear {year : Int} (h : freeYear cs = some (year, rest)) :
    ∃ text, cs = text ++ rest ∧ FreeYear text year := by
  have hblanks := @isBlank_of_mem_takeWhile cs
  rw [← List.takeWhile_append_dropWhile (p := Text.isBlank) (l := cs)]
  generalize cs.takeWhile Text.isBlank = blanks at hblanks ⊢
  unfold freeYear at h
  split at h
  case h_1 heq =>
    simp only [Option.map_eq_some_iff, Prod.exists, Prod.mk.injEq] at h
    obtain ⟨n, _, hread, rfl, rfl⟩ := h
    obtain ⟨ds, rfl, hds⟩ := exists_of_longNumber hread
    exact ⟨blanks ++ '-' :: ds, by simp [heq], .minus hblanks hds⟩
  case h_2 heq =>
    simp only [Option.map_eq_some_iff, Prod.exists, Prod.mk.injEq] at h
    obtain ⟨n, _, hread, rfl, rfl⟩ := h
    obtain ⟨ds, rfl, hds⟩ := exists_of_longNumber hread
    exact ⟨blanks ++ '+' :: ds, by simp [heq], .plus hblanks hds⟩
  case h_3 =>
    simp only [Option.map_eq_some_iff, Prod.exists, Prod.mk.injEq] at h
    obtain ⟨n, _, hread, rfl, rfl⟩ := h
    obtain ⟨ds, hcs, hds⟩ := exists_of_number (by decide) hread
    have hyear : Field 1 4 ds n := hds.elim (.mono (by decide)) And.left
    exact ⟨blanks ++ ds, by simp [hcs], .plain (.mk hblanks hyear)⟩

theorem freeYear_append {year : Int} (h : FreeYear text year) (hend : NoDigit rest) :
    freeYear (text ++ rest) = some (year, rest) := by
  cases h with
  | plain h =>
      obtain ⟨hblanks, hds⟩ := h
      rw [freeYear, List.append_assoc, dropWhile_blanks hblanks hds.denotes]
      split
      case h_1 heq => exact absurd heq (ne_cons_of_denotes hds.denotes (by decide))
      case h_2 heq => exact absurd heq (ne_cons_of_denotes hds.denotes (by decide))
      case h_3 => rw [number_append (by decide) (.inr ⟨hds, hend⟩), Option.map_some]
  | plus hblanks h =>
      rw [freeYear, List.append_assoc, List.dropWhile_append_of_pos hblanks, List.cons_append,
        List.dropWhile_cons_of_neg (by decide)]
      simp only [longNumber_append h hend, Option.map_some]
  | minus hblanks h =>
      rw [freeYear, List.append_assoc, List.dropWhile_append_of_pos hblanks, List.cons_append,
        List.dropWhile_cons_of_neg (by decide)]
      simp only [longNumber_append h hend, Option.map_some]

/-! ## Fractions -/

/-- Nothing, or a point with digits behind it, of which nine count. -/
inductive FractionText : List Char → Nat → Prop where
  | none : FractionText [] 0
  | point {counted further : List Char} {n : Nat} (hcounted : Field 1 9 counted n)
      (hfurther : ∀ c ∈ further, c.isDigit = true) (hfull : counted.length = 9 ∨ further = []) :
      FractionText ('.' :: (counted ++ further)) (n * tenTo (9 - counted.length))

theorem FractionText.noDigit (h : FractionText text n) : NoDigit text := by
  cases h with
  | none => exact nofun
  | point => exact noDigit_cons (by decide)

theorem exists_of_fraction (h : fraction cs = some (n, rest)) :
    ∃ text, cs = text ++ rest ∧ FractionText text n := by
  unfold fraction at h
  split at h
  case h_1 cs =>
    split at h
    case h_2 => cases h
    case h_1 value behind hread =>
      obtain ⟨ds, rfl, hds⟩ := exists_of_number (by decide) hread
      cases h
      have hlength : (ds ++ behind).length - behind.length = ds.length := by simp
      have hfurther : ∀ c ∈ behind.takeWhile Char.isDigit, c.isDigit = true := fun c hc =>
        List.all_eq_true.mp List.all_takeWhile c hc
      refine ⟨'.' :: (ds ++ behind.takeWhile Char.isDigit), ?_, ?_⟩
      · simp
      · rw [hlength]
        refine .point (hds.elim (.mono (by decide)) And.left) hfurther ?_
        rcases hds with hfull | ⟨-, hend⟩
        · exact .inl (Nat.le_antisymm hfull.le_most hfull.least_le)
        · exact .inr hend.takeWhile_eq_nil
  case h_2 =>
    cases h
    exact ⟨[], rfl, .none⟩

theorem fraction_append (h : FractionText text n)
    (hpoint : '.' ∉ rest.head?) (hend : NoDigit rest) :
    fraction (text ++ rest) = some (n, rest) := by
  cases h with
  | none =>
      rw [List.nil_append]
      unfold fraction
      split
      case h_1 => exact absurd rfl hpoint
      case h_2 => rfl
  | @point counted further value hcounted hfurther hfull =>
      have hread : number 1 9 (counted ++ (further ++ rest)) = some (value, further ++ rest) := by
        refine number_append (by decide) (hfull.imp (fun hnine => ?_) fun hnone => ?_)
        · exact ⟨hcounted.denotes, hnine.ge, hcounted.le_most⟩
        · exact ⟨hcounted, by rwa [hnone]⟩
      have hlength : (counted ++ (further ++ rest)).length - (further ++ rest).length =
          counted.length := by simp
      rw [List.cons_append, List.append_assoc, fraction, hread]
      simp only [hlength]
      rw [List.dropWhile_append_of_pos hfurther, hend.dropWhile_eq_self]

/-! ## Dates and times of day -/

/-- A year, a month and a day with hyphens between them. -/
inductive DateText (year : List Char → Int → Prop) (month day : List Char → Nat → Prop) :
    List Char → Date → Prop where
  | mk {ys ms ds : List Char} {y : Int} {m d : Nat} {date : Date} (hyear : year ys y)
      (hmonth : month ms m) (hday : day ds d) (hdate : Date.ofParts? y m d = some date) :
      DateText year month day (ys ++ '-' :: (ms ++ '-' :: ds)) date

theorem DateText.mono {year free : List Char → Int → Prop}
    {month day month' day' : List Char → Nat → Prop} {date : Date}
    (hyears : ∀ cs y, year cs y → free cs y) (hmonths : ∀ cs m, month cs m → month' cs m)
    (hdays : ∀ cs d, day cs d → day' cs d) (h : DateText year month day text date) :
    DateText free month' day' text date := by
  obtain ⟨hyear, hmonth, hday, hdate⟩ := h
  exact .mk (hyears _ _ hyear) (hmonths _ _ hmonth) (hdays _ _ hday) hdate

theorem DateText.loosen {year : List Char → Int → Prop} {month : List Char → Nat → Prop}
    {date : Date} (h : DateText year month (Padded 2 2) text date) :
    DateText year month (Padded 1 2) text date :=
  h.mono (fun _ _ => id) (fun _ _ => id) fun _ _ => .mono (by decide)

/-- An hour, a minute and a second with colons between them, and a fraction. -/
inductive TimeText (field : List Char → Nat → Prop) : List Char → TimeOfDay → Prop where
  | mk {hs ms ss fs : List Char} {h m s f : Nat} {time : TimeOfDay} (hhour : field hs h)
      (hminute : field ms m) (hsecond : field ss s) (hfraction : FractionText fs f)
      (htime : TimeOfDay.ofParts? h m s f = some time) :
      TimeText field (hs ++ ':' :: (ms ++ ':' :: (ss ++ fs))) time

theorem literal_eq_some_iff {c : Char} {u : Unit} :
    literal c cs = some (u, rest) ↔ cs = c :: rest := by
  cases cs with
  | nil => simp [literal]
  | cons d cs => simp [literal]

/-- The day takes a second digit if there is one. -/
theorem exists_of_freeDate {date : Date} (h : freeDate noGap cs = some (date, rest)) :
    ∃ text, cs = text ++ rest ∧ (DateText FreeYear (Padded 1 2) (Padded 2 2) text date ∨
      DateText FreeYear (Padded 1 2) (Padded 1 2) text date ∧ NoDigit rest) := by
  simp only [freeDate, noGap, Option.bind_eq_bind, Option.bind_eq_some_iff, Prod.exists,
    literal_eq_some_iff, Option.pure_def, Option.some.injEq, Prod.mk.injEq, exists_eq_left',
    exists_const] at h
  obtain ⟨y, _, hy, _, rfl, m, _, hm, _, rfl, d, _, hd, _, hdate, rfl, rfl⟩ := h
  obtain ⟨ys, rfl, hyear⟩ := exists_of_freeYear hy
  obtain ⟨ms, rfl, hmonth⟩ := exists_padded_of_shortNumber hm
  obtain ⟨ds, rfl, hday⟩ := exists_of_shortNumber hd
  refine ⟨ys ++ '-' :: (ms ++ '-' :: ds), by simp, hday.imp (fun hday => ?_) fun hday => ?_⟩
  · exact .mk hyear hmonth hday hdate
  · exact ⟨.mk hyear hmonth hday.1 hdate, hday.2⟩

theorem literal_cons (c : Char) (cs : List Char) : literal c (c :: cs) = some ((), cs) :=
  literal_eq_some_iff.mpr rfl

theorem freeDate_parts {ys ms : List Char} {y : Int} {m d : Nat} {date : Date}
    (hyear : FreeYear ys y) (hmonth : Padded 1 2 ms m)
    (hday : Padded 2 2 ds d ∨ Padded 1 2 ds d ∧ NoDigit rest)
    (hdate : Date.ofParts? y m d = some date) :
    freeDate noGap (ys ++ '-' :: (ms ++ '-' :: ds) ++ rest) = some (date, rest) := by
  have hhyphen : ∀ tail, NoDigit ('-' :: tail) := fun _ => noDigit_cons (by decide)
  have hmonth := shortNumber_append (.inr ⟨hmonth, hhyphen (ds ++ rest)⟩)
  have hyear := freeYear_append hyear (hhyphen (ms ++ '-' :: (ds ++ rest)))
  simp only [List.append_assoc, List.cons_append]
  simp only [freeDate, noGap, hyear, hmonth, shortNumber_append hday, hdate, literal,
    Option.bind_eq_bind, Option.bind_some, Option.pure_def, if_true]

theorem freeDate_append {date : Date}
    (h : DateText FreeYear (Padded 1 2) (Padded 2 2) text date ∨
      DateText FreeYear (Padded 1 2) (Padded 1 2) text date ∧ NoDigit rest) :
    freeDate noGap (text ++ rest) = some (date, rest) := by
  rcases h with ⟨hyear, hmonth, hday, hdate⟩ | ⟨⟨hyear, hmonth, hday, hdate⟩, hend⟩
  · exact freeDate_parts hyear hmonth (.inl hday) hdate
  · exact freeDate_parts hyear hmonth (.inr ⟨hday, hend⟩) hdate

theorem freeTime_eq_some_iff {time : TimeOfDay} :
    freeTime noGap cs = some (time, []) ↔ TimeText (Padded 1 2) cs time := by
  simp only [freeTime, noGap, Option.bind_eq_bind, Option.bind_eq_some_iff, Prod.exists,
    literal_eq_some_iff, Option.pure_def, Option.some.injEq, Prod.mk.injEq, exists_eq_left',
    exists_const]
  constructor
  · rintro ⟨h, _, hh, _, rfl, m, _, hm, _, rfl, s, _, hs, f, _, hf, _, htime, rfl, rfl⟩
    obtain ⟨hours, rfl, hhour⟩ := exists_padded_of_shortNumber hh
    obtain ⟨minutes, rfl, hminute⟩ := exists_padded_of_shortNumber hm
    obtain ⟨seconds, rfl, hsecond⟩ := exists_padded_of_shortNumber hs
    obtain ⟨point, rfl, hfraction⟩ := exists_of_fraction hf
    rw [List.append_nil]
    exact .mk hhour hminute hsecond hfraction htime
  · rintro ⟨hhour, hminute, hsecond, hfraction, htime⟩
    have hcolon : ∀ tail, NoDigit (':' :: tail) := fun _ => noDigit_cons (by decide)
    have hfs : NoDigit _ := hfraction.noDigit
    have hread := @fraction_append [] _ _ hfraction nofun nofun
    rw [List.append_nil] at hread
    exact ⟨_, _, shortNumber_append (.inr ⟨hhour, hcolon _⟩), _, rfl, _, _,
      shortNumber_append (.inr ⟨hminute, hcolon _⟩), _, rfl, _, _,
      shortNumber_append (.inr ⟨hsecond, hfs⟩), _, _, hread, _, htime, rfl, rfl⟩

/-! ## The free form -/

theorem whole?_eq_some_iff {α : Type} {step : Step α} {s : String} {a : α} :
    whole? step s = some a ↔ step s.toList = some (a, []) := by
  rw [whole?]
  split
  case h_1 value heq =>
    rw [heq, Option.some.injEq, Option.some.injEq, Prod.mk.injEq, and_iff_left rfl]
  case h_2 hne =>
    refine iff_of_false nofun fun heq => ?_
    exact hne a heq

/-- A date and a time with a `T` between them, or with only the blanks that the hour may have in
front. The day has then two digits, or no digit behind it. -/
inductive CivilText : List Char → DateTime → Prop where
  | marked {ds ts : List Char} {d : Date} {t : TimeOfDay}
      (hdate : DateText FreeYear (Padded 1 2) (Padded 1 2) ds d)
      (htime : TimeText (Padded 1 2) ts t) : CivilText (ds ++ 'T' :: ts) ⟨d, t⟩
  | joined {ds ts : List Char} {d : Date} {t : TimeOfDay}
      (hdate : DateText FreeYear (Padded 1 2) (Padded 2 2) ds d ∨
        DateText FreeYear (Padded 1 2) (Padded 1 2) ds d ∧ NoDigit ts)
      (htime : TimeText (Padded 1 2) ts t) : CivilText (ds ++ ts) ⟨d, t⟩

theorem freeDateTime_eq_some_iff {separator : Step Unit} {t : DateTime} :
    freeDateTime separator cs = some (t, []) ↔ ∃ behind ts,
      freeDate noGap cs = some (t.date, behind) ∧ separator behind = some ((), ts) ∧
        freeTime noGap ts = some (t.time, []) := by
  simp only [freeDateTime, Option.bind_eq_bind, Option.bind_eq_some_iff, Prod.exists,
    Option.pure_def, Option.some.injEq, Prod.mk.injEq]
  constructor
  · rintro ⟨date, behind, hdate, _, ts, hseparator, time, _, htime, rfl, rfl⟩
    exact ⟨behind, ts, hdate, hseparator, htime⟩
  · rintro ⟨behind, ts, hdate, hseparator, htime⟩
    exact ⟨_, behind, hdate, (), ts, hseparator, _, _, htime, rfl, rfl⟩

theorem freeTime_dropWhile (cs : List Char) :
    freeTime noGap (cs.dropWhile Text.isBlank) = freeTime noGap cs := by
  have hhour : shortNumber (cs.dropWhile Text.isBlank) = shortNumber cs := by
    rw [shortNumber, shortNumber, List.dropWhile_idempotent]
  rw [freeTime, freeTime, hhour]

/-- A time begins with the blanks or with the digits of its hour. -/
theorem TimeText.isBlank_or_isDigit {c : Char} {time : TimeOfDay}
    (h : TimeText (Padded 1 2) (c :: cs) time) : Text.isBlank c = true ∨ c.isDigit = true := by
  generalize htext : c :: cs = text at h
  obtain ⟨hhour, -, -, -, -⟩ := h
  obtain ⟨d, tail, rfl, hd⟩ := hhour.exists_cons
  cases htext
  exact hd

theorem ofFree?_eq_some_iff {s : String} {t : DateTime} :
    DateTime.ofFree? s = some t ↔ CivilText s.toList t := by
  rw [DateTime.ofFree?, Option.or_eq_some_iff, Option.eq_none_iff_forall_ne_some]
  simp only [ne_eq, whole?_eq_some_iff, freeDateTime_eq_some_iff]
  generalize s.toList = cs
  constructor
  · rintro (⟨_, ts, hdate, hmark, htime⟩ | ⟨-, behind, _, hdate, hblanks, htime⟩)
    · obtain rfl := literal_eq_some_iff.mp hmark
      obtain ⟨ds, rfl, hds⟩ := exists_of_freeDate hdate
      exact .marked (hds.elim .loosen And.left) (freeTime_eq_some_iff.mp htime)
    · cases hblanks
      rw [freeTime_dropWhile] at htime
      obtain ⟨ds, rfl, hds⟩ := exists_of_freeDate hdate
      exact .joined hds (freeTime_eq_some_iff.mp htime)
  · intro h
    cases h with
    | @marked ds ts d time hdate htime =>
        have hmark : NoDigit ('T' :: ts) := noDigit_cons (by decide)
        have hread := freeDate_append (.inr ⟨hdate, hmark⟩)
        exact .inl ⟨_, ts, hread, literal_eq_some_iff.mpr rfl, freeTime_eq_some_iff.mpr htime⟩
    | @joined ds ts d time hdate htime =>
        have hread := freeDate_append hdate
        have hskip := (freeTime_dropWhile ts).trans (freeTime_eq_some_iff.mpr htime)
        refine .inr ⟨?_, _, _, hread, rfl, hskip⟩
        -- The time would begin with the mark.
        rintro other ⟨_, tail, hother, hmark, -⟩
        obtain rfl := literal_eq_some_iff.mp hmark
        rw [hread, Option.some.injEq, Prod.mk.injEq] at hother
        rw [hother.2] at htime
        exact absurd htime.isBlank_or_isDigit (by decide)

theorem parse?_eq_some_iff {s : String} {d : Date} :
    Date.parse? s = some d ↔ DateText FreeYear (Padded 1 2) (Padded 1 2) s.toList d := by
  rw [Date.parse?, whole?_eq_some_iff]
  generalize s.toList = cs
  constructor
  · intro h
    obtain ⟨text, rfl, hdate⟩ := exists_of_freeDate h
    rw [List.append_nil]
    exact hdate.elim .loosen And.left
  · intro h
    have hread := @freeDate_append [] _ _ (.inr ⟨h, nofun⟩)
    rwa [List.append_nil] at hread

end TableGateway.TimeReading
