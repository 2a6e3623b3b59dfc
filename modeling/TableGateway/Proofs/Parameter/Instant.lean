import TableGateway.Proofs.Parameter.Array
import TableGateway.Proofs.Result
import TableGateway.Proofs.Time.Internet

/-! # Civil times and instants

A value becomes an instant where it becomes a civil time, and the instant is then that time in
universal time. The two readings try the forms of a text in different orders, which makes no
difference as no text has two of them. -/

namespace TableGateway

open Sql (Value)
open TimeReading

theorem Text.upper_append (s r : String) : Text.upper (s ++ r) = Text.upper s ++ Text.upper r := by
  rw [upper, upper, upper, String.toList_append, List.map_append, String.ofList_append]

namespace Parameter

variable {s name civil instant : String} {t : DateTime} {d : Date} {v : Value}

/-! ## Texts -/

/-- The texts that say a universal time: one with an offset says the local time less the offset,
one without an offset is universal itself, and a date says its midnight. -/
inductive Spells : List Char → DateTime → Prop where
  | shifted {text : List Char} {t : DateTime} (h : InternetText text t) : Spells text t
  | universal {text : List Char} {t : DateTime} (h : CivilText text t) : Spells text t
  | midnight {text : List Char} {d : Date}
      (h : DateText FreeYear (Padded 1 2) (Padded 1 2) text d) : Spells text ⟨d, .midnight⟩

theorem ofFree?_eq_none_of_ofInternet? (h : DateTime.ofInternet? s = some t) :
    DateTime.ofFree? s = none := by
  refine Option.eq_none_iff_forall_ne_some.mpr fun u hu => ?_
  have hmarks := marks_internet (ofInternet?_eq_some_iff.mp h)
  rw [marks_civil (ofFree?_eq_some_iff.mp hu)] at hmarks
  cases hmarks

theorem ofInternet?_eq_none_of_parse? (h : Date.parse? s = some d) :
    DateTime.ofInternet? s = none := by
  refine Option.eq_none_iff_forall_ne_some.mpr fun u hu => ?_
  have hmarks := marks_internet (ofInternet?_eq_some_iff.mp hu)
  rw [marks_date (parse?_eq_some_iff.mp h)] at hmarks
  cases hmarks

theorem ofFree?_eq_none_of_parse? (h : Date.parse? s = some d) : DateTime.ofFree? s = none := by
  refine Option.eq_none_iff_forall_ne_some.mpr fun u hu => ?_
  have hmarks := marks_civil (ofFree?_eq_some_iff.mp hu)
  rw [marks_date (parse?_eq_some_iff.mp h)] at hmarks
  cases hmarks

theorem timestampOfText?_eq_some_iff :
    timestampOfText? s = some t ↔ Spells (Text.trim s).toList t := by
  rw [timestampOfText?]
  generalize Text.trim s = s
  constructor
  · intro h
    rcases Option.or_eq_some_iff.mp h with hfree | ⟨-, h⟩
    · exact .universal (ofFree?_eq_some_iff.mp hfree)
    rcases Option.or_eq_some_iff.mp h with hinternet | ⟨-, h⟩
    · exact .shifted (ofInternet?_eq_some_iff.mp hinternet)
    obtain ⟨d, hdate, rfl⟩ := Option.map_eq_some_iff.mp h
    exact .midnight (parse?_eq_some_iff.mp hdate)
  · generalize htext : s.toList = text
    rintro (h | h | h)
    · have hinternet := ofInternet?_eq_some_iff.mpr (htext ▸ h)
      rw [ofFree?_eq_none_of_ofInternet? hinternet, hinternet]
      rfl
    · rw [ofFree?_eq_some_iff.mpr (htext ▸ h)]
      rfl
    · have hdate := parse?_eq_some_iff.mpr (htext ▸ h)
      rw [ofFree?_eq_none_of_parse? hdate, ofInternet?_eq_none_of_parse? hdate, hdate]
      rfl

/-- The order in which the forms are tried makes no difference. -/
theorem instantOf?_eq (v : Value) : instantOf? v = timestampOf? v := by
  cases v with
  | text s =>
      rw [instantOf?, timestampOf?, timestampOfText?]
      cases hinternet : DateTime.ofInternet? (Text.trim s) with
      | none => rw [Option.none_or]
      | some t =>
          rw [ofFree?_eq_none_of_ofInternet? hinternet]
          rfl
  | _ => rfl

/-! ## Values -/

/-- A parameter that is a civil time, and the parameter that is the same time in universal time. -/
inductive Universal : Parameter → Parameter → Prop where
  | null : Universal (.scalar .timestamp none) (.scalar .timestamptz none)
  | time (t : DateTime) :
      Universal (.scalar .timestamp (some (.time t))) (.scalar .timestamptz (some (.time t)))
  | nullArray : Universal (.array .timestamp none) (.array .timestamptz none)
  | times (ts : List DateTime) :
      Universal (.array .timestamp (some (ts.map .time)))
        (.array .timestamptz (some (ts.map .time)))

theorem ofName?_timestamp : Kind.ofName? "TIMESTAMP" = some .timestamp := by decide +kernel

theorem ofName?_timestamptz : Kind.ofName? "TIMESTAMPTZ" = some .timestamptz := by decide +kernel

theorem SqlType.ofName_items {kind : Kind} (h : Kind.ofName? (Text.upper name) = some kind) :
    SqlType.ofName (name ++ "[]") = ⟨some kind, true⟩ := by
  have hbrackets : Text.upper "[]" = "[]" := by decide +kernel
  have hname : Text.upper (name ++ "[]") = Text.upper name ++ "[]" := by
    rw [Text.upper_append, hbrackets]
  rw [ofName_array hname, h]

theorem datum?_timestamp_text {u : Datum} :
    datum? .timestamp (.text s) = some u ↔ ∃ t, timestampOfText? s = some t ∧ .time t = u := by
  rw [datum?, timestampOf?, Option.map_eq_some_iff]

theorem datum?_timestamptz (v : Value) : datum? .timestamptz v = datum? .timestamp v := by
  rw [datum?, datum?, instantOf?_eq]

theorem parallel_scalar (v : Value) :
    Parallel Universal (scalarOf .timestamp v) (scalarOf .timestamptz v) := by
  by_cases hv : v = .null
  · rw [hv]
    exact .done .null
  · rw [scalarOf_of_ne_null hv, scalarOf_of_ne_null hv, datum?_timestamptz, datum?]
    cases timestampOf? v with
    | none => exact .failed _
    | some t => exact .done (.time t)

theorem mapM_timestamp (vs : List Value) :
    vs.mapM (datum? .timestamp) = (vs.mapM timestampOf?).map (List.map .time) := by
  induction vs with
  | nil => rfl
  | cons v vs ih =>
      rw [List.mapM_cons, List.mapM_cons, ih, datum?]
      cases timestampOf? v with
      | none => rfl
      | some t => cases vs.mapM timestampOf? <;> rfl

theorem parallel_array (v : Value) :
    Parallel Universal (arrayOf .timestamp v) (arrayOf .timestamptz v) := by
  by_cases hv : v = .null
  · rw [hv]
    exact .done .nullArray
  · have hdatum : datum? .timestamptz = datum? .timestamp := funext datum?_timestamptz
    have hitems : ((items? v).bind fun vs => vs.mapM (datum? .timestamp)) =
        ((items? v).bind fun vs => vs.mapM timestampOf?).map (List.map .time) := by
      simp only [mapM_timestamp, Option.map_bind]
      rfl
    rw [arrayOf.eq_2 _ v hv, arrayOf.eq_2 _ v hv, hdatum, hitems]
    cases (items? v).bind fun vs => vs.mapM timestampOf? with
    | none => exact .failed _
    | some ts => exact .done (.times ts)

/-! ## The two readings agree -/

/-- The text becomes the time as a civil time and as an instant. -/
def BothGive (civil instant s : String) (t : DateTime) : Prop :=
  convert (.ofName civil) (.text s) = .ok (.scalar .timestamp (some (.time t))) ∧
    convert (.ofName instant) (.text s) = .ok (.scalar .timestamptz (some (.time t)))

theorem bothGive_iff (hcivil : Kind.ofName? (Text.upper civil) = some .timestamp)
    (hinstant : Kind.ofName? (Text.upper instant) = some .timestamptz) :
    BothGive civil instant s t ↔ Spells (Text.trim s).toList t := by
  have htext : Value.text s ≠ .null := nofun
  rw [BothGive, SqlType.ofName_kind hcivil, SqlType.ofName_kind hinstant,
    ← timestampOfText?_eq_some_iff]
  constructor
  · rintro ⟨h, -⟩
    obtain ⟨u, hu, hut⟩ := datum?_timestamp_text.mp (datum?_of_convert htext h)
    cases hut
    exact hu
  · intro h
    have hdatum := datum?_timestamp_text.mpr ⟨t, h, rfl⟩
    exact ⟨convert_of_datum? htext hdatum,
      convert_of_datum? htext ((datum?_timestamptz _).trans hdatum)⟩

/-- Instants are the civil times in universal time, one by one and in arrays. A local time is
universal in both where no offset follows it, and is less the offset in both where one does. -/
structure TimesAgree (civil instant : String) : Prop where
  scalars : ∀ v, Parallel Universal (convert (.ofName civil) v) (convert (.ofName instant) v)
  arrays : ∀ v, Parallel Universal (convert (.ofName (civil ++ "[]")) v)
    (convert (.ofName (instant ++ "[]")) v)
  texts : ∀ s t, BothGive civil instant s t ↔ Spells (Text.trim s).toList t
  locals : ∀ s separator l, separator = 'T' ∨ separator = ' ' →
    LocalText separator (Text.trim s).toList l → BothGive civil instant s l
  offsets : ∀ s separator text offset l ahead, (Text.trim s).toList = text ++ offset →
    IsSeparator separator → LocalText separator text l → OffsetText offset ahead →
      ∃ t, BothGive civil instant s t ∧ t.secondsSince2000 = l.secondsSince2000 - ahead ∧
        t.time.nanosecond = l.time.nanosecond

theorem timestamps_agree (hcivil : Text.upper civil = "TIMESTAMP")
    (hinstant : Text.upper instant = "TIMESTAMPTZ") : TimesAgree civil instant := by
  have hkind := (congrArg Kind.ofName? hcivil).trans ofName?_timestamp
  have hkind' := (congrArg Kind.ofName? hinstant).trans ofName?_timestamptz
  have hboth : ∀ s t, BothGive civil instant s t ↔ Spells (Text.trim s).toList t :=
    fun s t => bothGive_iff hkind hkind'
  refine ⟨fun v => ?_, fun v => ?_, hboth, ?_, ?_⟩
  · rw [SqlType.ofName_kind hkind, SqlType.ofName_kind hkind', convert_scalar, convert_scalar]
    exact parallel_scalar v
  · have hjson : Kind.timestamp ≠ .json := by decide
    have hjson' : Kind.timestamptz ≠ .json := by decide
    rw [SqlType.ofName_items hkind, SqlType.ofName_items hkind', convert_array hjson,
      convert_array hjson']
    exact parallel_array v
  · intro s separator l hseparator hlocal
    exact (hboth s l).mpr (.universal (hlocal.civil hseparator))
  · intro s separator text offset l ahead htext hseparator hlocal hoffset
    obtain ⟨t, hshift, hmoved⟩ := hlocal.exists_toUniversal? hoffset
    refine ⟨t, (hboth s t).mpr ?_, hmoved⟩
    rw [htext]
    exact .shifted (.mk hseparator hlocal hoffset hshift)

/-- Half an hour before the year 2024. -/
def newYearsEve : DateTime :=
  ⟨⟨2023, 12, 31, by decide, by decide⟩, ⟨23, 30, 0, 0⟩⟩

/-- The same time on a clock that is ahead by two hours. -/
def newYear : DateTime :=
  ⟨⟨2024, 1, 1, by decide, by decide⟩, ⟨1, 30, 0, 0⟩⟩

theorem localText_newYear :
    LocalText 'T' ("2024".toList ++ '-' :: ("01".toList ++ '-' :: "01".toList) ++
      'T' :: ("01".toList ++ ':' :: ("30".toList ++ ':' :: ("00".toList ++ [])))) newYear := by
  have hyear : Field 4 4 "2024".toList 2024 :=
    field_of_natural? (by decide +kernel) (by decide +kernel)
  have hone : Field 2 2 "01".toList 1 := field_of_natural? (by decide +kernel) (by decide +kernel)
  have hthirty : Field 2 2 "30".toList 30 :=
    field_of_natural? (by decide +kernel) (by decide +kernel)
  have hzero : Field 2 2 "00".toList 0 := field_of_natural? (by decide +kernel) (by decide +kernel)
  exact .mk (.mk (.mk hyear) hone hone (by decide +kernel))
    (.mk hone hthirty hzero .none (by decide +kernel))

theorem offsetText_twoHours : OffsetText ('+' :: ("02".toList ++ ':' :: "00".toList)) 7200 := by
  have htwo : Field 2 2 "02".toList 2 := field_of_natural? (by decide +kernel) (by decide +kernel)
  have hzero : Field 2 2 "00".toList 0 := field_of_natural? (by decide +kernel) (by decide +kernel)
  exact .ahead (.mk htwo hzero (by decide))

theorem timestamps_agree_newYear :
    Text.upper "timestamp" = "TIMESTAMP" ∧ Text.upper "TimestampTZ" = "TIMESTAMPTZ" ∧
      BothGive "timestamp" "TimestampTZ" "2023-12-31 23:30:0.000" newYearsEve ∧
      BothGive "timestamp" "TimestampTZ" "2024-1-1" ⟨newYear.date, .midnight⟩ ∧
      BothGive "timestamp" "TimestampTZ" "2024-01-01T01:30:00 " newYear ∧
      Parallel Universal (convert (.ofName "timestamp[]") (.textArray ["2024-1-1", "now"]))
        (convert (.ofName "TimestampTZ[]") (.textArray ["2024-1-1", "now"])) ∧
      ∃ t, BothGive "timestamp" "TimestampTZ" " 2024-01-01T01:30:00+02:00" t ∧
        t.secondsSince2000 = newYear.secondsSince2000 - 7200 ∧ t.time.nanosecond = 0 := by
  have hcivil : Text.upper "timestamp" = "TIMESTAMP" := by decide +kernel
  have hinstant : Text.upper "TimestampTZ" = "TIMESTAMPTZ" := by decide +kernel
  have hagree := timestamps_agree hcivil hinstant
  have hfree : Spells (Text.trim "2023-12-31 23:30:0.000").toList newYearsEve :=
    timestampOfText?_eq_some_iff.mp (by decide +kernel)
  have hdate : Spells (Text.trim "2024-1-1").toList ⟨newYear.date, .midnight⟩ :=
    timestampOfText?_eq_some_iff.mp (by decide +kernel)
  have htext : (Text.trim "2024-01-01T01:30:00 ").toList =
      "2024".toList ++ '-' :: ("01".toList ++ '-' :: "01".toList) ++
        'T' :: ("01".toList ++ ':' :: ("30".toList ++ ':' :: ("00".toList ++ []))) := by
    decide +kernel
  have hlocal : LocalText 'T' (Text.trim "2024-01-01T01:30:00 ").toList newYear := by
    rw [htext]
    exact localText_newYear
  exact ⟨hcivil, hinstant, (hagree.texts _ _).mpr hfree, (hagree.texts _ _).mpr hdate,
    hagree.locals _ _ _ (.inl rfl) hlocal, hagree.arrays _,
    hagree.offsets _ _ _ _ _ _ (by decide +kernel) (.inl rfl) localText_newYear
      offsetText_twoHours⟩

end Parameter

end TableGateway
