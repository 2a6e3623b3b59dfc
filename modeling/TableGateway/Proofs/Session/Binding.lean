import TableGateway.Proofs.Result
import TableGateway.Proofs.Session.Execution

/-! # Binding values by position

Each value is bound in the type at its own place, and the first one that has no form there is
reported. -/

namespace TableGateway.Session

variable {types : List String} {values : List Sql.Value} {arguments : List Parameter}
  {index place : Nat} {v : Sql.Value} {p : Parameter} {e : Error}

/-! ## Places -/

/-- The type at a place, which is the default one behind the described types. -/
def typeAt (types : List String) (place : Nat) : String :=
  types.getD place defaultType

theorem typeAt_zero (types : List String) : typeAt types 0 = types.headD defaultType := by
  cases types <;> rfl

theorem typeAt_succ (types : List String) (place : Nat) :
    typeAt types (place + 1) = typeAt types.tail place := by
  cases types <;> rfl

/-- The form of the value at a place in the type at that place. -/
def formAt? (types : List String) (values : List Sql.Value) (place : Nat) : Option Parameter :=
  values[place]?.bind (argument? (typeAt types place))

theorem formAt?_nil (types : List String) (place : Nat) : formAt? types [] place = none :=
  rfl

theorem formAt?_cons_zero (types : List String) (v : Sql.Value) (vs : List Sql.Value) :
    formAt? types (v :: vs) 0 = argument? (types.headD defaultType) v := by
  rw [formAt?, typeAt_zero]
  rfl

theorem formAt?_cons_succ (types : List String) (v : Sql.Value) (vs : List Sql.Value)
    (place : Nat) : formAt? types (v :: vs) (place + 1) = formAt? types.tail vs place := by
  rw [formAt?, typeAt_succ]
  rfl

/-! ## Bound values -/

theorem bindFrom_nil (index : Nat) (types : List String) : bindFrom index types [] = .ok [] :=
  rfl

theorem bindFrom_of_misfit {vs : List Sql.Value} (h : formAt? types (v :: vs) 0 = none) :
    bindFrom index types (v :: vs) =
      .error (.invalidParameter index (Text.lower (typeAt types 0))) := by
  rw [formAt?_cons_zero] at h
  rw [bindFrom_cons, h, typeAt_zero]

theorem bindFrom_of_form {vs : List Sql.Value} (h : formAt? types (v :: vs) 0 = some p) :
    bindFrom index types (v :: vs) = (bindFrom (index + 1) types.tail vs).map (p :: ·) := by
  rw [formAt?_cons_zero] at h
  rw [bindFrom_cons, h]

theorem bindFrom_eq_ok_iff :
    bindFrom index types values = .ok arguments ↔
      arguments.length = values.length ∧
        ∀ place, formAt? types values place = arguments[place]? := by
  induction values generalizing index types arguments with
  | nil => cases arguments <;> simp [bindFrom_nil, formAt?_nil]
  | cons v vs ih =>
      cases hform : formAt? types (v :: vs) 0 with
      | none =>
          rw [bindFrom_of_misfit hform]
          constructor
          · intro h
            cases h
          · rintro ⟨hlength, hplaces⟩
            have hfirst := hplaces 0
            cases arguments with
            | nil => cases hlength
            | cons p rest => simp [hform] at hfirst
      | some p =>
          rw [bindFrom_of_form hform, map_eq_ok]
          constructor
          · rintro ⟨rest, hrest, rfl⟩
            obtain ⟨hlength, hplaces⟩ := ih.mp hrest
            refine ⟨congrArg (· + 1) hlength, fun place => ?_⟩
            cases place with
            | zero => exact hform
            | succ place => exact (formAt?_cons_succ ..).trans (hplaces place)
          · rintro ⟨hlength, hplaces⟩
            cases arguments with
            | nil => cases hlength
            | cons q rest =>
                obtain rfl : p = q := Option.some.inj (hform.symm.trans (hplaces 0))
                refine ⟨rest, ih.mpr ⟨Nat.succ.inj hlength, fun place => ?_⟩, rfl⟩
                exact (formAt?_cons_succ ..).symm.trans (hplaces (place + 1))

/-- The first place whose value has no form. -/
structure FirstGap (types : List String) (values : List Sql.Value) (place : Nat) : Prop where
  lt_length : place < values.length
  gap : formAt? types values place = none
  earlier : ∀ other < place, formAt? types values other ≠ none

theorem firstGap_cons_zero {vs : List Sql.Value} :
    FirstGap types (v :: vs) 0 ↔ formAt? types (v :: vs) 0 = none :=
  ⟨FirstGap.gap, fun h => ⟨Nat.succ_pos _, h, nofun⟩⟩

theorem firstGap_cons_succ {vs : List Sql.Value} :
    FirstGap types (v :: vs) (place + 1) ↔
      formAt? types (v :: vs) 0 ≠ none ∧ FirstGap types.tail vs place := by
  constructor
  · rintro ⟨hlt, hgap, hearlier⟩
    rw [formAt?_cons_succ] at hgap
    refine ⟨hearlier 0 (Nat.succ_pos place), Nat.lt_of_succ_lt_succ hlt, hgap, ?_⟩
    intro other hother
    rw [← formAt?_cons_succ types v]
    exact hearlier (other + 1) (Nat.succ_lt_succ hother)
  · rintro ⟨hfirst, hlt, hgap, hearlier⟩
    refine ⟨Nat.succ_lt_succ hlt, (formAt?_cons_succ ..).trans hgap, ?_⟩
    intro other hother
    cases other with
    | zero => exact hfirst
    | succ other =>
        rw [formAt?_cons_succ]
        exact hearlier other (Nat.lt_of_succ_lt_succ hother)

theorem bindFrom_eq_error_iff :
    bindFrom index types values = .error e ↔
      ∃ place, FirstGap types values place ∧
        e = .invalidParameter (index + place) (Text.lower (typeAt types place)) := by
  induction values generalizing index types with
  | nil =>
      constructor
      · intro h
        cases h
      · rintro ⟨place, hgap, -⟩
        exact absurd hgap.lt_length (Nat.not_lt_zero place)
  | cons v vs ih =>
      cases hform : formAt? types (v :: vs) 0 with
      | none =>
          rw [bindFrom_of_misfit hform]
          constructor
          · intro h
            cases h
            exact ⟨0, firstGap_cons_zero.mpr hform, rfl⟩
          · rintro ⟨place, hgap, rfl⟩
            cases place with
            | zero => rfl
            | succ place => exact absurd hform (firstGap_cons_succ.mp hgap).1
      | some p =>
          have hfirst : formAt? types (v :: vs) 0 ≠ none := by simp [hform]
          rw [bindFrom_of_form hform, map_eq_error, ih]
          constructor
          · rintro ⟨place, hgap, rfl⟩
            refine ⟨place + 1, firstGap_cons_succ.mpr ⟨hfirst, hgap⟩, ?_⟩
            rw [typeAt_succ, Nat.add_right_comm, Nat.add_assoc]
          · rintro ⟨place, hgap, rfl⟩
            cases place with
            | zero => exact absurd (firstGap_cons_zero.mp hgap) hfirst
            | succ place =>
                refine ⟨place, (firstGap_cons_succ.mp hgap).2, ?_⟩
                rw [typeAt_succ, Nat.add_right_comm, Nat.add_assoc]

/-! ## Conversions -/

/-- The value at a place converts to the type at that place. -/
def ConvertsAt (types : List String) (values : List Sql.Value) (place : Nat) (p : Parameter) :
    Prop :=
  ∃ v, values[place]? = some v ∧ Parameter.convert (.ofName (typeAt types place)) v = .ok p

/-- What the values convert to can be sent. -/
def Sendable (types : List String) (values : List Sql.Value) : Prop :=
  ∀ place p, ConvertsAt types values place p → p.isEncodable = true

theorem argument?_eq_some_iff {type : String} :
    argument? type v = some p ↔
      Parameter.convert (.ofName type) v = .ok p ∧ p.isEncodable = true := by
  unfold argument?
  cases Parameter.convert (.ofName type) v with
  | error _ => simp
  | ok q =>
      simp only [Option.ite_none_right_eq_some, Option.some.injEq, Except.ok.injEq]
      constructor
      · rintro ⟨hq, rfl⟩
        exact ⟨rfl, hq⟩
      · rintro ⟨rfl, hq⟩
        exact ⟨hq, rfl⟩

theorem formAt?_eq_some_iff (h : Sendable types values) :
    formAt? types values place = some p ↔ ConvertsAt types values place p := by
  simp only [formAt?, Option.bind_eq_some_iff, argument?_eq_some_iff]
  constructor
  · rintro ⟨v, hv, hconvert, -⟩
    exact ⟨v, hv, hconvert⟩
  · rintro ⟨v, hv, hconvert⟩
    exact ⟨v, hv, hconvert, h place p ⟨v, hv, hconvert⟩⟩

/-- The first place whose value does not convert to the type at that place. -/
structure FirstMisfit (types : List String) (values : List Sql.Value) (place : Nat) : Prop where
  lt_length : place < values.length
  misfit : ∀ p, ¬ConvertsAt types values place p
  earlier : ∀ other < place, ∃ p, ConvertsAt types values other p

theorem firstGap_iff (h : Sendable types values) :
    FirstGap types values place ↔ FirstMisfit types values place := by
  have hnone : ∀ {place}, formAt? types values place = none ↔
      ∀ p, ¬ConvertsAt types values place p := by
    intro place
    simp only [Option.eq_none_iff_forall_ne_some, ne_eq, formAt?_eq_some_iff h]
  constructor
  · rintro ⟨hlt, hgap, hearlier⟩
    refine ⟨hlt, hnone.mp hgap, fun other hother => ?_⟩
    obtain ⟨p, hp⟩ := Option.ne_none_iff_exists'.mp (hearlier other hother)
    exact ⟨p, (formAt?_eq_some_iff h).mp hp⟩
  · rintro ⟨hlt, hmisfit, hearlier⟩
    refine ⟨hlt, hnone.mpr hmisfit, fun other hother hgap => ?_⟩
    obtain ⟨p, hp⟩ := hearlier other hother
    exact hnone.mp hgap p hp

/-- What becomes of values that are bound: if each of them converts to the type at its place, the
arguments are the conversions in order, and otherwise the first one that does not is reported. -/
structure BoundByPosition (types : List String) (values : List Sql.Value)
    (result : Except Error (List Parameter)) : Prop where
  ok_iff : (∃ arguments, result = .ok arguments) ↔
    ∀ place < values.length, ∃ p, ConvertsAt types values place p
  ok : ∀ arguments, result = .ok arguments → arguments.length = values.length ∧
    ∀ place p, arguments[place]? = some p ↔ ConvertsAt types values place p
  error_iff : ∀ e, result = .error e ↔ ∃ place, FirstMisfit types values place ∧
    e = .invalidParameter (place + 1) (Text.lower (typeAt types place))

theorem bindFrom_one_eq_error_iff (h : Sendable types values) :
    bindFrom 1 types values = .error e ↔ ∃ place, FirstMisfit types values place ∧
      e = .invalidParameter (place + 1) (Text.lower (typeAt types place)) := by
  simp only [bindFrom_eq_error_iff, firstGap_iff h, Nat.add_comm 1]

theorem bindFrom_one_of_ok (h : Sendable types values)
    (hok : bindFrom 1 types values = .ok arguments) :
    arguments.length = values.length ∧
      ∀ place p, arguments[place]? = some p ↔ ConvertsAt types values place p := by
  obtain ⟨hlength, hplaces⟩ := bindFrom_eq_ok_iff.mp hok
  refine ⟨hlength, fun place p => ?_⟩
  rw [← hplaces place, formAt?_eq_some_iff h]

theorem boundByPosition (h : Sendable types values) :
    BoundByPosition types values (bindFrom 1 types values) where
  ok_iff := by
    constructor
    · rintro ⟨arguments, hok⟩ place hlt
      obtain ⟨hlength, hplaces⟩ := bindFrom_one_of_ok h hok
      exact ⟨arguments[place], (hplaces place _).mp (List.getElem?_eq_getElem (hlength ▸ hlt))⟩
    · intro hall
      cases hbind : bindFrom 1 types values with
      | ok arguments => exact ⟨arguments, rfl⟩
      | error e =>
          obtain ⟨place, hmisfit, -⟩ := (bindFrom_one_eq_error_iff h).mp hbind
          obtain ⟨p, hp⟩ := hall place hmisfit.lt_length
          exact absurd hp (hmisfit.misfit p)
  ok _ := bindFrom_one_of_ok h
  error_iff _ := bindFrom_one_eq_error_iff h

end TableGateway.Session
