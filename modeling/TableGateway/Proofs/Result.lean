import Mathlib.Data.List.Forall2

/-! # Computations that may fail -/

namespace TableGateway

variable {ε δ α β : Type}

/-! ## Success -/

theorem bind_eq_ok {x : Except ε α} {f : α → Except ε β} {b : β} :
    (x >>= f) = .ok b ↔ ∃ a, x = .ok a ∧ f a = .ok b := by
  cases x with
  | error e => simp [bind, Except.bind]
  | ok a => simp [bind, Except.bind]

theorem mapError_eq_ok {x : Except ε α} {f : ε → δ} {a : α} :
    x.mapError f = .ok a ↔ x = .ok a := by
  cases x with
  | error e =>
      constructor
      · intro h
        cases h
      · intro h
        cases h
  | ok b =>
      constructor
      · intro h
        cases h
        rfl
      · intro h
        cases h
        rfl

theorem map_eq_ok {x : Except ε α} {f : α → β} {b : β} :
    x.map f = .ok b ↔ ∃ a, x = .ok a ∧ f a = b := by
  cases x with
  | error e => simp [Except.map]
  | ok a => simp [Except.map]

/-- A check that fails ends the computation. -/
theorem check_eq_ok {p : Prop} [Decidable p] {e : ε} {f : α → Except ε β} {x : Except ε β} {b : β} :
    (if p then (.error e >>= f) else x) = .ok b ↔ ¬p ∧ x = .ok b := by
  by_cases h : p <;> simp [h, bind, Except.bind]

theorem pure_eq_ok {a b : α} : (pure a : Except ε α) = .ok b ↔ a = b := by
  simp [pure, Except.pure]

/-- Each result of a list is that of one of the inputs. -/
theorem exists_of_mem_mapM {f : α → Except ε β} {inputs : List α} {results : List β}
    (h : inputs.mapM f = .ok results) {b : β} (hb : b ∈ results) : ∃ a ∈ inputs, f a = .ok b := by
  induction inputs generalizing results with
  | nil =>
      cases h
      cases hb
  | cons a inputs ih =>
      simp only [List.mapM_cons, bind_eq_ok, pure_eq_ok] at h
      obtain ⟨first, hfirst, rest, hrest, rfl⟩ := h
      rcases List.mem_cons.mp hb with rfl | hb
      · exact ⟨a, by simp, hfirst⟩
      · obtain ⟨c, hc, hcb⟩ := ih hrest hb
        exact ⟨c, by simp [hc], hcb⟩

/-! ## Failure -/

theorem bind_eq_error {x : Except ε α} {f : α → Except ε β} {e : ε} :
    (x >>= f) = .error e ↔ x = .error e ∨ ∃ a, x = .ok a ∧ f a = .error e := by
  cases x with
  | error e => simp [bind, Except.bind]
  | ok a => simp [bind, Except.bind]

theorem map_eq_error {x : Except ε α} {f : α → β} {e : ε} :
    x.map f = .error e ↔ x = .error e := by
  cases x <;> simp [Except.map]

theorem mapError_eq_error {x : Except ε α} {f : ε → δ} {e : δ} :
    x.mapError f = .error e ↔ ∃ cause, x = .error cause ∧ f cause = e := by
  cases x with
  | error cause =>
      constructor
      · intro h
        cases h
        exact ⟨cause, rfl, rfl⟩
      · rintro ⟨_, h, rfl⟩
        cases h
        rfl
  | ok a =>
      constructor
      · intro h
        cases h
      · rintro ⟨_, h, -⟩
        cases h

theorem check_eq_error {p : Prop} [Decidable p] {e cause : ε} {f : α → Except ε β}
    {x : Except ε β} :
    (if p then (.error e >>= f) else x) = .error cause ↔
      p ∧ e = cause ∨ ¬p ∧ x = .error cause := by
  by_cases h : p <;> simp [h, bind, Except.bind]

theorem pure_ne_error {a : α} {e : ε} : (pure a : Except ε α) ≠ .error e :=
  nofun

/-- The error of a list is that of one of the inputs. -/
theorem exists_of_mapM_eq_error {f : α → Except ε β} {inputs : List α} {e : ε}
    (h : inputs.mapM f = .error e) : ∃ a ∈ inputs, f a = .error e := by
  induction inputs with
  | nil => cases h
  | cons a inputs ih =>
      simp only [List.mapM_cons, bind_eq_error] at h
      rcases h with h | ⟨_, -, h | ⟨_, -, h⟩⟩
      · exact ⟨a, by simp, h⟩
      · obtain ⟨b, hb, hcause⟩ := ih h
        exact ⟨b, by simp [hb], hcause⟩
      · exact absurd h pure_ne_error

/-! ## Optional results -/

theorem bind_of_eq {x : Option α} {a : α} {f : α → Option β} (h : x = some a) :
    (x >>= f) = f a := by
  rw [h]
  rfl

theorem mapM_eq_some_iff {f : α → Option β} {inputs : List α} {results : List β} :
    inputs.mapM f = some results ↔ List.Forall₂ (fun a b => f a = some b) inputs results := by
  induction inputs generalizing results with
  | nil =>
      rw [List.mapM_nil, List.forall₂_nil_left_iff]
      exact ⟨fun h => (Option.some.inj h).symm, fun h => congrArg some h.symm⟩
  | cons a inputs ih =>
      simp only [List.mapM_cons, Option.bind_eq_bind, Option.bind_eq_some_iff,
        List.forall₂_cons_left_iff]
      constructor
      · rintro ⟨b, hb, rest, hrest, hresults⟩
        exact ⟨b, rest, hb, ih.mp hrest, (Option.some.inj hresults).symm⟩
      · rintro ⟨b, rest, hb, hrest, rfl⟩
        exact ⟨b, hb, rest, ih.mpr hrest, rfl⟩

theorem mapM_eq_none_iff {f : α → Option β} {inputs : List α} :
    inputs.mapM f = none ↔ ∃ a ∈ inputs, f a = none := by
  induction inputs with
  | nil => simp
  | cons a inputs ih =>
      simp only [List.mapM_cons, Option.bind_eq_bind, List.mem_cons, exists_eq_or_imp]
      cases hfirst : f a with
      | none => simp
      | some b =>
          rw [Option.bind_some, ← ih]
          cases inputs.mapM f <;> simp

/-! ## Two computations side by side -/

/-- Two computations fail alike, or have results that are related. -/
inductive Parallel (r : α → β → Prop) : Except ε α → Except ε β → Prop where
  | failed (e : ε) : Parallel r (.error e) (.error e)
  | done {a : α} {b : β} (h : r a b) : Parallel r (.ok a) (.ok b)

namespace Parallel

variable {γ : Type} {r : α → β → Prop}

theorem bind {s : γ → δ → Prop} {x : Except ε α} {y : Except ε β} {f : α → Except ε γ}
    {g : β → Except ε δ} (h : Parallel r x y) (hfg : ∀ a b, r a b → Parallel s (f a) (g b)) :
    Parallel s (x >>= f) (y >>= g) := by
  cases h with
  | failed e => exact .failed e
  | done hab => exact hfg _ _ hab

theorem mapError {x : Except ε α} {y : Except ε β} (h : Parallel r x y) (f : ε → δ) :
    Parallel r (x.mapError f) (y.mapError f) := by
  cases h with
  | failed e => exact .failed (f e)
  | done hab => exact .done hab

theorem map {s : γ → δ → Prop} {x : Except ε α} {y : Except ε β} {f : α → γ} {g : β → δ}
    (h : Parallel r x y) (hfg : ∀ a b, r a b → s (f a) (g b)) : Parallel s (x.map f) (y.map g) := by
  cases h with
  | failed e => exact .failed e
  | done hab => exact .done (hfg _ _ hab)

/-- Two computations that run beside a third one also run beside each other. -/
theorem join {s : γ → β → Prop} {x : Except ε α} {y : Except ε β} {z : Except ε γ}
    (hx : Parallel r x y) (hz : Parallel s z y) :
    Parallel (fun a c => ∃ b, r a b ∧ s c b) x z := by
  cases hx with
  | failed e =>
      cases hz with
      | failed => exact .failed e
  | done hab =>
      cases hz with
      | done hcb => exact .done ⟨_, hab, hcb⟩

theorem mono {s : α → β → Prop} {x : Except ε α} {y : Except ε β} (h : Parallel r x y)
    (hrs : ∀ a b, r a b → s a b) : Parallel s x y := by
  cases h with
  | failed e => exact .failed e
  | done hab => exact .done (hrs _ _ hab)

theorem of_eq {x y : Except ε α} (h : x = y) : Parallel (fun a b => a = b) x y := by
  subst h
  cases x with
  | error e => exact .failed e
  | ok a => exact .done rfl

theorem check {p q : Prop} [Decidable p] [Decidable q] {e : ε} {f : γ → Except ε α}
    {g : δ → Except ε β} {x : Except ε α} {y : Except ε β} (hpq : p ↔ q)
    (h : ¬p → Parallel r x y) :
    Parallel r (if p then .error e >>= f else x) (if q then .error e >>= g else y) := by
  by_cases hp : p
  · rw [if_pos hp, if_pos (hpq.mp hp)]
    exact .failed e
  · rw [if_neg hp, if_neg fun hq => hp (hpq.mpr hq)]
    exact h hp

end Parallel

end TableGateway
