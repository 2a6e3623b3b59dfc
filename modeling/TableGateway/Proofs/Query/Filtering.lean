import TableGateway.Proofs.Query.Columns
import TableGateway.Proofs.Query.Placeholders

/-! # Filters are bound faithfully

A statement has one clause for each parameter of the request that makes a condition, and the value
of that very parameter stands at the place of the clause's placeholder. Only a read goes without
conditions. -/

namespace TableGateway

open Sql (Fragment)

namespace Query

/-! ## Effective parameters -/

/-- The condition of a parameter whose key is a plain identifier, if its value makes one. -/
def condition? (placeholder : Nat) (p : String × String) : Option Condition :=
  (Filter.parse? p.1 p.2).bind fun f => f.condition? placeholder

/-- The value that a parameter binds, if its condition has one. -/
def boundValue? (p : String × String) : Option Sql.Value :=
  (condition? 1 p).bind Condition.value

/-- The key is not reserved and a plain identifier, and the value makes a condition. -/
def isEffective (p : String × String) : Bool :=
  p.1 ∉ Request.reservedKeys && Sql.Identifier.isValid p.1 && (condition? 1 p).isSome

theorem conditions_cons (n : Nat) (p : String × String) (ps : List (String × String)) :
    conditions n (p :: ps) = match condition? n p with
      | none => conditions n ps
      | some c => c :: conditions (n + c.value.toList.length) ps := rfl

/-- The number of the placeholder changes neither whether there is a condition nor its value. -/
theorem Filter.map_value_condition? (f : Filter) (n m : Nat) :
    (f.condition? n).map Condition.value = (f.condition? m).map Condition.value := by
  unfold Filter.condition?
  cases f.operator <;> simp only
  case «in» => split <;> rfl
  all_goals rfl

theorem map_value_condition? (p : String × String) (n m : Nat) :
    (condition? n p).map Condition.value = (condition? m p).map Condition.value := by
  unfold condition?
  cases Filter.parse? p.1 p.2 with
  | none => rfl
  | some f => exact f.map_value_condition? n m

theorem isSome_condition? (p : String × String) (n m : Nat) :
    (condition? n p).isSome = (condition? m p).isSome := by
  have h := congrArg Option.isSome (map_value_condition? p n m)
  rwa [Option.isSome_map, Option.isSome_map] at h

theorem boundValue?_eq {p : String × String} {n : Nat} {c : Condition}
    (h : condition? n p = some c) : boundValue? p = c.value := by
  have hvalue := map_value_condition? p 1 n
  rw [h, Option.map_some] at hvalue
  obtain ⟨d, hd, hdc⟩ := Option.map_eq_some_iff.mp hvalue
  rw [boundValue?, hd, Option.bind_some, hdc]

theorem isEffective_iff {p : String × String} :
    isEffective p = true ↔ p.1 ∉ Request.reservedKeys ∧ (condition? 1 p).isSome = true := by
  have hvalid : (condition? 1 p).isSome = true → Sql.Identifier.isValid p.1 = true := by
    intro h
    obtain ⟨c, hc⟩ := Option.isSome_iff_exists.mp h
    obtain ⟨f, hparse, -⟩ := Option.bind_eq_some_iff.mp hc
    exact (Filter.parse?_column hparse).2
  rw [isEffective, Bool.and_eq_true, Bool.and_eq_true, decide_eq_true_iff]
  constructor
  · rintro ⟨⟨hkey, -⟩, hsome⟩
    exact ⟨hkey, hsome⟩
  · rintro ⟨hkey, hsome⟩
    exact ⟨⟨hkey, hvalid hsome⟩, hsome⟩

end Query

namespace Request

/-- The parameters that make a condition, in order. -/
def effective (request : Request) : List (String × String) :=
  request.query.filter Query.isEffective

theorem filter_filters (request : Request) :
    (request.filters.filter fun p => (Query.condition? 1 p).isSome) = request.effective := by
  rw [filters, effective, List.filter_filter]
  refine List.filter_congr fun p _ => ?_
  rw [Bool.eq_iff_iff, Query.isEffective_iff, Bool.and_eq_true, decide_eq_true_iff, and_comm]

end Request

namespace Query

/-! ## Clauses -/

/-- The clause of a parameter. Its value, if it has one, stands among the parameters of the
statement at the place of the only placeholder of the clause. -/
inductive Bound (parameters : List Sql.Value) (p : String × String) : List Fragment → Prop where
  | bare {n : Nat} {c : Condition} (h : condition? n p = some c) (hvalue : c.value = none)
      (hindices : Fragment.indices c.fragments = []) : Bound parameters p c.fragments
  | valued {n : Nat} {c : Condition} {v : Sql.Value} (h : condition? (n + 1) p = some c)
      (hvalue : c.value = some v) (hindices : Fragment.indices c.fragments = [n + 1])
      (hparameter : parameters[n]? = some v) : Bound parameters p c.fragments

theorem indices_of_condition? {p : String × String} {n : Nat} {c : Condition}
    (h : condition? n p = some c) :
    Fragment.indices c.fragments = List.range' n c.value.toList.length := by
  obtain ⟨f, -, hcondition⟩ := Option.bind_eq_some_iff.mp h
  exact (Filter.condition?_shape hcondition).indices.1

theorem conditionValues_cons (c : Condition) (cs : List Condition) :
    conditionValues (c :: cs) = c.value.toList ++ conditionValues cs := by
  cases h : c.value <;> simp [conditionValues, h]

/-- Conditions that are counted from behind the leading parameters find their values there. -/
theorem forall₂_bound (leading : List Sql.Value) (filters : List (String × String)) :
    List.Forall₂ (Bound (leading ++ conditionValues (conditions (leading.length + 1) filters)))
      (filters.filter fun p => (condition? 1 p).isSome)
      ((conditions (leading.length + 1) filters).map Condition.fragments) := by
  induction filters generalizing leading with
  | nil => exact .nil
  | cons p filters ih =>
      rw [conditions_cons, List.filter_cons, isSome_condition? p 1 (leading.length + 1)]
      cases hc : condition? (leading.length + 1) p with
      | none => exact ih leading
      | some c =>
          have hindices := indices_of_condition? hc
          rw [Option.isSome_some, if_pos rfl, List.map_cons, conditionValues_cons]
          cases hvalue : c.value with
          | none =>
              rw [hvalue] at hindices
              exact .cons (.bare hc hvalue hindices) (ih leading)
          | some v =>
              rw [hvalue] at hindices
              -- The value has become one of the leading parameters of the clauses that follow.
              have hrest := ih (leading ++ [v])
              rw [List.length_append, List.append_assoc] at hrest
              refine .cons (.valued hc hvalue hindices ?_) hrest
              simp

theorem conditionValues_conditions (n : Nat) (filters : List (String × String)) :
    conditionValues (conditions n filters) = filters.filterMap boundValue? := by
  induction filters generalizing n with
  | nil => rfl
  | cons p filters ih =>
      rw [conditions_cons, List.filterMap_cons]
      cases hc : condition? n p with
      | none =>
          have hnone : condition? 1 p = none := by
            rw [← Option.not_isSome_iff_eq_none, isSome_condition? p 1 n, hc]
            simp
          have hvalue : boundValue? p = none := by rw [boundValue?, hnone]; rfl
          simp only [hvalue]
          exact ih n
      | some c =>
          simp only [conditionValues_cons, ih, boundValue?_eq hc]
          cases c.value <;> rfl

/-- What the clauses of a statement look like: nothing where there are none. -/
def whereText : List (List Fragment) → String
  | [] => ""
  | clauses => " WHERE " ++ " AND ".intercalate (clauses.map Sql.render)

theorem render_whereFragments (cs : List Condition) :
    Sql.render (whereFragments cs) = whereText (cs.map Condition.fragments) := by
  cases cs with
  | nil => rfl
  | cons c cs =>
      have hwhere : whereFragments (c :: cs) =
          .fixed " WHERE " :: [.fixed " AND "].intercalate ((c :: cs).map Condition.fragments) :=
        rfl
      rw [hwhere, Sql.render_fixed_cons, Sql.render_intercalate]
      rfl

/-! ## Filtered statements -/

variable {settings : Settings} {request : Request} {context : Governance.Context}
  {compiled : Compiled}

/-- Between the given front and back stands one clause for each effective parameter, in order. The
parameters of the statement are the leading ones and behind them the values of the clauses. -/
structure Filtered (request : Request) (compiled : Compiled) (leading : List Sql.Value)
    (front : List Fragment) (clauses : List (List Fragment)) (back : List Fragment) : Prop where
  text_eq : compiled.query.text = Sql.render front ++ whereText clauses ++ Sql.render back
  bound : List.Forall₂ (Bound compiled.query.parameters) request.effective clauses
  parameters_eq : compiled.query.parameters = leading ++ request.effective.filterMap boundValue?
  absent : clauses = [] → request.method = .get ∧ request.effective = []

theorem forall₂_effective (leading : List Sql.Value) (request : Request) :
    List.Forall₂
      (Bound (leading ++ conditionValues (conditions (leading.length + 1) request.filters)))
      request.effective
      ((conditions (leading.length + 1) request.filters).map Condition.fragments) := by
  rw [← request.filter_filters]
  exact forall₂_bound leading request.filters

theorem effective_eq_nil_iff (leading : List Sql.Value) :
    request.effective = [] ↔ conditions (leading.length + 1) request.filters = [] := by
  have hlength := (forall₂_effective leading request).length_eq
  rw [List.length_map] at hlength
  rw [← List.length_eq_zero_iff, hlength, List.length_eq_zero_iff]

theorem conditionValues_filters (n : Nat) (request : Request) :
    conditionValues (conditions n request.filters) = request.effective.filterMap boundValue? := by
  rw [conditionValues_conditions, ← request.filter_filters, List.filterMap_filter]
  refine List.filterMap_congr fun p _ => ?_
  split
  case isTrue => rfl
  case isFalse hnone =>
    rw [Option.not_isSome_iff_eq_none] at hnone
    rw [boundValue?, hnone]
    rfl

theorem filtered_of_statement {leading : List Sql.Value} {front back : List Fragment}
    (hstatement : compiled.query.statement =
      front ++ whereFragments (conditions (leading.length + 1) request.filters) ++ back)
    (hparameters : compiled.query.parameters =
      leading ++ conditionValues (conditions (leading.length + 1) request.filters))
    (hmethod : conditions (leading.length + 1) request.filters = [] → request.method = .get) :
    Filtered request compiled leading front
      ((conditions (leading.length + 1) request.filters).map Condition.fragments) back where
  text_eq := by
    rw [Query.text, hstatement, Sql.render_append, Sql.render_append, render_whereFragments]
  bound := by
    rw [hparameters]
    exact forall₂_effective leading request
  parameters_eq := by rw [hparameters, conditionValues_filters]
  absent hnil := by
    rw [List.map_eq_nil_iff] at hnil
    exact ⟨hmethod hnil, (effective_eq_nil_iff leading).mpr hnil⟩

theorem assignments_eq_mapIdx (n : Nat) (columns : List String) :
    assignments n columns =
      columns.mapIdx fun i column => [.name column, .fixed " = ", .placeholder (i + n)] := by
  induction columns generalizing n with
  | nil => rfl
  | cons column columns ih =>
      rw [assignments, ih, List.mapIdx_cons, Nat.zero_add]
      simp only [Nat.add_assoc, Nat.add_comm 1]

/-- The filters of a request that compiles, whatever its method is. An update assigns the values
of the governed row in the order of its columns, which come before those of the clauses. -/
structure FiltersBound (settings : Settings) (request : Request) (context : Governance.Context)
    (compiled : Compiled) : Prop where
  read : request.method = .get → ∃ target columns clauses,
    Query.target settings request = .ok target ∧
      selectList (request.parameter? "select") = .ok columns ∧
      Filtered request compiled [] (.fixed "SELECT " :: columns ++ .fixed " FROM " :: target)
        clauses
        (orderFragments (request.parameter? "order") ++ (requestedPage settings request).fragments)
  update : request.method = .patch → ∃ target attempted row clauses,
    Query.target settings request = .ok target ∧ updatedRow request = .ok attempted ∧
      (Governance.strip context request.table .update [attempted]).rows = [row] ∧
      Filtered request compiled (row.columns.map Prod.snd)
        (.fixed "UPDATE " :: target ++ .fixed " SET " :: Fragment.listed
          (row.names.mapIdx fun i column => [.name column, .fixed " = ", .placeholder (i + 1)]))
        clauses (returningFragments request.headers.prefer.wantsRepresentation)
  delete : request.method = .delete → ∃ target clauses,
    Query.target settings request = .ok target ∧
      Filtered request compiled [] (.fixed "DELETE FROM " :: target) clauses
        (returningFragments request.headers.prefer.wantsRepresentation)

theorem ReadSpec.filtered_statement {target columns : List Fragment}
    (h : ReadSpec settings request target columns compiled) (hmethod : request.method = .get) :
    Filtered request compiled [] (.fixed "SELECT " :: columns ++ .fixed " FROM " :: target)
      ((conditions 1 request.filters).map Condition.fragments)
      (orderFragments (request.parameter? "order")
        ++ (requestedPage settings request).fragments) := by
  refine filtered_of_statement ?_ h.parameters_eq fun _ => hmethod
  rw [h.statement_eq]
  simp

theorem UpdateSpec.filtered_statement {target : List Fragment} {attempted row : Row}
    (h : UpdateSpec settings request context target attempted row compiled) :
    Filtered request compiled (row.columns.map Prod.snd)
      (.fixed "UPDATE " :: target ++ .fixed " SET " :: Fragment.listed
        (row.names.mapIdx fun i column => [.name column, .fixed " = ", .placeholder (i + 1)]))
      ((conditions (row.size + 1) request.filters).map Condition.fragments)
      (returningFragments request.headers.prefer.wantsRepresentation) := by
  have hsize : (row.columns.map Prod.snd).length = row.size := List.length_map _
  rw [← assignments_eq_mapIdx 1, ← hsize]
  refine filtered_of_statement ?_ ?_ fun hnone => ?_
  · rw [hsize, h.statement_eq]
  · rw [hsize, h.parameters_eq]
  · rw [hsize] at hnone
    exact absurd hnone h.filtered

theorem DeleteSpec.filtered_statement {target : List Fragment}
    (h : DeleteSpec settings request target compiled) :
    Filtered request compiled [] (.fixed "DELETE FROM " :: target)
      ((conditions 1 request.filters).map Condition.fragments)
      (returningFragments request.headers.prefer.wantsRepresentation) :=
  filtered_of_statement h.statement_eq h.parameters_eq fun hnone => absurd hnone h.filtered

theorem filtersBound (h : compile settings request context = .ok compiled) :
    FiltersBound settings request context compiled where
  read hmethod := by
    obtain ⟨target, columns, hread⟩ := compile_get hmethod h
    exact ⟨target, columns, _, hread.target_eq, hread.columns_eq, hread.filtered_statement hmethod⟩
  update hmethod := by
    obtain ⟨target, attempted, row, hupdate⟩ := compile_patch hmethod h
    refine ⟨target, attempted, row, _, hupdate.target_eq, hupdate.payload_eq, ?_,
      hupdate.filtered_statement⟩
    rw [Governance.strip_rows, hupdate.row_eq_retain]
    rfl
  delete hmethod := by
    obtain ⟨target, hdelete⟩ := compile_delete hmethod h
    exact ⟨target, _, hdelete.target_eq, hdelete.filtered_statement⟩

/-! ## Missing filters -/

/-- The table is a plain identifier, and so is the schema if there is one. -/
def HasTarget (settings : Settings) (request : Request) : Prop :=
  Sql.Identifier.isValid request.table = true ∧
    ∀ schema ∈ request.profile?.or settings.defaultSchema, Sql.Identifier.isValid schema = true

theorem HasTarget.exists_target (h : HasTarget settings request) :
    ∃ fragments, target settings request = .ok fragments := by
  obtain ⟨htable, hschema⟩ := h
  unfold target
  rw [htable]
  cases hprofile : request.profile?.or settings.defaultSchema with
  | none => exact ⟨_, rfl⟩
  | some schema =>
      refine ⟨[.name schema, .fixed ".", .name request.table], ?_⟩
      simp [hschema schema hprofile]

theorem compileDelete_missing (h : request.effective = []) (target : List Fragment) :
    compileDelete request target = .error (.missingFilter request.method) := by
  have hnone : conditions 1 request.filters = [] := (effective_eq_nil_iff []).mp h
  rw [compileDelete, hnone]
  rfl

theorem compileUpdate_missing (h : request.effective = []) {row : Row}
    (hrow : updatedRow request = .ok row) (target : List Fragment)
    (context : Governance.Context) :
    compileUpdate request target context = .error (.missingFilter request.method) := by
  have hnone : ∀ kept : Row, conditions (kept.size + 1) request.filters = [] := by
    intro kept
    have hnil := (effective_eq_nil_iff (kept.columns.map Prod.snd)).mp h
    rwa [List.length_map] at hnil
  rw [compileUpdate, hrow]
  simp only [bind, Except.bind, hnone]
  rfl

/-- The body of an update is missing or holds a single row. -/
theorem exists_updatedRow (h : request.body = none ∨
    ∃ body row, request.body = some body ∧ Payload.ofJson body = .ok (.single row)) :
    ∃ row, updatedRow request = .ok row := by
  unfold updatedRow
  rcases h with hbody | ⟨body, row, hbody, hrow⟩
  · exact ⟨Row.empty, by rw [hbody]⟩
  · refine ⟨row, ?_⟩
    rw [hbody]
    simp only [hrow]
    rfl

/-- Every clause of a statement belongs to one effective parameter and finds its value. Without an
effective parameter nothing is deleted or updated. -/
theorem compile_filtersBound (settings : Settings) (request : Request)
    (context : Governance.Context) :
    (∀ compiled, compile settings request context = .ok compiled →
      FiltersBound settings request context compiled) ∧
    (request.effective = [] → HasTarget settings request →
      (request.method = .delete →
        compile settings request context = .error (.missingFilter .delete)) ∧
      (request.method = .patch → (request.body = none ∨
          ∃ body row, request.body = some body ∧ Payload.ofJson body = .ok (.single row)) →
        compile settings request context = .error (.missingFilter .patch))) := by
  refine ⟨fun compiled h => filtersBound h, fun heffective htarget => ?_⟩
  obtain ⟨fragments, hfragments⟩ := htarget.exists_target
  constructor
  · intro hmethod
    have hmissing := compileDelete_missing heffective fragments
    rw [hmethod] at hmissing
    simp only [compile, hfragments, hmethod]
    exact hmissing
  · intro hmethod hbody
    obtain ⟨row, hrow⟩ := exists_updatedRow hbody
    have hmissing := compileUpdate_missing heffective hrow fragments context
    rw [hmethod] at hmissing
    simp only [compile, hfragments, hmethod]
    exact hmissing

/-- An update of two columns and an attempt at a third one. Of its filters one has no effect and one
has no plain key. -/
def mixedUpdate : Request where
  method := .patch
  table := "tasks"
  query := [("id", "gt.7"), ("state", "in.()"), ("done", "is.maybe"), ("bad key", "eq.1"),
    ("owner", "is.null"), ("tag", "in.(a,b)")]
  body := some (.object [("title", .string "a"), ("id", .number (.integer 3)), ("rank", .null)])
  headers := .none

/-- The same update without the filters that have an effect. -/
def unfilteredUpdate : Request :=
  { mixedUpdate with query := [("done", "is.maybe"), ("bad key", "eq.1"), ("order", "id")] }

theorem compile_filtersBound_mixedUpdate :
    (∃ compiled, compile ⟨none, none⟩ mixedUpdate ⟨⟨[("id", .immutable)]⟩, "anon", "p", none⟩ =
        .ok compiled ∧
      compiled.query.text = "UPDATE \"tasks\" SET \"title\" = $1, \"rank\" = $2 WHERE \"id\" > $3"
        ++ " AND 1=0 AND \"owner\" IS NULL AND \"tag\" = ANY($4)" ∧
      FiltersBound ⟨none, none⟩ mixedUpdate ⟨⟨[("id", .immutable)]⟩, "anon", "p", none⟩ compiled) ∧
    compile ⟨none, none⟩ unfilteredUpdate ⟨⟨[]⟩, "anon", "p", none⟩ =
      .error (.missingFilter .patch) := by
  have h : compile ⟨none, none⟩ mixedUpdate ⟨⟨[("id", .immutable)]⟩, "anon", "p", none⟩ =
      .ok _ := rfl
  refine ⟨⟨_, h, by decide +kernel, (compile_filtersBound _ _ _).1 _ h⟩, ?_⟩
  have heffective : unfilteredUpdate.effective = [] := by decide +kernel
  have htarget : HasTarget ⟨none, none⟩ unfilteredUpdate := ⟨by decide, nofun⟩
  exact ((compile_filtersBound _ _ _).2 heffective htarget).2 rfl (.inr ⟨_, _, rfl, rfl⟩)

end Query

end TableGateway
