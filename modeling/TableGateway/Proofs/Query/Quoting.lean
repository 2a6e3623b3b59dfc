import TableGateway.Proofs.Query.Columns
import TableGateway.Proofs.Query.Refusals
import TableGateway.Query.Quoting

/-! # Quoting never fails

Every name is known to be plain by the time it is quoted, whether it was checked just before or when
the request body was read. So the statement, or the refusal, is the same with all of the quoting
spelled out, and of a refused request nothing is repeated. -/

namespace TableGateway.Query

open Sql (Fragment)

namespace Quoting

variable {α β γ δ : Type} {m : Quoting α} {x : Except Error α}

/-! ## Computations that quote plain names -/

/-- A computation ends as another one does that quotes nothing, and the names that it quotes are
plain. -/
structure Plain (m : Quoting α) (x : Except Error α) : Prop where
  outcome : m.outcome = x
  quoted : ∀ n ∈ m.quoted, Sql.Identifier.isValid n = true

theorem plain_ofExcept (x : Except Error α) : (ofExcept x).Plain x :=
  ⟨rfl, fun _ h => nomatch h⟩

theorem plain_pure (a : α) : (pure a : Quoting α).Plain (.ok a) :=
  plain_ofExcept (.ok a)

theorem Plain.bind {f : α → Quoting β} {g : α → Except Error β} (hm : m.Plain x)
    (hf : ∀ a, x = .ok a → (f a).Plain (g a)) : (m >>= f).Plain (x >>= g) := by
  obtain ⟨rfl, hquoted⟩ := hm
  rcases m with ⟨e | a, names⟩
  case error => exact ⟨rfl, hquoted⟩
  case ok =>
      obtain ⟨hlast, hmore⟩ := hf a rfl
      refine ⟨hlast, fun n hn => ?_⟩
      rcases List.mem_append.mp hn with hn | hn
      · exact hquoted n hn
      · exact hmore n hn

/-- A step that always has its result does not show in the outcome. -/
theorem Plain.bind_ok {f : α → Quoting β} {a : α} {y : Except Error β} (hm : m.Plain (.ok a))
    (hf : (f a).Plain y) : (m >>= f).Plain y := by
  refine hm.bind (g := fun _ => y) fun b hb => ?_
  cases hb
  exact hf

theorem Plain.ite {p : Prop} [Decidable p] {other : Quoting α} {y : Except Error α}
    (hpos : p → m.Plain x) (hneg : ¬p → other.Plain y) :
    (if p then m else other).Plain (if p then x else y) := by
  by_cases hp : p
  · rw [if_pos hp, if_pos hp]
    exact hpos hp
  · rw [if_neg hp, if_neg hp]
    exact hneg hp

theorem Plain.check {p : Prop} [Decidable p] {e : Error} {f : γ → Quoting α}
    {g : δ → Except Error α} (h : ¬p → m.Plain x) :
    (if p then refuse e >>= f else m).Plain (if p then .error e >>= g else x) :=
  .ite (fun _ => plain_ofExcept (.error e)) h

/-- What is quoted first comes first, however the steps are put together. -/
theorem andThen_assoc (m : Quoting α) (f : α → Quoting β) (g : β → Quoting γ) :
    (m >>= f) >>= g = m >>= fun a => f a >>= g := by
  rcases m with ⟨e | a, names⟩
  case error => rfl
  case ok =>
      show andThen (andThen ⟨.ok a, names⟩ f) g = andThen ⟨.ok a, names⟩ fun a => andThen (f a) g
      simp only [andThen]
      cases (f a).outcome with
      | error e => rfl
      | ok b => simp only [List.append_assoc]

instance : LawfulMonad Quoting :=
  .mk' Quoting
    (fun m => by rcases m with ⟨_ | _, _⟩ <;> simp [Functor.map, andThen, ofExcept])
    (fun _ _ => rfl)
    andThen_assoc

theorem plain_mapM {f : α → Quoting β} {g : α → Except Error β} {inputs : List α}
    (h : ∀ a ∈ inputs, (f a).Plain (g a)) : (inputs.mapM f).Plain (inputs.mapM g) := by
  induction inputs with
  | nil => exact plain_pure []
  | cons a inputs ih =>
      obtain ⟨ha, hrest⟩ := List.forall_mem_cons.mp h
      rw [List.mapM_cons, List.mapM_cons]
      refine ha.bind fun b _ => (ih hrest).bind fun bs _ => ?_
      exact plain_pure (b :: bs)

/-- Steps that always have their results have a list of them. -/
theorem plain_mapM_ok {f : α → Quoting β} {g : α → β} {inputs : List α}
    (h : ∀ a ∈ inputs, (f a).Plain (.ok (g a))) : (inputs.mapM f).Plain (.ok (inputs.map g)) := by
  have hmap : inputs.mapM (fun a => (Except.ok (g a) : Except Error β)) = .ok (inputs.map g) :=
    List.mapM_pure
  rw [← hmap]
  exact plain_mapM h

/-! ## Names -/

theorem quote_of_isValid {n : String} (h : Sql.Identifier.isValid n = true) :
    Sql.Identifier.quote n = .ok (Sql.Identifier.quoted n) :=
  if_neg (by simpa using Sql.Identifier.toList_ne_nil_of_isValid h)

theorem plain_name {n : String} (h : Sql.Identifier.isValid n = true) :
    (name n).Plain (.ok (.name n)) := by
  refine ⟨?_, fun other hother => ?_⟩
  · rw [name, quote_of_isValid h]
    rfl
  · rwa [List.mem_singleton.mp hother]

theorem plain_name? {n : String} (h : Sql.Identifier.isValid n = true) :
    (name? n).Plain (.ok (some (.name n))) := by
  refine ⟨?_, fun other hother => ?_⟩
  · rw [name?, quote_of_isValid h]
    rfl
  · rwa [List.mem_singleton.mp hother]

theorem plain_ofColumn? (column : String) (a : α) :
    (ofColumn? column a).Plain (.ok (if Sql.Identifier.isValid column then some a else none)) := by
  rw [apply_ite Except.ok]
  exact .ite (fun hvalid => (plain_name? hvalid).bind_ok (plain_pure _)) fun _ => plain_pure _

theorem plain_names {ns : List String} (h : ∀ n ∈ ns, Sql.Identifier.isValid n = true) :
    (names ns).Plain (.ok (Fragment.names ns)) := by
  refine (plain_mapM_ok fun n hn => plain_name (h n hn)).bind_ok ?_
  rw [Fragment.names, List.map_map]
  exact plain_pure _

/-! ## Tables -/

theorem plain_qualified_none {table : String} (h : Sql.Identifier.isValid table = true) :
    (qualified none table).Plain (.ok [.name table]) :=
  (plain_name h).bind_ok (plain_pure _)

theorem plain_qualified_some {schema table : String}
    (hschema : Sql.Identifier.isValid schema = true)
    (htable : Sql.Identifier.isValid table = true) :
    (qualified (some schema) table).Plain (.ok [.name schema, .fixed ".", .name table]) :=
  (plain_name hschema).bind_ok ((plain_name htable).bind_ok (plain_pure _))

theorem plain_target (settings : Settings) (request : Request) :
    (target settings request).Plain (Query.target settings request) := by
  rw [target, Query.target]
  refine .ite (fun _ => plain_ofExcept _) fun htable => ?_
  rw [Bool.not_eq_true, Bool.not_eq_false'] at htable
  cases request.profile?.or settings.defaultSchema with
  | none => exact plain_qualified_none htable
  | some schema =>
      exact .ite (fun hschema => plain_qualified_some hschema htable) fun _ => plain_ofExcept _

/-! ## Reading -/

theorem plain_column {text : String} {f : Fragment → Quoting β} {g : String → Except Error β}
    (h : ∀ n, (f (.name n)).Plain (g n)) : (column text >>= f).Plain (columnName text >>= g) := by
  rw [column, bind_assoc]
  refine (plain_ofExcept _).bind fun n hn => (plain_name ?_).bind_ok (h n)
  obtain ⟨rfl, hvalid⟩ := columnName_eq_ok_iff.mp hn
  exact hvalid

theorem plain_selectEntry (entry : String) :
    (selectEntry entry).Plain (Query.selectEntry entry) := by
  unfold selectEntry Query.selectEntry
  refine .ite (fun _ => plain_ofExcept _) fun _ => ?_
  refine .ite (fun _ => plain_pure _) fun _ => ?_
  refine .ite (fun _ => plain_pure _) fun _ => ?_
  cases Text.cut ':' entry with
  | none => exact plain_column fun column => plain_pure _
  | some parts => exact plain_column fun column => plain_column fun label => plain_pure _

theorem plain_selectList (raw : Option String) :
    (selectList raw).Plain (Query.selectList raw) := by
  refine (plain_mapM fun entry _ => plain_selectEntry entry).bind fun entries _ => ?_
  cases entries with
  | nil => exact plain_pure _
  | cons => exact plain_pure _

theorem plain_filter? (column raw : String) :
    (filter? column raw).Plain (.ok (Filter.parse? column raw)) := by
  rw [filter?, Filter.parse?]
  exact plain_ofColumn? column _

theorem plain_conditions (placeholder : Nat) (filters : List (String × String)) :
    (conditions placeholder filters).Plain (.ok (Query.conditions placeholder filters)) := by
  induction filters generalizing placeholder with
  | nil => exact plain_pure _
  | cons p filters ih =>
      obtain ⟨column, raw⟩ := p
      rw [conditions, Query.conditions]
      refine (plain_filter? column raw).bind_ok ?_
      cases (Filter.parse? column raw).bind fun f => f.condition? placeholder with
      | none => exact ih placeholder
      | some c => exact (ih _).bind_ok (plain_pure _)

theorem plain_orderTerm? (term : String) :
    (orderTerm? term).Plain (.ok (OrderTerm.parse? term)) := by
  rw [orderTerm?, OrderTerm.parse?]
  cases Text.pieces '.' term with
  | nil => exact plain_pure _
  | cons column modifiers => exact plain_ofColumn? column _

theorem plain_orderFragments (raw : Option String) :
    (orderFragments raw).Plain (.ok (Query.orderFragments raw)) := by
  have hterms (texts : List String) :
      (texts.map OrderTerm.parse?).filterMap id = texts.filterMap OrderTerm.parse? := by
    rw [List.filterMap_map]
    rfl
  refine (plain_mapM_ok fun term _ => plain_orderTerm? term).bind_ok ?_
  rw [hterms, ← orderTerms, Query.orderFragments]
  cases orderTerms (raw.getD "") with
  | nil => exact plain_pure _
  | cons => exact plain_pure _

theorem plain_compileRead (settings : Settings) (request : Request) (target : List Fragment) :
    (compileRead settings request target).Plain (Query.compileRead settings request target) := by
  refine (plain_selectList _).bind fun columns _ => ?_
  refine (plain_conditions 1 request.filters).bind_ok ?_
  exact (plain_orderFragments _).bind_ok (plain_pure _)

/-! ## Inserting -/

theorem plain_conflictFragments {request : Request} {locks : LockMap} {columns : List String}
    (h : ∀ column ∈ columns, Sql.Identifier.isValid column = true) :
    (conflictFragments request locks columns).Plain
      (Query.conflictFragments request locks columns) := by
  rw [conflictFragments, Query.conflictFragments]
  cases request.headers.prefer.resolution with
  | none => exact plain_pure _
  | some resolution =>
      cases resolution with
      | ignoreDuplicates => exact plain_pure _
      | mergeDuplicates =>
          refine (plain_ofExcept _).bind fun key hkey => ?_
          refine (plain_names (isValid_of_mem_conflictTarget hkey)).bind_ok ?_
          have hupdates : ∀ column ∈ columns.filter fun column => locks.level column ≠ .insertOnly,
              (name column >>= fun column =>
                (pure [column, .fixed " = EXCLUDED.", column] : Quoting (List Fragment))).Plain
                (.ok [.name column, .fixed " = EXCLUDED.", .name column]) :=
            fun column hcolumn =>
              (plain_name (h column (List.mem_filter.mp hcolumn).1)).bind_ok (plain_pure _)
          refine (plain_mapM_ok hupdates).bind_ok ?_
          cases columns.filter fun column => locks.level column ≠ .insertOnly with
          | nil => exact plain_pure _
          | cons => exact plain_pure _

theorem plain_compileInsert (request : Request) (target : List Fragment)
    (context : Governance.Context) :
    (compileInsert request target context).Plain (Query.compileInsert request target context) := by
  rw [compileInsert, Query.compileInsert]
  cases request.body with
  | none => exact plain_ofExcept _
  | some body =>
      refine (plain_ofExcept _).bind fun payload hpayload => .check fun _ => ?_
      refine (plain_ofExcept _).bind fun rows hrows => .check fun _ => .check fun _ => ?_
      -- The names of the body were checked when it was read, and since then columns only went away.
      have hcolumns := isValid_of_restrictColumns (mapError_eq_ok.mp hpayload) hrows
      refine (plain_names hcolumns).bind_ok ?_
      exact (plain_conflictFragments hcolumns).bind fun conflict _ => plain_pure _

/-! ## Updating and deleting -/

theorem plain_assignments (placeholder : Nat) {columns : List String}
    (h : ∀ column ∈ columns, Sql.Identifier.isValid column = true) :
    (assignments placeholder columns).Plain (.ok (Query.assignments placeholder columns)) := by
  induction columns generalizing placeholder with
  | nil => exact plain_pure _
  | cons column columns ih =>
      obtain ⟨hcolumn, hrest⟩ := List.forall_mem_cons.mp h
      exact (plain_name hcolumn).bind_ok ((ih _ hrest).bind_ok (plain_pure _))

theorem plain_compileUpdate (request : Request) (target : List Fragment)
    (context : Governance.Context) :
    (compileUpdate request target context).Plain (Query.compileUpdate request target context) := by
  refine (plain_ofExcept _).bind fun row hrow => (plain_conditions _ _).bind_ok ?_
  refine .check fun _ => .check fun _ => ?_
  exact (plain_assignments 1 (isValid_of_updatedRow hrow)).bind_ok (plain_pure _)

theorem plain_compileDelete (request : Request) (target : List Fragment) :
    (compileDelete request target).Plain (Query.compileDelete request target) :=
  (plain_conditions 1 request.filters).bind_ok (.check fun _ => plain_pure _)

/-! ## All methods -/

theorem plain_compile (settings : Settings) (request : Request) (context : Governance.Context) :
    (compile settings request context).Plain (Query.compile settings request context) := by
  refine (plain_target settings request).bind fun target _ => ?_
  cases request.method with
  | get => exact plain_compileRead settings request target
  | post => exact plain_compileInsert request target context
  | patch => exact plain_compileUpdate request target context
  | delete => exact plain_compileDelete request target

end Quoting

/-! ## Refusals -/

theorem ofIdentifier_message_not_mem (cause : Sql.Identifier.Error) :
    (Error.ofIdentifier cause).message ∉ refusalTexts := by
  cases cause
  decide

/-- A request that makes no statement is told one of a few texts, none of which holds a part of the
request. Among them is not the one of a name that cannot be quoted: each name that is quoted on the
way, also on the way to a refusal, is plain and so not empty. -/
theorem compile_refusals (settings : Settings) (request : Request) (context : Governance.Context) :
    (∀ e, compile settings request context = .error e →
      Refused settings request e ∧ e.message ∈ refusalTexts) ∧
    (Quoting.compile settings request context).outcome = compile settings request context ∧
    (∀ n ∈ (Quoting.compile settings request context).quoted,
      Sql.Identifier.isValid n = true ∧ n ≠ "" ∧
        Sql.Identifier.quote n = .ok (Sql.Identifier.quoted n)) ∧
    ∀ cause, (Quoting.compile settings request context).outcome ≠
      .error (.ofIdentifier cause) := by
  have hplain := Quoting.plain_compile settings request context
  refine ⟨fun e h => ?_, hplain.outcome, fun n hn => ?_, fun cause h => ?_⟩
  · have hrefused := compile_refused h
    exact ⟨hrefused, hrefused.message_mem⟩
  · have hvalid := hplain.quoted n hn
    refine ⟨hvalid, ?_, Quoting.quote_of_isValid hvalid⟩
    rintro rfl
    exact absurd hvalid (by decide)
  · rw [hplain.outcome] at h
    exact ofIdentifier_message_not_mem cause (compile_refused h).message_mem

/-- An upsert that names a column with a blank in it to tell rows apart by. -/
def blankedUpsert : Request where
  method := .post
  table := "items"
  query := [("on_conflict", "id,a b")]
  body := some (.object [("a", .string "x"), ("b", .null)])
  headers := .ofPairs [("Prefer", "resolution=merge-duplicates")]

theorem compile_refusals_upsert :
    compile ⟨none, none⟩ blankedUpsert ⟨⟨[]⟩, "anon", "p", none⟩ =
      .error (.invalidIdentifier "on_conflict") ∧
    "invalid identifier: on_conflict" ∈ refusalTexts ∧
    (Quoting.compile ⟨none, none⟩ blankedUpsert ⟨⟨[]⟩, "anon", "p", none⟩).quoted =
      ["items", "a", "b"] ∧
    Sql.Identifier.quote "b" = .ok (Sql.Identifier.quoted "b") := by
  obtain ⟨hmessage, -, hnames, -⟩ :=
    compile_refusals ⟨none, none⟩ blankedUpsert ⟨⟨[]⟩, "anon", "p", none⟩
  have h : compile ⟨none, none⟩ blankedUpsert ⟨⟨[]⟩, "anon", "p", none⟩ =
      .error (.invalidIdentifier "on_conflict") := rfl
  have hquoted : (Quoting.compile ⟨none, none⟩ blankedUpsert ⟨⟨[]⟩, "anon", "p", none⟩).quoted =
      ["items", "a", "b"] := by
    decide +kernel
  exact ⟨h, (hmessage _ h).2, hquoted, (hnames "b" (by simp [hquoted])).2.2⟩

end TableGateway.Query
