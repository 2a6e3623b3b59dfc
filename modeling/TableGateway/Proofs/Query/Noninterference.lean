import Mathlib.Data.List.Forall2
import TableGateway.Proofs.Query.Columns

/-! # Values never reach the text of a statement

Two requests that differ in values at most compile to the same text, or fail for the same
reason. -/

namespace TableGateway

/-! ## Requests that differ in values at most -/

/-- Two filters that compare alike. Of an operand nothing shows but the keyword of `is`, and
whether a list has items. -/
structure Query.Filter.Alike (f g : Query.Filter) : Prop where
  operator : f.operator = g.operator
  operand : f.operator = .is → f.operand = g.operand
  items : f.operator = .in → (Query.listItems f.operand = [] ↔ Query.listItems g.operand = [])

/-- Two parameters of one key. If they are no filters they have one value. -/
structure Request.AlikeParameters (p q : String × String) : Prop where
  key : p.1 = q.1
  reserved : p.1 ∈ Request.reservedKeys → p.2 = q.2
  filter : p.1 ∉ Request.reservedKeys → ∀ f g, Query.Filter.parse? p.1 p.2 = some f →
    Query.Filter.parse? q.1 q.2 = some g → f.Alike g

def Json.isObject : Json → Bool
  | .object _ => true
  | _ => false

/-- Neither an object nor an array. -/
def Json.isScalar : Json → Bool
  | .object _ => false
  | .array _ => false
  | _ => true

/-- Two items of an array: objects with the same names in the same order, or no objects. -/
inductive Json.AlikeItems : Json → Json → Prop where
  | objects {members others : List (String × Json)}
      (h : members.map Prod.fst = others.map Prod.fst) :
      AlikeItems (.object members) (.object others)
  | others {v w : Json} (hv : v.isObject = false) (hw : w.isObject = false) : AlikeItems v w

/-- Two bodies of the same shape. -/
inductive Request.AlikeBodies : Option Json → Option Json → Prop where
  | absent : AlikeBodies none none
  | objects {members others : List (String × Json)}
      (h : members.map Prod.fst = others.map Prod.fst) :
      AlikeBodies (some (.object members)) (some (.object others))
  | arrays {items others : List Json} (h : List.Forall₂ Json.AlikeItems items others) :
      AlikeBodies (some (.array items)) (some (.array others))
  | scalars {v w : Json} (hv : v.isScalar = true) (hw : w.isScalar = true) :
      AlikeBodies (some v) (some w)

/-- Two requests that differ in the values of their filters and of their bodies at most. -/
structure Request.Alike (r s : Request) : Prop where
  method : r.method = s.method
  table : r.table = s.table
  headers : r.headers = s.headers
  query : List.Forall₂ AlikeParameters r.query s.query
  body : AlikeBodies r.body s.body

namespace Query

open Sql (Fragment)

/-- Two statements that are the same but for the values of their parameters. -/
structure Compiled.Alike (c d : Compiled) : Prop where
  text : c.query.text = d.query.text
  count : c.query.countText? = d.query.countText?
  key : c.query.key? = d.query.key?
  returnsRows : c.query.returnsRows = d.query.returnsRows
  page : c.page = d.page
  parameters : c.query.parameters.length = d.query.parameters.length

/-- The key of a statement hangs on its text, and on whether it has parameters. -/
theorem Compiled.alike_of_statement {c d : Compiled}
    (hstatement : c.query.statement = d.query.statement) (hcount : c.query.count = d.query.count)
    (hreturns : c.query.returnsRows = d.query.returnsRows) (hpage : c.page = d.page)
    (hlength : c.query.parameters.length = d.query.parameters.length) : c.Alike d := by
  have htext : c.query.text = d.query.text := by rw [Query.text, Query.text, hstatement]
  have hempty : c.query.parameters.isEmpty = d.query.parameters.isEmpty := by
    rw [Bool.eq_iff_iff, List.isEmpty_iff_length_eq_zero, List.isEmpty_iff_length_eq_zero, hlength]
  refine ⟨htext, ?_, ?_, hreturns, hpage, hlength⟩
  · rw [Query.countText?, Query.countText?, hcount]
  · rw [Query.key?, Query.key?, htext, hempty]

end Query

/-! ## Parameters -/

namespace Request

/-- A reserved parameter has one value, so what it says as a filter would be alike too. -/
theorem AlikeParameters.alike {p q : String × String} (h : AlikeParameters p q)
    {f g : Query.Filter} (hf : Query.Filter.parse? p.1 p.2 = some f)
    (hg : Query.Filter.parse? q.1 q.2 = some g) : f.Alike g := by
  by_cases hkey : p.1 ∈ reservedKeys
  · rw [h.key, h.reserved hkey, hg] at hf
    cases hf
    exact ⟨rfl, fun _ => rfl, fun _ => Iff.rfl⟩
  · exact h.filter hkey f g hf hg

theorem lookup_alike {query others : List (String × String)}
    (h : List.Forall₂ AlikeParameters query others) {key : String} (hkey : key ∈ reservedKeys) :
    query.lookup key = others.lookup key := by
  induction h with
  | nil => rfl
  | @cons p q query others hpq _ ih =>
      obtain ⟨n, v⟩ := p
      obtain ⟨m, w⟩ := q
      obtain rfl : n = m := hpq.key
      by_cases hn : key = n
      · subst hn
        obtain rfl : v = w := hpq.reserved hkey
        rw [List.lookup_cons_self, List.lookup_cons_self]
      · rw [List.lookup_cons, List.lookup_cons, beq_false_of_ne hn]
        exact ih

namespace Alike

variable {r s : Request}

theorem parameter?_eq (h : r.Alike s) {key : String} (hkey : key ∈ reservedKeys) :
    r.parameter? key = s.parameter? key :=
  lookup_alike (List.forall₂_reverse_iff.mpr h.query) hkey

theorem body_cases (h : r.Alike s) : (r.body = none ∧ s.body = none) ∨
    ∃ body other, r.body = some body ∧ s.body = some other ∧
      AlikeBodies (some body) (some other) := by
  have hbody := h.body
  generalize r.body = b at hbody ⊢
  generalize s.body = c at hbody ⊢
  cases hbody with
  | absent => exact .inl ⟨rfl, rfl⟩
  | objects h => exact .inr ⟨_, _, rfl, rfl, .objects h⟩
  | arrays h => exact .inr ⟨_, _, rfl, rfl, .arrays h⟩
  | scalars hv hw => exact .inr ⟨_, _, rfl, rfl, .scalars hv hw⟩

theorem profile?_eq (h : r.Alike s) : r.profile? = s.profile? := by
  rw [profile?, profile?, h.method, h.headers]

theorem filters (h : r.Alike s) : List.Forall₂ AlikeParameters r.filters s.filters := by
  refine List.rel_filter ?_ h.query
  rintro ⟨n, v⟩ ⟨m, w⟩ hpq
  obtain rfl : n = m := hpq.key
  exact Iff.rfl

end Alike

end Request

namespace Query

open Sql (Fragment)

/-! ## Conditions -/

/-- Two conditions of the same text, with a value each or with none. -/
structure Condition.Alike (c d : Condition) : Prop where
  fragments : c.fragments = d.fragments
  values : c.value.isSome = d.value.isSome

theorem Filter.Alike.condition? {f g : Filter} (h : f.Alike g) (hcolumn : f.column = g.column)
    (placeholder : Nat) :
    Option.Rel Condition.Alike (f.condition? placeholder) (g.condition? placeholder) := by
  obtain ⟨column, operator, operand⟩ := f
  obtain ⟨other, symbol, value⟩ := g
  obtain rfl : column = other := hcolumn
  obtain rfl : operator = symbol := h.operator
  cases operator
  case is =>
    obtain rfl : operand = value := h.operand rfl
    simp only [Filter.condition?]
    cases isKeyword? operand with
    | none => exact .none
    | some keyword => exact .some ⟨rfl, rfl⟩
  case «in» =>
    have hitems := h.items rfl
    simp only at hitems
    simp only [Filter.condition?]
    cases hf : listItems operand with
    | nil =>
        rw [hitems.mp hf]
        exact .some ⟨rfl, rfl⟩
    | cons item items =>
        cases hg : listItems value with
        | nil =>
            rw [hitems.mpr hg] at hf
            cases hf
        | cons _ _ => exact .some ⟨rfl, rfl⟩
  all_goals exact .some ⟨rfl, rfl⟩

/-- A condition takes the same number of placeholders on both sides, so the next ones are counted
from the same place. -/
theorem conditions_alike {filters others : List (String × String)}
    (h : List.Forall₂ Request.AlikeParameters filters others) (placeholder : Nat) :
    List.Forall₂ Condition.Alike (conditions placeholder filters)
      (conditions placeholder others) := by
  induction h generalizing placeholder with
  | nil => exact .nil
  | @cons p q filters others hpq _ ih =>
      obtain ⟨column, raw⟩ := p
      obtain ⟨other, value⟩ := q
      obtain rfl : column = other := hpq.key
      have hcondition : Option.Rel Condition.Alike
          ((Filter.parse? column raw).bind fun f => f.condition? placeholder)
          ((Filter.parse? column value).bind fun f => f.condition? placeholder) := by
        by_cases hvalid : Sql.Identifier.isValid column = true
        · have hparse : ∀ text, Filter.parse? column text =
              some ⟨column, (splitOperand text).1, (splitOperand text).2⟩ :=
            fun text => if_pos hvalid
          rw [hparse raw, hparse value]
          exact (hpq.alike (hparse raw) (hparse value)).condition? rfl placeholder
        · have hparse : ∀ text, Filter.parse? column text = none := fun text => if_neg hvalid
          rw [hparse raw, hparse value]
          exact .none
      simp only [conditions]
      revert hcondition
      generalize (Filter.parse? column raw).bind _ = c
      generalize (Filter.parse? column value).bind _ = d
      intro hcondition
      cases hcondition with
      | none => exact ih placeholder
      | @some c d hcd =>
          have hlength : c.value.toList.length = d.value.toList.length := by
            rw [Option.length_toList, Option.length_toList, hcd.values]
          simp only [hlength]
          exact .cons hcd (ih _)

theorem whereFragments_alike {cs ds : List Condition} (h : List.Forall₂ Condition.Alike cs ds) :
    whereFragments cs = whereFragments ds := by
  have hfragments : cs.map Condition.fragments = ds.map Condition.fragments := by
    induction h with
    | nil => rfl
    | cons hcd _ ih => rw [List.map_cons, List.map_cons, hcd.fragments, ih]
  cases h with
  | nil => rfl
  | cons _ _ => rw [whereFragments, whereFragments, hfragments] <;> simp

theorem length_conditionValues_alike {cs ds : List Condition}
    (h : List.Forall₂ Condition.Alike cs ds) :
    (conditionValues cs).length = (conditionValues ds).length := by
  induction h with
  | nil => rfl
  | @cons c d cs ds hcd _ ih =>
      simp only [conditionValues, List.filterMap_cons] at ih ⊢
      have hvalues := hcd.values
      cases hc : c.value <;> cases hd : d.value <;> simp_all

theorem isEmpty_alike {cs ds : List Condition} (h : List.Forall₂ Condition.Alike cs ds) :
    cs.isEmpty = ds.isEmpty := by
  cases h <;> rfl

end Query

/-! ## Payloads -/

namespace Payload

/-- Two payloads of one form, with the same columns in every row. -/
inductive Alike : Payload → Payload → Prop where
  | single {row other : Row} (h : row.names = other.names) : Alike (single row) (single other)
  | batch {rows others : List Row} (h : rows.map Row.names = others.map Row.names) :
      Alike (batch rows) (batch others)

theorem Alike.map_names {payload other : Payload} (h : payload.Alike other) :
    payload.rows.map Row.names = other.rows.map Row.names := by
  cases h with
  | single h => simp [rows, h]
  | batch h => exact h

theorem rowOfMembers_alike {members others : List (String × Json)}
    (h : members.map Prod.fst = others.map Prod.fst) :
    Parallel (fun row other => row.names = other.names) (rowOfMembers members)
      (rowOfMembers others) := by
  have hrow : ∀ members : List (String × Json), rowOfMembers members =
      if (members.map Prod.fst).all Sql.Identifier.isValid then
        .ok ⟨members.map fun p => (p.1, Sql.Value.ofJson p.2)⟩
      else .error .invalidColumn := by
    intro members
    rw [List.all_map]
    rfl
  rw [hrow members, hrow others, h]
  split
  case isTrue =>
    refine .done ?_
    simpa [Row.names, Association.names, Function.comp_def] using h
  case isFalse => exact .failed _

theorem rowOfItem_of_not_object {v : Json} (h : v.isObject = false) :
    rowOfItem v = .error .notAnObject := by
  cases v with
  | object members => cases h
  | _ => rfl

theorem rowOfItem_alike {item other : Json} (h : item.AlikeItems other) :
    Parallel (fun row other => row.names = other.names) (rowOfItem item) (rowOfItem other) := by
  cases h with
  | objects h => exact rowOfMembers_alike h
  | others hv hw =>
      rw [rowOfItem_of_not_object hv, rowOfItem_of_not_object hw]
      exact .failed _

/-- The first item that makes no row is the same one on both sides. -/
theorem rowsOfItems_alike {items others : List Json}
    (h : List.Forall₂ Json.AlikeItems items others) :
    Parallel (fun rows others => rows.map Row.names = others.map Row.names) (rowsOfItems items)
      (rowsOfItems others) := by
  induction h with
  | nil => exact .done rfl
  | cons hitem _ ih =>
      refine (rowOfItem_alike hitem).bind fun row other hrow => ?_
      refine ih.bind fun rows others hrows => ?_
      exact .done (by rw [List.map_cons, List.map_cons, hrow, hrows])

theorem ofJson_of_scalar {v : Json} (h : v.isScalar = true) : ofJson v = .error .notAnObject := by
  cases v with
  | object members => cases h
  | array items => cases h
  | _ => rfl

theorem ofJson_alike {body other : Json} (h : Request.AlikeBodies (some body) (some other)) :
    Parallel Alike (ofJson body) (ofJson other) := by
  cases h with
  | objects h => exact (rowOfMembers_alike h).map fun _ _ => .single
  | arrays h => exact (rowsOfItems_alike h).map fun _ _ => .batch
  | scalars hv hw =>
      rw [ofJson_of_scalar hv, ofJson_of_scalar hw]
      exact .failed _

end Payload

namespace Query

open Sql (Fragment)

/-! ## Rows that are written -/

theorem map_names_retain {rows others : List Row} (h : rows.map Row.names = others.map Row.names)
    (keep : String → Bool) :
    (rows.map fun row => row.retain fun c _ => keep c).map Row.names =
      (others.map fun row => row.retain fun c _ => keep c).map Row.names := by
  have hnames : ∀ rows : List Row,
      (rows.map fun row => row.retain fun c _ => keep c).map Row.names =
        (rows.map Row.names).map fun names => names.filter keep := by
    intro rows
    simp [Row.names_retain]
  rw [hnames, hnames, h]

/-- What governance takes out hangs on the columns alone. -/
theorem map_names_strip {rows others : List Row} (h : rows.map Row.names = others.map Row.names)
    (context : Governance.Context) (table : String) (operation : WriteOperation) :
    (Governance.strip context table operation rows).rows.map Row.names =
      (Governance.strip context table operation others).rows.map Row.names := by
  rw [Governance.strip_rows, Governance.strip_rows]
  exact map_names_retain h _

variable {r s : Request}

theorem restrictColumns_alike (h : r.Alike s) {rows others : List Row}
    (hnames : rows.map Row.names = others.map Row.names) :
    Parallel (fun rows others => rows.map Row.names = others.map Row.names)
      (restrictColumns r rows) (restrictColumns s others) := by
  unfold restrictColumns
  rw [h.parameter?_eq (by decide)]
  split
  case h_1 => exact .done hnames
  case h_2 raw =>
    refine (Parallel.of_eq rfl).bind fun allowed _ hallowed => ?_
    subst hallowed
    exact .done (map_names_retain hnames _)

theorem conflictFragments_alike (h : r.Alike s) (locks : LockMap) (columns : List String) :
    conflictFragments r locks columns = conflictFragments s locks columns := by
  rw [conflictFragments, conflictFragments, conflictTarget, conflictTarget, h.headers,
    h.parameter?_eq (by decide)]

theorem target_alike (h : r.Alike s) (settings : Settings) :
    target settings r = target settings s := by
  rw [target, target, h.table, h.profile?_eq]

/-! ## All methods -/

theorem compileRead_alike (h : r.Alike s) (settings : Settings) (target : List Fragment) :
    Parallel Compiled.Alike (compileRead settings r target) (compileRead settings s target) := by
  have hselect := h.parameter?_eq (by decide : "select" ∈ Request.reservedKeys)
  have horder := h.parameter?_eq (by decide : "order" ∈ Request.reservedKeys)
  have hlimit := h.parameter?_eq (by decide : "limit" ∈ Request.reservedKeys)
  have hoffset := h.parameter?_eq (by decide : "offset" ∈ Request.reservedKeys)
  have hconditions := conditions_alike h.filters 1
  have hwhere := whereFragments_alike hconditions
  have hvalues := length_conditionValues_alike hconditions
  unfold compileRead
  rw [hselect]
  refine (Parallel.of_eq rfl).bind fun columns _ hcolumns => ?_
  subst hcolumns
  refine .done (Compiled.alike_of_statement ?_ ?_ rfl ?_ hvalues)
  · simp only [hwhere, horder, hlimit, hoffset, h.headers]
  · simp only [hwhere, h.headers]
  · simp only [hlimit, hoffset, h.headers]

theorem any_size_alike {rows others : List Row} (h : rows.map Row.names = others.map Row.names)
    (n : Nat) : (rows.any fun row => row.size ≠ n) = (others.any fun row => row.size ≠ n) := by
  have hnames : ∀ rows : List Row, (rows.any fun row => row.size ≠ n) =
      (rows.map Row.names).any fun names => names.length ≠ n := by
    intro rows
    simp [List.any_map, Row.size_eq_length_names, Function.comp_def]
  rw [hnames, hnames, h]

theorem compileInsert_alike (h : r.Alike s) (target : List Fragment)
    (context : Governance.Context) :
    Parallel Compiled.Alike (compileInsert r target context) (compileInsert s target context) := by
  unfold compileInsert
  rcases h.body_cases with ⟨hr, hs⟩ | ⟨body, other, hr, hs, hbody⟩
  · rw [hr, hs]
    exact .failed _
  · rw [hr, hs]
    refine ((Payload.ofJson_alike hbody).mapError _).bind fun payload other hpayload => ?_
    have hempty : payload.rows.isEmpty = other.rows.isEmpty := by
      rw [← List.isEmpty_map, hpayload.map_names, List.isEmpty_map]
    refine Parallel.check (by rw [hempty]) fun _ => ?_
    rw [← h.table]
    refine (restrictColumns_alike h (map_names_strip hpayload.map_names _ _ _)).bind
      fun rows others hrows => ?_
    have hlength : rows.length = others.length := by
      simpa using congrArg List.length hrows
    have hcolumns := columnUnion_congr hrows
    refine Parallel.check (by rw [hcolumns]) fun _ => ?_
    refine Parallel.check (by rw [hcolumns, any_size_alike hrows]) fun _ => ?_
    rw [← hcolumns]
    refine (Parallel.of_eq (conflictFragments_alike h _ _)).bind fun conflict _ hconflict => ?_
    subst hconflict
    refine .done (Compiled.alike_of_statement ?_ rfl ?_ rfl ?_)
    · simp only [hlength, hcolumns, h.headers]
    · simp only [h.headers]
    · simp [hlength, hcolumns]

theorem updatedRow_alike (h : r.Alike s) :
    Parallel (fun row other => row.names = other.names) (updatedRow r) (updatedRow s) := by
  unfold updatedRow
  rcases h.body_cases with ⟨hr, hs⟩ | ⟨body, other, hr, hs, hbody⟩
  · rw [hr, hs]
    exact .done rfl
  · rw [hr, hs]
    refine ((Payload.ofJson_alike hbody).mapError _).bind fun payload other hpayload => ?_
    cases hpayload with
    | single h => exact .done h
    | batch h => exact .failed _

theorem compileUpdate_alike (h : r.Alike s) (target : List Fragment)
    (context : Governance.Context) :
    Parallel Compiled.Alike (compileUpdate r target context) (compileUpdate s target context) := by
  unfold compileUpdate
  refine (updatedRow_alike h).bind fun payload other hpayload => ?_
  simp only [Governance.headD_strip, ← h.method, ← h.headers]
  have hnames : (payload.retain fun c _ => !context.strips .update c).names =
      (other.retain fun c _ => !context.strips .update c).names := by
    rw [Row.names_retain, Row.names_retain, hpayload]
  generalize (payload.retain fun c _ => !context.strips .update c) = row at hnames ⊢
  generalize (other.retain fun c _ => !context.strips .update c) = row' at hnames ⊢
  have hsize : row.size = row'.size := by
    rw [Row.size_eq_length_names, Row.size_eq_length_names, hnames]
  have hempty : row.isEmpty = row'.isEmpty := by
    rw [Row.isEmpty_eq_isEmpty_names, Row.isEmpty_eq_isEmpty_names, hnames]
  have hconditions := conditions_alike h.filters (row.size + 1)
  rw [← hsize]
  refine Parallel.check (by rw [isEmpty_alike hconditions]) fun _ => ?_
  refine Parallel.check (by rw [hempty]) fun _ => ?_
  refine .done (Compiled.alike_of_statement ?_ rfl rfl rfl ?_)
  · simp only [hnames, whereFragments_alike hconditions]
  · simp only [List.length_append, List.length_map, length_conditionValues_alike hconditions]
    exact congrArg (· + _) hsize

theorem compileDelete_alike (h : r.Alike s) (target : List Fragment) :
    Parallel Compiled.Alike (compileDelete r target) (compileDelete s target) := by
  have hconditions := conditions_alike h.filters 1
  unfold compileDelete
  rw [← h.method, ← h.headers]
  refine Parallel.check (by rw [isEmpty_alike hconditions]) fun _ => ?_
  refine .done (Compiled.alike_of_statement ?_ rfl rfl rfl ?_)
  · rw [whereFragments_alike hconditions]
  · exact length_conditionValues_alike hconditions

/-- Two requests that differ in values at most fail alike, or compile to statements that differ in
the values of their parameters at most. -/
theorem compile_alike (h : r.Alike s) (settings : Settings) (context : Governance.Context) :
    Parallel Compiled.Alike (compile settings r context) (compile settings s context) := by
  unfold compile
  refine (Parallel.of_eq (target_alike h settings)).bind fun target _ htarget => ?_
  subst htarget
  rw [← h.method]
  cases r.method with
  | get => exact compileRead_alike h settings target
  | post => exact compileInsert_alike h target context
  | patch => exact compileUpdate_alike h target context
  | delete => exact compileDelete_alike h target

/-- An update of a title, whose new value and whose filters are open. -/
def retitling (title : Json) (bound item : String) : Request where
  method := .patch
  table := "tasks"
  query := [("id", "gt." ++ bound), ("owner", "is.null"), ("tag", "in.(" ++ item ++ ",b)")]
  body := some (.object [("title", title)])
  headers := .none

theorem retitling_alike :
    (retitling (.string "a") "7" "x").Alike (retitling .null "$1" "'; --") where
  method := rfl
  table := rfl
  headers := rfl
  query := by
    refine .cons ⟨rfl, by decide, ?_⟩ (.cons ⟨rfl, by decide, ?_⟩ (.cons ⟨rfl, by decide, ?_⟩ .nil))
    all_goals
      intro _ f g hf hg
      cases hf
      cases hg
      exact ⟨rfl, by decide +kernel, by decide +kernel⟩
  body := .objects rfl

theorem compile_alike_retitling :
    ∃ compiled other,
      compile ⟨none, none⟩ (retitling (.string "a") "7" "x") ⟨⟨[]⟩, "anon", "p", none⟩ =
        .ok compiled ∧
      compile ⟨none, none⟩ (retitling .null "$1" "'; --") ⟨⟨[]⟩, "anon", "p", none⟩ = .ok other ∧
      compiled.query.parameters = [.text "a", .text "7", .textArray ["x", "b"]] ∧
      other.query.parameters = [.null, .text "$1", .textArray ["'; --", "b"]] ∧
      compiled.Alike other := by
  have h : Parallel Compiled.Alike (.ok _) (.ok _) :=
    compile_alike retitling_alike ⟨none, none⟩ ⟨⟨[]⟩, "anon", "p", none⟩
  refine ⟨_, _, rfl, rfl, rfl, rfl, ?_⟩
  cases h with
  | done h => exact h

end Query

end TableGateway
