import TableGateway.Proofs.Query.Noninterference

/-! # What the locks take out leaves no trace

A write compiles as if its locked fields had never been sent. -/

namespace TableGateway

/-! ## Bodies without some of their fields -/

def Json.withoutMembers (drops : String → Bool) : Json → Json
  | .object members => .object (members.filter fun p => !drops p.1)
  | v => v

/-- The body without the fields to be dropped, in each of its rows. -/
def Json.redacted (drops : String → Bool) : Json → Json
  | .array items => .array (items.map (withoutMembers drops))
  | v => v.withoutMembers drops

/-- The operation of a method that writes values. -/
def Request.Method.operation? : Request.Method → Option WriteOperation
  | .post => some .insert
  | .patch => some .update
  | _ => none

theorem Request.Method.operation?_eq_some {method : Method} {operation : WriteOperation}
    (h : method.operation? = some operation) :
    (method = .post ∧ operation = .insert) ∨ (method = .patch ∧ operation = .update) := by
  cases method with
  | get => cases h
  | post =>
      cases h
      exact .inl ⟨rfl, rfl⟩
  | patch =>
      cases h
      exact .inr ⟨rfl, rfl⟩
  | delete => cases h

/-- The request with another body. -/
def Request.withBody (request : Request) (body : Json) : Request :=
  { request with body := some body }

theorem Request.method_withBody (request : Request) (body : Json) :
    (request.withBody body).method = request.method := rfl

namespace Payload

def retain (keep : String → Bool) : Payload → Payload
  | single row => single (row.retain fun c _ => keep c)
  | batch rows => batch (rows.map fun row => row.retain fun c _ => keep c)

theorem rows_retain (payload : Payload) (keep : String → Bool) :
    (payload.retain keep).rows = payload.rows.map fun row => row.retain fun c _ => keep c := by
  cases payload <;> rfl

/-- What is left of valid names is valid. -/
theorem rowOfMembers_filter {members : List (String × Json)} {row : Row}
    (h : rowOfMembers members = .ok row) (keep : String → Bool) :
    rowOfMembers (members.filter fun p => keep p.1) = .ok (row.retain fun c _ => keep c) := by
  unfold rowOfMembers at h
  split at h
  case isTrue hall =>
    cases h
    have hkept : (members.filter fun p => keep p.1).all
        (fun p => Sql.Identifier.isValid p.1) = true := by
      rw [List.all_eq_true] at hall ⊢
      intro p hp
      exact hall p (List.mem_of_mem_filter hp)
    rw [rowOfMembers, if_pos hkept]
    simp only [Row.retain, List.filter_map]
    rfl
  case isFalse => cases h

theorem rowOfItem_withoutMembers {item : Json} {row : Row} (h : rowOfItem item = .ok row)
    (drops : String → Bool) :
    rowOfItem (item.withoutMembers drops) = .ok (row.retain fun c _ => !drops c) := by
  cases item with
  | object members => exact rowOfMembers_filter h fun c => !drops c
  | _ => cases h

theorem rowsOfItems_withoutMembers {items : List Json} {rows : List Row}
    (h : rowsOfItems items = .ok rows) (drops : String → Bool) :
    rowsOfItems (items.map (Json.withoutMembers drops)) =
      .ok (rows.map fun row => row.retain fun c _ => !drops c) := by
  induction items generalizing rows with
  | nil =>
      cases h
      rfl
  | cons item items ih =>
      simp only [rowsOfItems, bind_eq_ok, pure_eq_ok] at h
      obtain ⟨row, hrow, rest, hrest, rfl⟩ := h
      rw [List.map_cons, rowsOfItems, rowOfItem_withoutMembers hrow, ih hrest]
      rfl

theorem ofJson_redacted {body : Json} {payload : Payload} (h : ofJson body = .ok payload)
    (drops : String → Bool) :
    ofJson (body.redacted drops) = .ok (payload.retain fun c => !drops c) := by
  cases body with
  | object members =>
      cases hrow : rowOfMembers members with
      | error e => simp [ofJson, hrow, Except.map] at h
      | ok row =>
          simp only [ofJson, hrow, Except.map, Except.ok.injEq] at h
          subst h
          exact congrArg (Except.map single) (rowOfMembers_filter hrow fun c => !drops c)
  | array items =>
      cases hrows : rowsOfItems items with
      | error e => simp [ofJson, hrows, Except.map] at h
      | ok rows =>
          simp only [ofJson, hrows, Except.map, Except.ok.injEq] at h
          subst h
          exact congrArg (Except.map batch) (rowsOfItems_withoutMembers hrows drops)
  | _ => cases h

end Payload

namespace Query

open Sql (Fragment)

/-! ## Statements of redacted requests -/

/-- The same statement with the same parameters, for which nothing had to be taken out. -/
structure Compiled.Purged (c d : Compiled) : Prop where
  query : c.query = d.query
  page : c.page = d.page
  incidents : d.incidents = []

variable {request : Request} {body : Json} {payload : Payload}

theorem parallel_redacted (h : Payload.ofJson body = .ok payload) (drops : String → Bool) :
    Parallel (fun payload purged => purged = payload.retain fun c => !drops c)
      (Payload.ofJson body) (Payload.ofJson (body.redacted drops)) := by
  rw [h, Payload.ofJson_redacted h]
  exact .done rfl

theorem compileInsert_redacted (hbody : request.body = some body)
    (haccepted : Payload.ofJson body = .ok payload) (target : List Fragment)
    (context : Governance.Context) :
    Parallel Compiled.Purged (compileInsert request target context)
      (compileInsert (request.withBody (body.redacted (context.strips .insert))) target
        context) := by
  unfold compileInsert
  rw [hbody]
  refine ((parallel_redacted haccepted _).mapError _).bind fun payload purged hpurged => ?_
  subst hpurged
  have hempty : payload.rows.isEmpty =
      (payload.retain fun c => !context.strips .insert c).rows.isEmpty := by
    rw [Payload.rows_retain, List.isEmpty_map]
  refine Parallel.check (by rw [hempty]) fun _ => ?_
  rw [Payload.rows_retain]
  simp only [Request.withBody, Governance.strip_retain]
  refine (Parallel.of_eq rfl).bind fun rows _ hrows => ?_
  subst hrows
  refine Parallel.check Iff.rfl fun _ => ?_
  refine Parallel.check Iff.rfl fun _ => ?_
  refine (Parallel.of_eq rfl).bind fun conflict _ hconflict => ?_
  subst hconflict
  exact .done ⟨rfl, rfl, rfl⟩

theorem updatedRow_redacted (hbody : request.body = some body)
    (haccepted : Payload.ofJson body = .ok payload) (drops : String → Bool) :
    Parallel (fun row purged => purged = row.retain fun c _ => !drops c) (updatedRow request)
      (updatedRow (request.withBody (body.redacted drops))) := by
  unfold updatedRow
  rw [hbody]
  refine ((parallel_redacted haccepted drops).mapError _).bind fun payload purged hpurged => ?_
  subst hpurged
  cases payload with
  | single row => exact .done rfl
  | batch rows => exact .failed _

theorem compileUpdate_redacted (hbody : request.body = some body)
    (haccepted : Payload.ofJson body = .ok payload) (target : List Fragment)
    (context : Governance.Context) :
    Parallel Compiled.Purged (compileUpdate request target context)
      (compileUpdate (request.withBody (body.redacted (context.strips .update))) target
        context) := by
  unfold compileUpdate
  refine (updatedRow_redacted hbody haccepted _).bind fun row purged hpurged => ?_
  subst hpurged
  have hstrip := Governance.strip_retain context request.table .update [row]
  simp only [List.map_cons, List.map_nil] at hstrip
  simp only [Request.withBody, hstrip]
  -- the same columns are left on both sides, so the filters are counted from the same place
  refine Parallel.check Iff.rfl fun _ => ?_
  refine Parallel.check Iff.rfl fun _ => ?_
  exact .done ⟨rfl, rfl, rfl⟩

theorem compile_withBody_redacted {operation : WriteOperation}
    (hmethod : request.method.operation? = some operation) (hbody : request.body = some body)
    (haccepted : Payload.ofJson body = .ok payload) (settings : Settings)
    (context : Governance.Context) :
    Parallel Compiled.Purged (compile settings request context)
      (compile settings (request.withBody (body.redacted (context.strips operation)))
        context) := by
  unfold compile
  refine (Parallel.of_eq rfl).bind fun target _ htarget => ?_
  subst htarget
  rw [Request.method_withBody]
  rcases Request.Method.operation?_eq_some hmethod with ⟨hm, rfl⟩ | ⟨hm, rfl⟩
  · rw [hm]
    exact compileInsert_redacted hbody haccepted target context
  · rw [hm]
    exact compileUpdate_redacted hbody haccepted target context

/-- A write compiles as if its locked fields had never been sent, and bodies that differ in locked
fields at most compile to one statement. -/
theorem compile_redacted {operation : WriteOperation}
    (hmethod : request.method.operation? = some operation) (hbody : request.body = some body)
    (haccepted : Payload.ofJson body = .ok payload) (settings : Settings)
    (context : Governance.Context) :
    Parallel Compiled.Purged (compile settings request context)
        (compile settings (request.withBody (body.redacted (context.strips operation)))
          context) ∧
      ∀ other accepted, Payload.ofJson other = .ok accepted →
        other.redacted (context.strips operation) = body.redacted (context.strips operation) →
          Parallel (fun c d => c.query = d.query ∧ c.page = d.page)
            (compile settings request context)
            (compile settings (request.withBody other) context) := by
  have hpurged := compile_withBody_redacted hmethod hbody haccepted settings context
  refine ⟨hpurged, fun other accepted hother hsame => ?_⟩
  have hmethod' : (request.withBody other).method.operation? = some operation := hmethod
  have hpurged' : Parallel Compiled.Purged (compile settings (request.withBody other) context)
      (compile settings (request.withBody (body.redacted (context.strips operation))) context) := by
    rw [← hsame]
    exact compile_withBody_redacted hmethod' rfl hother settings context
  refine (hpurged.join hpurged').mono ?_
  rintro c d ⟨purged, hc, hd⟩
  exact ⟨hc.query.trans hd.query.symm, hc.page.trans hd.page.symm⟩

/-- Two tasks, of which one comes with a rank. -/
def unevenInsert : Request where
  method := .post
  table := "tasks"
  query := []
  body := some (.array
    [.object [("title", .string "a"), ("rank", .null)], .object [("title", .string "b")]])
  headers := .none

/-- If ranks are locked, the one rank does not spoil the batch. -/
theorem compile_redacted_unevenInsert :
    ∃ compiled purged,
      compile ⟨none, none⟩ unevenInsert ⟨⟨[("rank", .immutable)]⟩, "anon", "p", none⟩ =
        .ok compiled ∧
      compiled.query.text = "INSERT INTO \"tasks\" (\"title\") VALUES ($1), ($2) RETURNING *" ∧
      compiled.incidents.map Incident.columnName = ["rank"] ∧
      compile ⟨none, none⟩
          (unevenInsert.withBody
            (.array [.object [("title", .string "a")], .object [("title", .string "b")]]))
          ⟨⟨[("rank", .immutable)]⟩, "anon", "p", none⟩ = .ok purged ∧
      compiled.Purged purged := by
  have hmethod : unevenInsert.method.operation? = some .insert := rfl
  have h : Parallel Compiled.Purged (.ok _) (.ok _) :=
    (compile_redacted hmethod rfl rfl ⟨none, none⟩ ⟨⟨[("rank", .immutable)]⟩, "anon", "p", none⟩).1
  refine ⟨_, _, rfl, by decide +kernel, rfl, rfl, ?_⟩
  cases h with
  | done h => exact h

end Query

end TableGateway
