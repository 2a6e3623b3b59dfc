import TableGateway.Proofs.Result
import TableGateway.Query.Compile

/-! # What compiled requests consist of

One specification for each method says everything that holds of a request that compiles: which
checks it passed, and what its statement is made of. -/

namespace TableGateway.Query

open Sql (Fragment)

variable {settings : Settings} {request : Request} {context : Governance.Context}
  {compiled : Compiled}

/-! ## Reading -/

/-- The page that a read asks for. -/
def requestedPage (settings : Settings) (request : Request) : Request.Page :=
  .resolve request.headers.range (request.parameter? "limit") (request.parameter? "offset")
    settings.maxRows

/-- A read selects columns from the rows of the target that pass the filters. -/
structure ReadSpec (settings : Settings) (request : Request) (target columns : List Fragment)
    (compiled : Compiled) : Prop where
  target_eq : Query.target settings request = .ok target
  columns_eq : selectList (request.parameter? "select") = .ok columns
  statement_eq : compiled.query.statement =
    .fixed "SELECT " :: columns ++ .fixed " FROM " ::
      (target ++ whereFragments (conditions 1 request.filters))
      ++ orderFragments (request.parameter? "order") ++ (requestedPage settings request).fragments
  parameters_eq : compiled.query.parameters = conditionValues (conditions 1 request.filters)
  count_eq : compiled.query.count =
    if request.headers.prefer.countExact then
      some (.fixed "SELECT COUNT(*) FROM " ::
        (target ++ whereFragments (conditions 1 request.filters)))
    else none
  returnsRows_eq : compiled.query.returnsRows = true
  incidents_eq : compiled.incidents = []
  page_eq : compiled.page = some (requestedPage settings request)

theorem compile_get (hm : request.method = .get)
    (h : compile settings request context = .ok compiled) :
    ∃ target columns, ReadSpec settings request target columns compiled := by
  simp only [compile, bind_eq_ok, hm] at h
  obtain ⟨target, htarget, h⟩ := h
  simp only [compileRead, bind_eq_ok, pure_eq_ok] at h
  obtain ⟨columns, hcolumns, rfl⟩ := h
  exact ⟨target, columns, htarget, hcolumns, rfl, rfl, rfl, rfl, rfl, rfl⟩

/-! ## Inserting -/

/-- An insertion writes the rows that governance and the request leave of the payload, which have
the same columns, at least one. -/
structure InsertSpec (settings : Settings) (request : Request) (context : Governance.Context)
    (target : List Fragment) (payload : Payload) (rows : List Row) (conflict : List Fragment)
    (compiled : Compiled) : Prop where
  target_eq : Query.target settings request = .ok target
  payload_eq : ∃ body, request.body = some body ∧ Payload.ofJson body = .ok payload
  payload_ne : payload.rows ≠ []
  rows_eq : restrictColumns request
    (Governance.strip context request.table .insert payload.rows).rows = .ok rows
  columns_ne : columnUnion rows ≠ []
  uniform : ∀ row ∈ rows, row.size = (columnUnion rows).length
  conflict_eq : conflictFragments request context.locks (columnUnion rows) = .ok conflict
  statement_eq : compiled.query.statement =
    .fixed "INSERT INTO " :: target ++ .fixed " (" :: Fragment.names (columnUnion rows)
      ++ .fixed ") VALUES " ::
        Fragment.listed (placeholderGroups (columnUnion rows).length 1 rows.length)
      ++ conflict ++ returningFragments (!request.headers.prefer.wantsMinimal)
  parameters_eq : compiled.query.parameters =
    rows.flatMap fun row => (columnUnion rows).map fun c => (row.get? c).getD .null
  count_eq : compiled.query.count = none
  returnsRows_eq : compiled.query.returnsRows = !request.headers.prefer.wantsMinimal
  incidents_eq : compiled.incidents =
    (Governance.strip context request.table .insert payload.rows).incidents
  page_eq : compiled.page = none

theorem compile_post (hm : request.method = .post)
    (h : compile settings request context = .ok compiled) :
    ∃ target payload rows conflict,
      InsertSpec settings request context target payload rows conflict compiled := by
  simp only [compile, bind_eq_ok, hm] at h
  obtain ⟨target, htarget, h⟩ := h
  unfold compileInsert at h
  split at h
  case h_2 => cases h
  case h_1 body hbody =>
    simp only [bind_eq_ok, mapError_eq_ok, check_eq_ok, pure_eq_ok] at h
    obtain ⟨payload, hpayload, hne, rows, hrows, hcolumns, huniform, conflict, hconflict, rfl⟩ := h
    refine ⟨target, payload, rows, conflict, htarget, ⟨body, hbody, hpayload⟩, ?_, hrows, ?_, ?_,
      hconflict, rfl, rfl, rfl, rfl, rfl, rfl⟩
    · simpa using hne
    · simpa using hcolumns
    · simpa using huniform

/-! ## Updating -/

/-- An update assigns what governance leaves of one row, which is not empty, to the rows that pass
the filters, of which there is one. -/
structure UpdateSpec (settings : Settings) (request : Request) (context : Governance.Context)
    (target : List Fragment) (payload row : Row) (compiled : Compiled) : Prop where
  target_eq : Query.target settings request = .ok target
  payload_eq : updatedRow request = .ok payload
  row_eq : (Governance.strip context request.table .update [payload]).rows.headD Row.empty = row
  filtered : conditions (row.size + 1) request.filters ≠ []
  row_ne : row.columns ≠ []
  statement_eq : compiled.query.statement =
    .fixed "UPDATE " :: target ++ .fixed " SET " :: Fragment.listed (assignments 1 row.names)
      ++ whereFragments (conditions (row.size + 1) request.filters)
      ++ returningFragments request.headers.prefer.wantsRepresentation
  parameters_eq : compiled.query.parameters =
    row.columns.map Prod.snd ++ conditionValues (conditions (row.size + 1) request.filters)
  count_eq : compiled.query.count = none
  returnsRows_eq : compiled.query.returnsRows = request.headers.prefer.wantsRepresentation
  incidents_eq : compiled.incidents =
    (Governance.strip context request.table .update [payload]).incidents
  page_eq : compiled.page = none

theorem compile_patch (hm : request.method = .patch)
    (h : compile settings request context = .ok compiled) :
    ∃ target payload row, UpdateSpec settings request context target payload row compiled := by
  simp only [compile, bind_eq_ok, hm] at h
  obtain ⟨target, htarget, h⟩ := h
  simp only [compileUpdate, bind_eq_ok, check_eq_ok, pure_eq_ok] at h
  obtain ⟨payload, hpayload, hfiltered, hrow, rfl⟩ := h
  refine ⟨target, payload, _, htarget, hpayload, rfl, ?_, ?_, rfl, rfl, rfl, rfl, rfl, rfl⟩
  · simpa using hfiltered
  · simpa [Row.isEmpty] using hrow

/-! ## Deleting -/

/-- A deletion takes away the rows that pass the filters, of which there is one. -/
structure DeleteSpec (settings : Settings) (request : Request) (target : List Fragment)
    (compiled : Compiled) : Prop where
  target_eq : Query.target settings request = .ok target
  filtered : conditions 1 request.filters ≠ []
  statement_eq : compiled.query.statement =
    .fixed "DELETE FROM " :: target ++ whereFragments (conditions 1 request.filters)
      ++ returningFragments request.headers.prefer.wantsRepresentation
  parameters_eq : compiled.query.parameters = conditionValues (conditions 1 request.filters)
  count_eq : compiled.query.count = none
  returnsRows_eq : compiled.query.returnsRows = request.headers.prefer.wantsRepresentation
  incidents_eq : compiled.incidents = []
  page_eq : compiled.page = none

theorem compile_delete (hm : request.method = .delete)
    (h : compile settings request context = .ok compiled) :
    ∃ target, DeleteSpec settings request target compiled := by
  simp only [compile, bind_eq_ok, hm] at h
  obtain ⟨target, htarget, h⟩ := h
  simp only [compileDelete, check_eq_ok, pure_eq_ok] at h
  obtain ⟨hfiltered, rfl⟩ := h
  refine ⟨target, htarget, ?_, rfl, rfl, rfl, rfl, rfl, rfl⟩
  simpa using hfiltered

/-! ## Counting -/

variable {count : List Fragment}

/-- What a read counts is the rows that it would have without its page. -/
theorem ReadSpec.eq_of_count {target columns : List Fragment}
    (h : ReadSpec settings request target columns compiled)
    (hcount : compiled.query.count = some count) :
    count = .fixed "SELECT COUNT(*) FROM " ::
      (target ++ whereFragments (conditions 1 request.filters)) := by
  rw [h.count_eq] at hcount
  split at hcount
  case isTrue =>
    cases hcount
    rfl
  case isFalse => cases hcount

/-- Nothing but a read counts. -/
theorem compile_count (h : compile settings request context = .ok compiled)
    (hcount : compiled.query.count = some count) :
    request.method = .get ∧
      ∃ target columns, ReadSpec settings request target columns compiled := by
  cases hmethod : request.method with
  | get => exact ⟨rfl, compile_get hmethod h⟩
  | post =>
      obtain ⟨target, payload, rows, conflict, hinsert⟩ := compile_post hmethod h
      rw [hinsert.count_eq] at hcount
      cases hcount
  | patch =>
      obtain ⟨target, payload, row, hupdate⟩ := compile_patch hmethod h
      rw [hupdate.count_eq] at hcount
      cases hcount
  | delete =>
      obtain ⟨target, hdelete⟩ := compile_delete hmethod h
      rw [hdelete.count_eq] at hcount
      cases hcount

end TableGateway.Query
