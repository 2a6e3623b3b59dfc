import Mathlib.Data.List.Perm.Subperm
import Mathlib.Data.List.TakeDrop
import TableGateway.Proofs.Association
import TableGateway.Proofs.Json.Reader
import TableGateway.Proofs.Query.Columns
import TableGateway.Proofs.Query.Filtering
import TableGateway.Proofs.Sql.Fragment

/-! # Batches are inserted as they stand

The rows of an insertion have the same columns, and each value stands behind the placeholder in
the group of its row and at the place of its column. -/

namespace TableGateway

open Sql (Fragment)

/-! ## Distinct columns -/

/-- The rows have the same columns, in whatever order. -/
def Row.SameColumns (row other : Row) : Prop :=
  ∀ column, column ∈ row.names ↔ column ∈ other.names

theorem Payload.nodup_names_of_ofJson {body : Json} {payload : Payload}
    (hdistinct : body.HasDistinctNames) (h : ofJson body = .ok payload) :
    ∀ row ∈ payload.rows, row.names.Nodup := by
  intro row hrow
  obtain ⟨members, hmembers, hbody⟩ := exists_members_of_ofJson h row hrow
  rw [names_of_rowOfMembers hmembers]
  rcases hbody with rfl | ⟨items, rfl, hitem⟩
  · exact hdistinct
  · exact hdistinct members hitem

namespace Query

variable {settings : Settings} {request : Request} {context : Governance.Context}
  {payload : Payload} {rows : List Row}

/-! ## The rows to insert -/

instance (request : Request) (column : String) : Decidable (Admits request column) :=
  decidable_of_iff ((request.parameter? "columns").all fun raw =>
    column ∈ (Text.pieces ',' raw).map Text.trim) (by simp [Admits, Option.all_eq_true])

/-- The rows of a payload with those fields only that no lock takes out and that the request
admits. -/
def insertedRows (request : Request) (context : Governance.Context) (payload : Payload) :
    List Row :=
  payload.rows.map fun row => row.retain fun column _ =>
    !context.strips .insert column && Admits request column

/-- The names that the request restricts the columns to are plain identifiers. -/
def HasColumns (request : Request) : Prop :=
  ∀ raw, request.parameter? "columns" = some raw →
    ∀ name ∈ listedNames raw, Sql.Identifier.isValid name = true

theorem HasColumns.exists_restricted (h : HasColumns request) (rows : List Row) :
    ∃ restricted, restrictColumns request rows = .ok restricted := by
  unfold restrictColumns
  split
  case h_1 => exact ⟨rows, rfl⟩
  case h_2 raw hraw =>
    have hlist : identifierList "columns" raw = .ok (listedNames raw) :=
      identifierList_eq_ok_iff.mpr ⟨rfl, h raw hraw⟩
    rw [hlist]
    exact ⟨_, rfl⟩

theorem restrictColumns_strip {body : Json} (hcolumns : HasColumns request)
    (hpayload : Payload.ofJson body = .ok payload) :
    restrictColumns request (Governance.strip context request.table .insert payload.rows).rows =
      .ok (insertedRows request context payload) := by
  obtain ⟨restricted, hrestricted⟩ := hcolumns.exists_restricted
    (Governance.strip context request.table .insert payload.rows).rows
  obtain ⟨keep, rfl, hkeep⟩ := restrictColumns_eq_ok hrestricted
  rw [hrestricted, Governance.strip_rows, List.map_map, insertedRows]
  congr 1
  refine List.map_congr_left fun row hrow => ?_
  simp only [Function.comp_apply, Row.retain, List.filter_filter]
  congr 1
  refine List.filter_congr fun field hfield => ?_
  have hvalid : Sql.Identifier.isValid field.1 = true :=
    Payload.isValid_of_ofJson hpayload row hrow field.1 (List.mem_map_of_mem hfield)
  have hadmits : keep field.1 = decide (Admits request field.1) := by
    rw [Bool.eq_iff_iff, decide_eq_true_iff]
    exact hkeep field.1 (Sql.Identifier.toList_ne_nil_of_isValid hvalid)
  rw [hadmits, Bool.and_comm]

theorem nodup_names_insertedRows {body : Json} (hdistinct : body.HasDistinctNames)
    (hpayload : Payload.ofJson body = .ok payload) :
    ∀ row ∈ insertedRows request context payload, row.names.Nodup := by
  intro row hrow
  obtain ⟨attempted, hattempted, rfl⟩ := List.mem_map.mp hrow
  rw [Row.names_retain]
  exact (Payload.nodup_names_of_ofJson hdistinct hpayload attempted hattempted).filter _

/-! ## Uniform rows -/

/-- A row whose columns are distinct has as many as there are in all just where it has all of
them. -/
theorem size_eq_length_columnUnion_iff {row : Row} (hrow : row ∈ rows)
    (hnodup : row.names.Nodup) :
    row.size = (columnUnion rows).length ↔ ∀ column ∈ columnUnion rows, column ∈ row.names := by
  have hsubset : row.names ⊆ columnUnion rows :=
    fun column hcolumn => mem_columnUnion.mpr ⟨row, hrow, hcolumn⟩
  rw [Row.size_eq_length_names]
  constructor
  · intro hlength column hcolumn
    have hperm : row.names.Perm (columnUnion rows) :=
      (List.subperm_of_subset hnodup hsubset).perm_of_length_le hlength.ge
    exact hperm.mem_iff.mpr hcolumn
  · intro hall
    have hperm : row.names.Perm (columnUnion rows) :=
      (List.perm_ext_iff_of_nodup hnodup (nodup_columnUnion rows)).mpr
        fun column => ⟨fun h => hsubset h, hall column⟩
    exact hperm.length_eq

theorem forall_size_eq_iff (hnodup : ∀ row ∈ rows, row.names.Nodup) :
    (∀ row ∈ rows, row.size = (columnUnion rows).length) ↔
      ∀ row ∈ rows, ∀ other ∈ rows, row.SameColumns other := by
  constructor
  · intro hsize row hrow other hother column
    have hcovers : ∀ r ∈ rows, column ∈ columnUnion rows → column ∈ r.names :=
      fun r hr => (size_eq_length_columnUnion_iff hr (hnodup r hr)).mp (hsize r hr) column
    constructor
    · intro h
      exact hcovers other hother (mem_columnUnion.mpr ⟨row, hrow, h⟩)
    · intro h
      exact hcovers row hrow (mem_columnUnion.mpr ⟨other, hother, h⟩)
  · intro hsame row hrow
    refine (size_eq_length_columnUnion_iff hrow (hnodup row hrow)).mpr fun column hcolumn => ?_
    obtain ⟨other, hother, hmem⟩ := mem_columnUnion.mp hcolumn
    exact (hsame row hrow other hother column).mpr hmem

theorem columnUnion_eq_nil_iff :
    columnUnion rows = [] ↔ ∀ row ∈ rows, row.columns = [] := by
  rw [List.eq_nil_iff_forall_not_mem]
  simp only [mem_columnUnion, not_exists, not_and]
  constructor
  · intro h row hrow
    have hnames : row.names = [] :=
      List.eq_nil_iff_forall_not_mem.mpr fun column => h column row hrow
    exact List.map_eq_nil_iff.mp hnames
  · intro h column row hrow
    simp [Row.names, Association.names, h row hrow]

/-! ## Groups -/

/-- The group of placeholders of the row with the given place, all groups having one width. -/
def groupText (width i : Nat) : String :=
  "(" ++ ", ".intercalate
    ((List.range width).map fun j => "$" ++ Numeral.text (i * width + j + 1)) ++ ")"

theorem placeholderGroups_eq (width first count : Nat) :
    placeholderGroups width first count = (List.range count).map fun i =>
      .fixed "(" :: Fragment.listed
        ((List.range width).map fun j => [.placeholder (first + i * width + j)]) ++
        [.fixed ")"] := by
  induction count generalizing first with
  | zero => rfl
  | succ count ih =>
      rw [placeholderGroups, ih, List.range_succ_eq_map, List.map_cons, List.map_map,
        List.range'_eq_map_range, List.map_map]
      congr 1
      · simp [Function.comp_def]
      · refine List.map_congr_left fun i _ => ?_
        simp only [Function.comp_apply, Nat.succ_mul, Nat.add_assoc, Nat.add_comm width]

theorem render_placeholderGroups (width count : Nat) :
    Sql.render (Fragment.listed (placeholderGroups width 1 count)) =
      ", ".intercalate ((List.range count).map (groupText width)) := by
  rw [placeholderGroups_eq, Fragment.listed, Sql.render_intercalate, List.map_map]
  congr 1
  refine List.map_congr_left fun i _ => ?_
  rw [Function.comp_apply, Sql.render_append, Sql.render_fixed_cons, Fragment.listed,
    Sql.render_intercalate, List.map_map, groupText]
  congr 3
  refine List.map_congr_left fun j _ => ?_
  rw [Function.comp_apply, Nat.add_assoc 1, Nat.add_comm 1]
  simp [Sql.render, Fragment.chars, Numeral.text]

/-! ## Parameters -/

/-- The items of lists that all have one length, one list after the other. -/
theorem getElem?_flatMap {α β : Type} {f : α → List β} {width : Nat}
    (hwidth : ∀ a, (f a).length = width) {items : List α} {i : Nat} {a : α}
    (h : items[i]? = some a) {j : Nat} (hj : j < width) :
    (items.flatMap f)[i * width + j]? = (f a)[j]? := by
  induction items generalizing i with
  | nil => cases h
  | cons item items ih =>
      rw [List.flatMap_cons]
      cases i with
      | zero =>
          rw [List.getElem?_cons_zero, Option.some.injEq] at h
          subst h
          rw [Nat.zero_mul, Nat.zero_add, List.getElem?_append_left (by rwa [hwidth])]
      | succ i =>
          have hback : (i + 1) * width + j = (f item).length + (i * width + j) := by
            rw [hwidth, Nat.succ_mul]
            omega
          rw [hback, List.getElem?_append_right (Nat.le_add_right _ _), Nat.add_sub_cancel_left]
          exact ih h

theorem getElem?_parameters {columns : List String} {row : Row} {i j : Nat} {column : String}
    (hrow : rows[i]? = some row) (hcolumn : columns[j]? = some column) {value : Sql.Value}
    (hvalue : row.get? column = some value) :
    (rows.flatMap fun r => columns.map fun c => (r.get? c).getD .null)[i * columns.length + j]? =
      some value := by
  have hj : j < columns.length := (List.getElem?_eq_some_iff.mp hcolumn).1
  rw [getElem?_flatMap (fun _ => List.length_map _) hrow hj, List.getElem?_map, hcolumn,
    Option.map_some, hvalue, Option.getD_some]

/-! ## Conflicts -/

/-- The names that an upsert tells rows apart by are plain identifiers, or the request asks for no
upsert. -/
def HasConflictNames (request : Request) : Prop :=
  request.headers.prefer.resolution = some .mergeDuplicates →
    ∀ name ∈ conflictNames request, Sql.Identifier.isValid name = true

theorem HasConflictNames.exists_conflict (h : HasConflictNames request) (locks : LockMap)
    (columns : List String) :
    ∃ conflict, conflictFragments request locks columns = .ok conflict := by
  unfold conflictFragments
  split
  case h_1 => exact ⟨_, rfl⟩
  case h_2 => exact ⟨_, rfl⟩
  case h_3 hresolution =>
    have htarget : conflictTarget request = .ok (conflictNames request) :=
      conflictTarget_eq_ok_iff.mpr ⟨rfl, h hresolution⟩
    rw [htarget]
    simp only [bind, Except.bind]
    split
    case h_1 => exact ⟨_, rfl⟩
    case h_2 => exact ⟨_, rfl⟩

/-! ## Compilation -/

/-- The ways in which an insertion of rows can end. -/
inductive InsertCourse (request : Request) (context : Governance.Context) (rows : List Row) :
    Except Error Compiled → Prop where
  | empty (h : columnUnion rows = []) : InsertCourse request context rows (.error .emptyPayload)
  | uneven (h : columnUnion rows ≠ []) {row : Row} (hrow : row ∈ rows)
      (hsize : row.size ≠ (columnUnion rows).length) :
      InsertCourse request context rows (.error .nonUniformBatch)
  | refused (h : columnUnion rows ≠ [])
      (hsize : ∀ row ∈ rows, row.size = (columnUnion rows).length) {e : Error}
      (hconflict : conflictFragments request context.locks (columnUnion rows) = .error e) :
      InsertCourse request context rows (.error e)
  | inserted (h : columnUnion rows ≠ [])
      (hsize : ∀ row ∈ rows, row.size = (columnUnion rows).length) {conflict : List Fragment}
      (hconflict : conflictFragments request context.locks (columnUnion rows) = .ok conflict)
      (compiled : Compiled) : InsertCourse request context rows (.ok compiled)

namespace InsertCourse

variable {result : Except Error Compiled}

theorem eq_emptyPayload_iff (h : InsertCourse request context rows result) :
    result = .error .emptyPayload ↔ columnUnion rows = [] := by
  cases h with
  | empty hnil => simp [hnil]
  | uneven hne => simp [hne]
  | refused hne _ hconflict => simp [hne, conflictFragments_eq_error hconflict]
  | inserted hne => simp [hne]

theorem eq_nonUniformBatch_iff (h : InsertCourse request context rows result)
    (hne : columnUnion rows ≠ []) :
    result = .error .nonUniformBatch ↔
      ¬∀ row ∈ rows, row.size = (columnUnion rows).length := by
  cases h with
  | empty hnil => exact absurd hnil hne
  | uneven _ hrow hsize => simpa using ⟨_, hrow, hsize⟩
  | refused _ hsize hconflict => simpa [conflictFragments_eq_error hconflict] using hsize
  | inserted _ hsize => simpa using hsize

theorem exists_ok (h : InsertCourse request context rows result) (hne : columnUnion rows ≠ [])
    (hsize : ∀ row ∈ rows, row.size = (columnUnion rows).length)
    (hnames : HasConflictNames request) : ∃ compiled, result = .ok compiled := by
  cases h with
  | empty hnil => exact absurd hnil hne
  | uneven _ hrow huneven => exact absurd (hsize _ hrow) huneven
  | refused _ _ hconflict =>
      obtain ⟨conflict, hconflicts⟩ := hnames.exists_conflict context.locks (columnUnion rows)
      rw [hconflict] at hconflicts
      cases hconflicts
  | inserted _ _ _ compiled => exact ⟨compiled, rfl⟩

end InsertCourse

variable {body : Json}

theorem compile_course (hmethod : request.method = .post) (htarget : HasTarget settings request)
    (hbody : request.body = some body) (hpayload : Payload.ofJson body = .ok payload)
    (hne : payload.rows ≠ []) (hcolumns : HasColumns request) :
    InsertCourse request context (insertedRows request context payload)
      (compile settings request context) := by
  obtain ⟨fragments, hfragments⟩ := htarget.exists_target
  have hrestricted : restrictColumns request
      (Governance.strip context request.table .insert payload.rows).rows =
        .ok (insertedRows request context payload) := restrictColumns_strip hcolumns hpayload
  have hcompile : compile settings request context = compileInsert request fragments context := by
    rw [compile, hfragments, hmethod]
    rfl
  have hrows : (Payload.ofJson body).mapError Error.invalidPayload = .ok payload :=
    mapError_eq_ok.mpr hpayload
  rw [hcompile, compileInsert, hbody]
  simp only [hrows, hrestricted, bind, Except.bind, List.isEmpty_iff, hne, if_false]
  by_cases hnil : columnUnion (insertedRows request context payload) = []
  · rw [if_pos hnil]
    exact .empty hnil
  · rw [if_neg hnil]
    split
    case isTrue huneven =>
      simp only [List.any_eq_true] at huneven
      obtain ⟨row, hrow, hsize⟩ := huneven
      exact .uneven hnil hrow (by simpa using hsize)
    case isFalse heven =>
      have hsize : ∀ row ∈ insertedRows request context payload,
          row.size = (columnUnion (insertedRows request context payload)).length := by
        simpa using heven
      cases hconflict : conflictFragments request context.locks
          (columnUnion (insertedRows request context payload)) with
      | error e => exact .refused hnil hsize hconflict
      | ok conflict => exact .inserted hnil hsize hconflict _

/-! ## Batches -/

/-- A batch: the list of columns, and one group of placeholders for each row, with the value of
each field of the row behind its placeholder. -/
structure Aligned (settings : Settings) (request : Request) (context : Governance.Context)
    (compiled : Compiled) (rows : List Row) (columns : List String) : Prop where
  columns_eq : rows.head?.map Row.names = some columns
  nodup : columns.Nodup
  text_eq : ∃ target conflict, Query.target settings request = .ok target ∧
    conflictFragments request context.locks columns = .ok conflict ∧
    compiled.query.text =
      "INSERT INTO " ++ Sql.render target
        ++ " (" ++ ", ".intercalate (columns.map Sql.Identifier.quoted) ++ ") VALUES "
        ++ ", ".intercalate ((List.range rows.length).map (groupText columns.length))
        ++ Sql.render (conflict ++ returningFragments (!request.headers.prefer.wantsMinimal))
  length_eq : compiled.query.parameters.length = rows.length * columns.length
  bound : ∀ i row, rows[i]? = some row → ∀ j column, columns[j]? = some column →
    ∃ value, row.get? column = some value ∧
      compiled.query.parameters[i * columns.length + j]? = some value
  kept : ∀ i row, rows[i]? = some row → ∀ column value, (column, value) ∈ row.columns →
    ∃ j, columns[j]? = some column ∧
      compiled.query.parameters[i * columns.length + j]? = some value

theorem columnUnion_eq_of_sameColumns {first : Row} {rest : List Row}
    (hnodup : first.names.Nodup)
    (hsame : ∀ row ∈ first :: rest, ∀ other ∈ first :: rest, row.SameColumns other) :
    columnUnion (first :: rest) = first.names := by
  refine columnUnion_cons_of_subset hnodup fun other hother column hcolumn => ?_
  exact (hsame other (by simp [hother]) first (by simp) column).mp hcolumn

theorem InsertSpec.aligned {target conflict : List Fragment} {compiled : Compiled} {first : Row}
    {rest : List Row}
    (h : InsertSpec settings request context target payload (first :: rest) conflict compiled)
    (hnodup : ∀ row ∈ first :: rest, row.names.Nodup) :
    Aligned settings request context compiled (first :: rest) first.names := by
  have hsame := (forall_size_eq_iff hnodup).mp h.uniform
  have hunion := columnUnion_eq_of_sameColumns (hnodup first (by simp)) hsame
  have hvalue : ∀ row ∈ first :: rest, ∀ column ∈ first.names,
      ∃ value, row.get? column = some value := by
    intro row hrow column hcolumn
    exact Association.exists_get?_of_mem_names (hnodup row hrow)
      ((hsame first (by simp) row hrow column).mp hcolumn)
  have hstatement := h.statement_eq
  have hparameters := h.parameters_eq
  rw [hunion] at hstatement hparameters
  refine ⟨rfl, hnodup first (by simp), ⟨target, conflict, h.target_eq, ?_, ?_⟩, ?_, ?_, ?_⟩
  · rw [← hunion]
    exact h.conflict_eq
  · rw [Query.text, hstatement]
    simp only [List.cons_append, List.append_assoc, Sql.render_fixed_cons, Sql.render_append,
      Sql.render_names, render_placeholderGroups, String.append_assoc]
  · rw [hparameters]
    simp only [List.length_flatMap, List.length_map, List.map_const',
      List.sum_replicate_nat]
  · intro i row hrow j column hcolumn
    obtain ⟨value, hget⟩ := hvalue row (List.mem_of_getElem? hrow) column
      (List.mem_of_getElem? hcolumn)
    refine ⟨value, hget, ?_⟩
    rw [hparameters]
    exact getElem?_parameters hrow hcolumn hget
  · intro i row hrow column value hfield
    have hmem := List.mem_of_getElem? hrow
    have hcolumn : column ∈ first.names :=
      (hsame row hmem first (by simp) column).mp (List.mem_map_of_mem hfield)
    obtain ⟨j, hj⟩ := List.getElem?_of_mem hcolumn
    refine ⟨j, hj, ?_⟩
    rw [hparameters]
    exact getElem?_parameters hrow hj (Association.get?_of_mem (hnodup row hmem) hfield)

theorem exists_insertSpec {compiled : Compiled} (hmethod : request.method = .post)
    (hbody : request.body = some body) (hpayload : Payload.ofJson body = .ok payload)
    (hcolumns : HasColumns request) (hrows : insertedRows request context payload = rows)
    (h : compile settings request context = .ok compiled) :
    ∃ target conflict,
      InsertSpec settings request context target payload rows conflict compiled := by
  obtain ⟨target, inserted, restricted, conflict, hinsert⟩ := compile_post hmethod h
  obtain ⟨other, hother, hinserted⟩ := hinsert.payload_eq
  rw [hbody, Option.some.injEq] at hother
  rw [← hother, hpayload, Except.ok.injEq] at hinserted
  subst hinserted
  have hrestricted := hinsert.rows_eq
  rw [restrictColumns_strip hcolumns hpayload, Except.ok.injEq, hrows] at hrestricted
  subst hrestricted
  exact ⟨target, conflict, hinsert⟩

theorem compile_aligned (hmethod : request.method = .post) (htarget : HasTarget settings request)
    (hbody : request.body = some body) (hdistinct : body.HasDistinctNames)
    (hpayload : Payload.ofJson body = .ok payload) (hne : payload.rows ≠ [])
    (hcolumns : HasColumns request) (hrows : insertedRows request context payload = rows) :
    (compile settings request context = .error .emptyPayload ↔ ∀ row ∈ rows, row.columns = []) ∧
    ((∃ row ∈ rows, row.columns ≠ []) →
      (compile settings request context = .error .nonUniformBatch ↔
        ∃ row ∈ rows, ∃ other ∈ rows, ¬row.SameColumns other) ∧
      ((∀ row ∈ rows, ∀ other ∈ rows, row.SameColumns other) → HasConflictNames request →
        ∃ compiled columns, compile settings request context = .ok compiled ∧
          Aligned settings request context compiled rows columns)) := by
  have hnodup : ∀ row ∈ rows, row.names.Nodup :=
    hrows ▸ nodup_names_insertedRows hdistinct hpayload
  have hcourse : InsertCourse request context rows (compile settings request context) :=
    hrows ▸ compile_course hmethod htarget hbody hpayload hne hcolumns
  have hsome : (∃ row ∈ rows, row.columns ≠ []) ↔ columnUnion rows ≠ [] := by
    rw [ne_eq, columnUnion_eq_nil_iff]
    simp
  refine ⟨by rw [hcourse.eq_emptyPayload_iff, columnUnion_eq_nil_iff], fun hnonempty => ?_⟩
  rw [hsome] at hnonempty
  constructor
  · rw [hcourse.eq_nonUniformBatch_iff hnonempty, forall_size_eq_iff hnodup]
    simp
  · intro hsame hnames
    obtain ⟨compiled, hcompiled⟩ :=
      hcourse.exists_ok hnonempty ((forall_size_eq_iff hnodup).mpr hsame) hnames
    obtain ⟨target, conflict, hinsert⟩ :=
      exists_insertSpec hmethod hbody hpayload hcolumns hrows hcompiled
    cases rows with
    | nil => exact absurd rfl hnonempty
    | cons first rest => exact ⟨compiled, first.names, hcompiled, hinsert.aligned hnodup⟩

/-- Two objects that name the same columns in two orders, but for a locked one and one that the
request leaves out. -/
def turnedBody : Json :=
  .array [
    .object [("title", .string "a"), ("fixed", .bool true), ("rank", .number (.integer 1))],
    .object [("rank", .number (.integer 2)), ("by", .string "n"), ("title", .null)]]

/-- What they are read from. -/
def turnedText : String :=
  "[\x7b\"title\":\"a\",\"fixed\":true,\"rank\":1\x7d,\x7b\"rank\":2,\"by\":\"n\",\"title\":null\x7d]"

theorem parse?_turnedText : Json.parse? turnedText = some turnedBody := by
  have htree : Json.Tree.ofText? turnedText = some (.array [
      .object [("title".toList.map .char, .string [.char 'a']),
        ("fixed".toList.map .char, .bool true),
        ("rank".toList.map .char, .number ⟨false, ['1'], [], none⟩)],
      .object [("rank".toList.map .char, .number ⟨false, ['2'], [], none⟩),
        ("by".toList.map .char, .string [.char 'n']), ("title".toList.map .char, .null)]]) := by
    simp [turnedText, Json.Tree.ofText?, Json.value?, Json.items?, Json.members?, Json.skipSpace,
      Json.isSpace, Json.stringRest, Json.number?, Json.whole?, Json.someDigits?, Json.digitRun,
      Json.fraction?, Json.exponent?, List.span_eq_takeWhile_dropWhile]
  rw [Json.parse?, htree]
  rfl

def turnedBatch : Request where
  method := .post
  table := "tasks"
  query := [("columns", "title, rank,fixed")]
  body := some turnedBody
  headers := .none

/-- What is left of the two objects. -/
def turnedRows : List Row :=
  [⟨[("title", .text "a"), ("rank", .number (.integer 1))]⟩,
    ⟨[("rank", .number (.integer 2)), ("title", .null)]⟩]

theorem compile_aligned_turnedBatch :
    Json.parse? turnedText = turnedBatch.body ∧ ∃ compiled columns,
      compile ⟨none, none⟩ turnedBatch ⟨⟨[("fixed", .immutable)]⟩, "anon", "p", none⟩ =
        .ok compiled ∧
      compiled.query.text =
        "INSERT INTO \"tasks\" (\"title\", \"rank\") VALUES ($1, $2), ($3, $4) RETURNING *" ∧
      Aligned ⟨none, none⟩ turnedBatch ⟨⟨[("fixed", .immutable)]⟩, "anon", "p", none⟩ compiled
        turnedRows columns := by
  have htarget : HasTarget ⟨none, none⟩ turnedBatch := ⟨by decide, nofun⟩
  have hdistinct : turnedBody.HasDistinctNames :=
    Json.hasDistinctNames_of_parse? parse?_turnedText
  have hcolumns : HasColumns turnedBatch := by
    intro raw hraw
    cases hraw
    decide +kernel
  obtain ⟨payload, hpayload, hne, hrows⟩ : ∃ payload, Payload.ofJson turnedBody = .ok payload ∧
      payload.rows ≠ [] ∧ insertedRows turnedBatch ⟨⟨[("fixed", .immutable)]⟩, "anon", "p", none⟩
        payload = turnedRows := ⟨_, rfl, List.cons_ne_nil _ _, rfl⟩
  have hsame : ∀ row ∈ turnedRows, ∀ other ∈ turnedRows, row.SameColumns other := by
    have hnames : ∀ row ∈ turnedRows,
        row.names = ["title", "rank"] ∨ row.names = ["rank", "title"] := by decide
    intro row hrow other hother column
    rcases hnames row hrow with hrow | hrow <;> rcases hnames other hother with hother | hother <;>
      simp [hrow, hother, or_comm]
  obtain ⟨compiled, columns, hcompiled, haligned⟩ :=
    ((compile_aligned rfl htarget rfl hdistinct hpayload hne hcolumns hrows).2
      ⟨_, .head _, List.cons_ne_nil _ _⟩).2 hsame nofun
  have hresult : compile ⟨none, none⟩ turnedBatch
      ⟨⟨[("fixed", .immutable)]⟩, "anon", "p", none⟩ = .ok _ := rfl
  refine ⟨parse?_turnedText, compiled, columns, hcompiled, ?_, haligned⟩
  rw [hresult, Except.ok.injEq] at hcompiled
  rw [← hcompiled]
  decide +kernel

end Query

end TableGateway
