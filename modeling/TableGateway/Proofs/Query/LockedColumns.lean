import TableGateway.Proofs.Query.Alignment
import TableGateway.Proofs.Query.Columns
import TableGateway.Proofs.Query.ConflictTarget
import TableGateway.Proofs.Query.Parts

/-! # No write reaches a locked column

The columns that the text of an insertion or of an update names are what the locks leave of the
payload. An upsert changes a row that is there in those columns only that an update could change as
well. -/

namespace TableGateway

/-- Of the columns that may be inserted, those for insertion only are the ones that no update
reaches. -/
theorem LockLevel.isStripped_update {level : LockLevel} {role : String}
    (h : level.isStripped .insert role = false) :
    level.isStripped .update role = false ↔ level ≠ .insertOnly := by
  cases level with
  | unlocked => simp [isStripped]
  | immutable => cases h
  | insertOnly => simp [isStripped]
  | serviceRoleOnly => simpa [isStripped] using h

namespace Query

open Sql (Fragment)
open Sql.Identifier (quoted)

variable {settings : Settings} {request : Request} {context : Governance.Context}
  {compiled : Compiled}

/-! ## Upserts -/

theorem filter_level_ne_insertOnly {columns : List String}
    (h : ∀ column ∈ columns, context.strips .insert column = false) :
    (columns.filter fun column => context.locks.level column ≠ .insertOnly) =
      columns.filter fun column => !context.strips .update column := by
  refine List.filter_congr fun column hcolumn => ?_
  rw [Bool.eq_iff_iff, decide_eq_true_iff, Bool.not_eq_true']
  exact (LockLevel.isStripped_update (h column hcolumn)).symm

theorem conflict_eq_merge {columns : List String} {conflict : List Fragment}
    (hresolution : request.headers.prefer.resolution = some .mergeDuplicates)
    (hcolumns : ∀ column ∈ columns, context.strips .insert column = false)
    (h : conflictFragments request context.locks columns = .ok conflict) :
    ∃ key, conflictTarget request = .ok key ∧
      Sql.render conflict = " ON CONFLICT (" ++ ", ".intercalate (key.map quoted) ++ ")" ++
        mergeText (columns.filter fun column => !context.strips .update column) := by
  cases conflict_shape h with
  | unsaid hnone => simp [hresolution] at hnone
  | ignored hignore => simp [hresolution] at hignore
  | @merged _ key hkey =>
      refine ⟨key, hkey, ?_⟩
      rw [filter_level_ne_insertOnly hcolumns, render_mergeFragments, Sql.render_names]

theorem conflict_eq_plain {columns : List String} {conflict : List Fragment}
    (hresolution : request.headers.prefer.resolution ≠ some .mergeDuplicates)
    (h : conflictFragments request context.locks columns = .ok conflict) :
    Sql.render conflict = "" ∨ Sql.render conflict = " ON CONFLICT DO NOTHING" := by
  cases conflict_shape h with
  | unsaid => exact .inl rfl
  | ignored => exact .inr rfl
  | merged hmerge => exact absurd hmerge hresolution

/-! ## Insertions -/

/-- An insertion of the columns that no lock takes out and that the request admits. An upsert
changes those of them, in their order, that no lock takes out of an update. -/
structure UnlockedInsert (settings : Settings) (request : Request) (context : Governance.Context)
    (compiled : Compiled) (payload : Payload) (columns : List String) (target : List Fragment)
    (conflict : String) : Prop where
  payload_eq : ∃ body, request.body = some body ∧ Payload.ofJson body = .ok payload
  target_eq : Query.target settings request = .ok target
  text_eq : compiled.query.text =
    "INSERT INTO " ++ Sql.render target ++ " (" ++ ", ".intercalate (columns.map quoted)
      ++ ") VALUES "
      ++ ", ".intercalate ((List.range payload.rows.length).map (groupText columns.length))
      ++ conflict ++ Sql.render (returningFragments (!request.headers.prefer.wantsMinimal))
  mem_columns : ∀ column, column ∈ columns ↔ (∃ row ∈ payload.rows, column ∈ row.names) ∧
    context.strips .insert column = false ∧ Admits request column
  merge_eq : request.headers.prefer.resolution = some .mergeDuplicates →
    ∃ key, conflictTarget request = .ok key ∧
      conflict = " ON CONFLICT (" ++ ", ".intercalate (key.map quoted) ++ ")" ++
        mergeText (columns.filter fun column => !context.strips .update column)
  plain : request.headers.prefer.resolution ≠ some .mergeDuplicates →
    conflict = "" ∨ conflict = " ON CONFLICT DO NOTHING"

theorem InsertSpec.unlockedInsert {target conflict : List Fragment} {payload : Payload}
    {rows : List Row}
    (h : InsertSpec settings request context target payload rows conflict compiled) :
    UnlockedInsert settings request context compiled payload (columnUnion rows) target
      (Sql.render conflict) := by
  have hlength : rows.length = payload.rows.length := by
    obtain ⟨keep, hrows, -⟩ := h.exists_keep
    rw [hrows, List.length_map]
  have hcolumns : ∀ column ∈ columnUnion rows, context.strips .insert column = false :=
    fun column hcolumn => (h.mem_columns.mp hcolumn).2.1
  refine ⟨h.payload_eq, h.target_eq, ?_, fun column => h.mem_columns, ?_, ?_⟩
  · rw [← hlength, Query.text, h.statement_eq]
    simp only [Sql.render_append, List.cons_append, Sql.render_fixed_cons, Sql.render_names,
      render_placeholderGroups, String.append_assoc]
  · intro hresolution
    exact conflict_eq_merge hresolution hcolumns h.conflict_eq
  · intro hresolution
    exact conflict_eq_plain hresolution h.conflict_eq

/-! ## Updates -/

theorem render_assignments (columns : List String) :
    Sql.render (Fragment.listed (assignments 1 columns)) = ", ".intercalate
      (columns.mapIdx fun i column => quoted column ++ " = $" ++ Numeral.text (i + 1)) := by
  rw [assignments_eq_mapIdx, Fragment.listed, Sql.render_intercalate]
  congr 1
  refine (List.mapIdx_eq_iff.mpr fun i => ?_).symm
  have hrender (column : String) :
      Sql.render [.name column, .fixed " = ", .placeholder (i + 1)] =
        quoted column ++ " = $" ++ Numeral.text (i + 1) := by
    have hmark : " = $" = " = " ++ "$" := rfl
    simp only [Sql.render_name_cons, Sql.render_fixed_cons, Sql.render_placeholder_cons,
      Sql.render_nil, String.append_empty, hmark, String.append_assoc]
  rw [List.getElem?_map, List.getElem?_mapIdx, Option.map_map]
  exact congrArg (Option.map · columns[i]?) (funext hrender)

/-- An update of the columns that no lock takes out. -/
structure UnlockedUpdate (settings : Settings) (request : Request) (context : Governance.Context)
    (compiled : Compiled) (row : Row) (columns : List String) (target : List Fragment) : Prop where
  payload_eq : ∃ body, request.body = some body ∧ Payload.ofJson body = .ok (.single row)
  target_eq : Query.target settings request = .ok target
  text_eq : compiled.query.text =
    "UPDATE " ++ Sql.render target ++ " SET "
      ++ ", ".intercalate
        (columns.mapIdx fun i column => quoted column ++ " = $" ++ Numeral.text (i + 1))
      ++ Sql.render (whereFragments (conditions (columns.length + 1) request.filters))
      ++ Sql.render (returningFragments request.headers.prefer.wantsRepresentation)
  mem_columns : ∀ column, column ∈ columns ↔
    column ∈ row.names ∧ context.strips .update column = false

theorem UpdateSpec.unlockedUpdate {target : List Fragment} {payload row : Row}
    (h : UpdateSpec settings request context target payload row compiled) :
    UnlockedUpdate settings request context compiled payload row.names target := by
  refine ⟨h.exists_body, h.target_eq, ?_, fun column => h.mem_columns⟩
  rw [← Row.size_eq_length_names, Query.text, h.statement_eq]
  simp only [Sql.render_append, List.cons_append, Sql.render_fixed_cons, render_assignments,
    String.append_assoc]

/-! ## Both -/

theorem compile_unlocked (h : compile settings request context = .ok compiled) :
    (request.method = .post → ∃ payload columns target conflict,
      UnlockedInsert settings request context compiled payload columns target conflict) ∧
    (request.method = .patch → ∃ row columns target,
      UnlockedUpdate settings request context compiled row columns target) := by
  constructor
  · intro hmethod
    obtain ⟨target, payload, rows, conflict, hinsert⟩ := compile_post hmethod h
    exact ⟨payload, columnUnion rows, target, Sql.render conflict, hinsert.unlockedInsert⟩
  · intro hmethod
    obtain ⟨target, payload, row, hupdate⟩ := compile_patch hmethod h
    exact ⟨payload, row.names, target, hupdate.unlockedUpdate⟩

/-- A batch to be merged, with a column of every level and one that the request leaves out. -/
def lockedUpsert : Request where
  method := .post
  table := "tasks"
  query := [("columns", "id, owner, made, fixed, rank"), ("on_conflict", "id")]
  body := some (.array [
    .object [("id", .null), ("owner", .null), ("made", .null), ("fixed", .null), ("note", .null)],
    .object [("made", .null), ("note", .null), ("owner", .null), ("id", .null)]])
  headers := { Request.Headers.none with
    prefer := { Request.Prefer.none with resolution := some .mergeDuplicates } }

/-- A change of a column of every level and of two that are not locked. -/
def lockedUpdate : Request where
  method := .patch
  table := "tasks"
  query := [("id", "eq.7")]
  body := some (.object [("made", .null), ("note", .null), ("owner", .null), ("fixed", .null),
    ("rank", .null)])
  headers := .none

/-- Locks of every level, and a caller that none of them spares. -/
def everyLock : Governance.Context :=
  ⟨⟨[("made", .insertOnly), ("owner", .serviceRoleOnly), ("fixed", .immutable)]⟩, "anon", "p", none⟩

theorem compile_unlocked_everyLock :
    ∃ upsert update, compile ⟨none, none⟩ lockedUpsert everyLock = .ok upsert ∧
      compile ⟨none, none⟩ lockedUpdate everyLock = .ok update ∧
      upsert.query.text = "INSERT INTO \"tasks\" (\"id\", \"made\") VALUES ($1, $2), ($3, $4)"
        ++ " ON CONFLICT (\"id\") DO UPDATE SET \"id\" = EXCLUDED.\"id\" RETURNING *" ∧
      update.query.text =
        "UPDATE \"tasks\" SET \"note\" = $1, \"rank\" = $2 WHERE \"id\" = $3" ∧
      (∃ payload columns target conflict, UnlockedInsert ⟨none, none⟩ lockedUpsert everyLock upsert
        payload columns target conflict) ∧
      ∃ row columns target,
        UnlockedUpdate ⟨none, none⟩ lockedUpdate everyLock update row columns target := by
  have hupsert : compile ⟨none, none⟩ lockedUpsert everyLock = .ok _ := rfl
  have hupdate : compile ⟨none, none⟩ lockedUpdate everyLock = .ok _ := rfl
  exact ⟨_, _, hupsert, hupdate, by decide +kernel, by decide +kernel,
    (compile_unlocked hupsert).1 rfl, (compile_unlocked hupdate).2 rfl⟩

end Query

end TableGateway
