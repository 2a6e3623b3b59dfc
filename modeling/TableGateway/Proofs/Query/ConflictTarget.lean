import TableGateway.Proofs.Query.Compilation
import TableGateway.Proofs.Query.Parts
import TableGateway.Proofs.Sql.Fragment
import TableGateway.Proofs.Sql.Identifier
import TableGateway.Proofs.Text.Blank
import TableGateway.Proofs.Text.Occurrence

/-! # How an upsert tells rows apart

An upsert names the columns that its request lists, or the default one where there is no list. A
list that is there but holds commas and blanks only takes the default away and names nothing. -/

namespace TableGateway.Query

open Sql (Fragment)

variable {settings : Settings} {request : Request} {context : Governance.Context}
  {compiled : Compiled}

/-! ## Empty lists -/

theorem listedNames_eq_nil_iff {raw : String} :
    listedNames raw = [] ↔ ∀ c ∈ raw.toList, c = ',' ∨ Text.isBlank c = true := by
  have hpieces : listedNames raw = [] ↔
      ∀ piece ∈ Text.pieces ',' raw, Text.isBlankText piece = true := by
    simp [listedNames, List.filter_eq_nil_iff, ← Text.toList_trim_eq_nil_iff]
  rw [hpieces, Text.forall_isBlankText_pieces]
  simp only [or_iff_not_imp_left, ne_eq]

theorem conflictNames_eq_nil_iff :
    conflictNames request = [] ↔ ∃ raw, request.parameter? "on_conflict" = some raw ∧
      ∀ c ∈ raw.toList, c = ',' ∨ Text.isBlank c = true := by
  cases hraw : request.parameter? "on_conflict" with
  | none => simp [conflictNames, hraw]
  | some raw => simp [conflictNames, hraw, listedNames_eq_nil_iff]

/-! ## Texts -/

/-- Identifiers between quotes, with commas between them. -/
def quotedList (names : List String) : String :=
  ", ".intercalate (names.map fun name => "\"" ++ name ++ "\"")

theorem render_names_of_isValid {names : List String}
    (h : ∀ name ∈ names, Sql.Identifier.isValid name = true) :
    Sql.render (Fragment.names names) = quotedList names := by
  rw [Sql.render_names, quotedList]
  congr 1
  exact List.map_congr_left fun name hname => Sql.Identifier.quoted_of_isValid (h name hname)

/-- What an upsert does to a row that is there. -/
def mergeText (columns : List String) : String :=
  if columns = [] then " DO NOTHING"
  else " DO UPDATE SET " ++ ", ".intercalate (columns.map fun column =>
    Sql.Identifier.quoted column ++ " = EXCLUDED." ++ Sql.Identifier.quoted column)

theorem render_mergeFragments (key columns : List String) :
    Sql.render (mergeFragments key columns) =
      " ON CONFLICT (" ++ Sql.render (Fragment.names key) ++ ")" ++ mergeText columns := by
  have hset : Sql.render (Fragment.listed (columns.map fun column =>
      [.name column, .fixed " = EXCLUDED.", .name column])) = ", ".intercalate (columns.map
        fun column => Sql.Identifier.quoted column ++ " = EXCLUDED."
          ++ Sql.Identifier.quoted column) := by
    rw [Fragment.listed, Sql.render_intercalate, List.map_map]
    congr 1
    refine List.map_congr_left fun column _ => ?_
    rw [Function.comp_apply, Sql.render_name_cons, Sql.render_fixed_cons, Sql.render_name_cons,
      Sql.render_nil, String.append_empty, String.append_assoc]
  rw [mergeFragments, List.cons_append, Sql.render_fixed_cons, Sql.render_append,
    String.append_assoc, String.append_assoc]
  congr 2
  unfold mergeText
  split
  case isTrue => rfl
  case isFalse =>
    rw [Sql.render_fixed_cons, hset, ← String.append_assoc]
    rfl

/-! ## Upserts -/

/-- An upsert whose conflict target lists the given names. -/
structure Targeted (settings : Settings) (request : Request) (compiled : Compiled)
    (names : List String) : Prop where
  text_eq : ∃ target columns updated count,
    Query.target settings request = .ok target ∧
      compiled.query.text =
        Sql.render (.fixed "INSERT INTO " :: target ++ .fixed " (" :: Fragment.names columns
          ++ .fixed ") VALUES " :: Fragment.listed (placeholderGroups columns.length 1 count))
        ++ (" ON CONFLICT (" ++ quotedList names ++ ")" ++ mergeText updated)
        ++ Sql.render (returningFragments (!request.headers.prefer.wantsMinimal))
  valid : ∀ name ∈ names, Sql.Identifier.isValid name = true
  absent : request.parameter? "on_conflict" = none → names = ["id"]
  present : ∀ raw, request.parameter? "on_conflict" = some raw → names = listedNames raw
  eq_nil_iff : names = [] ↔ ∃ raw, request.parameter? "on_conflict" = some raw ∧
    ∀ c ∈ raw.toList, c = ',' ∨ Text.isBlank c = true

theorem InsertSpec.targeted {target conflict : List Fragment} {payload : Payload}
    {rows : List Row}
    (h : InsertSpec settings request context target payload rows conflict compiled)
    (hresolution : request.headers.prefer.resolution = some .mergeDuplicates) :
    Targeted settings request compiled (conflictNames request) := by
  cases conflict_shape h.conflict_eq with
  | unsaid hnone => simp [hresolution] at hnone
  | ignored hignore => simp [hresolution] at hignore
  | @merged _ key hkey =>
      obtain ⟨rfl, hvalid⟩ := conflictTarget_eq_ok_iff.mp hkey
      refine ⟨⟨target, columnUnion rows,
        (columnUnion rows).filter fun column => context.locks.level column ≠ .insertOnly,
        rows.length, h.target_eq, ?_⟩, hvalid, ?_, ?_, conflictNames_eq_nil_iff⟩
      · rw [Query.text, h.statement_eq, Sql.render_append, Sql.render_append,
          render_mergeFragments, render_names_of_isValid hvalid]
      · intro hnone
        rw [conflictNames, hnone]
        rfl
      · intro raw hraw
        rw [conflictNames, hraw]

theorem compile_targeted (hmethod : request.method = .post)
    (hresolution : request.headers.prefer.resolution = some .mergeDuplicates)
    (h : compile settings request context = .ok compiled) :
    ∃ names, Targeted settings request compiled names := by
  obtain ⟨target, payload, rows, conflict, hinsert⟩ := compile_post hmethod h
  exact ⟨conflictNames request, hinsert.targeted hresolution⟩

/-- An upsert of a page, with the given values for `on_conflict`. -/
def pageUpsert (targets : List String) : Request where
  method := .post
  table := "pages"
  query := targets.map fun raw => ("on_conflict", raw)
  body := some (.object [("title", .string "t")])
  headers := { Request.Headers.none with
    prefer := { Request.Prefer.none with resolution := some .mergeDuplicates } }

theorem compile_targeted_listedPage :
    ∃ compiled,
      compile ⟨none, none⟩ (pageUpsert ["id", " slug, ,lang,"]) ⟨⟨[]⟩, "anon", "p", none⟩ =
        .ok compiled ∧
      compiled.query.text = "INSERT INTO \"pages\" (\"title\") VALUES ($1)"
        ++ " ON CONFLICT (\"slug\", \"lang\") DO UPDATE SET \"title\" = EXCLUDED.\"title\""
        ++ " RETURNING *" ∧
      ∃ names,
        Targeted ⟨none, none⟩ (pageUpsert ["id", " slug, ,lang,"]) compiled names := by
  have h : compile ⟨none, none⟩ (pageUpsert ["id", " slug, ,lang,"])
      ⟨⟨[]⟩, "anon", "p", none⟩ = .ok _ := rfl
  exact ⟨_, h, by decide +kernel, compile_targeted rfl rfl h⟩

/-- A list of names begins with a quote. -/
theorem occursIn_of_targeted {text front back : String} {names : List String} (hne : names ≠ [])
    (h : text = front ++ " ON CONFLICT (" ++ quotedList names ++ ")" ++ back) :
    Text.occursIn " ON CONFLICT (\"" text = true := by
  obtain ⟨name, rest, rfl⟩ := List.exists_cons_of_ne_nil hne
  obtain ⟨tail, htail⟩ : ∃ tail, quotedList (name :: rest) = "\"" ++ tail := by
    cases rest with
    | nil => exact ⟨name ++ "\"", by simp [quotedList, String.append_assoc]⟩
    | cons next rest =>
        refine ⟨name ++ "\"" ++ ", " ++ quotedList (next :: rest), ?_⟩
        simp only [quotedList, List.map_cons, String.intercalate_cons_cons, String.append_assoc]
  rw [Text.occursIn_iff, h, htail]
  refine ⟨front.toList, (tail ++ ")" ++ back).toList, ?_⟩
  simp only [String.toList_append, List.append_assoc]
  rfl

/-- A list without names takes the default away and leaves nothing between the parentheses. -/
theorem not_targeted_blankPage :
    ∃ compiled,
      compile ⟨none, none⟩ (pageUpsert [" , "]) ⟨⟨[]⟩, "anon", "p", none⟩ = .ok compiled ∧
      ∀ front names back, names ≠ [] →
        compiled.query.text ≠ front ++ " ON CONFLICT (" ++ quotedList names ++ ")" ++ back := by
  have h : compile ⟨none, none⟩ (pageUpsert [" , "]) ⟨⟨[]⟩, "anon", "p", none⟩ = .ok _ := rfl
  refine ⟨_, h, fun front names back hne htext => ?_⟩
  have hquote := occursIn_of_targeted hne htext
  revert hquote
  decide +kernel

end TableGateway.Query
