import Mathlib.Data.List.Nodup
import TableGateway.Proofs.Governance.Strip
import TableGateway.Proofs.Query.Compilation
import TableGateway.Proofs.Query.Parts
import TableGateway.Proofs.Sql.Identifier

/-! # Where the columns of a write come from -/

namespace TableGateway

/-! ## Payloads -/

namespace Payload

theorem exists_members_of_rowsOfItems {items : List Json} {rows : List Row}
    (h : rowsOfItems items = .ok rows) :
    ∀ row ∈ rows, ∃ members, .object members ∈ items ∧ rowOfMembers members = .ok row := by
  induction items generalizing rows with
  | nil =>
      cases h
      simp
  | cons item items ih =>
      simp only [rowsOfItems, bind_eq_ok, pure_eq_ok] at h
      obtain ⟨row, hrow, rest, hrest, rfl⟩ := h
      intro r hr
      rcases List.mem_cons.mp hr with rfl | hr
      · unfold rowOfItem at hrow
        split at hrow
        case h_1 members => exact ⟨members, by simp, hrow⟩
        case h_2 => cases hrow
      · obtain ⟨members, hmembers, hr⟩ := ih hrest r hr
        exact ⟨members, by simp [hmembers], hr⟩

/-- Each row is that of an object, which is the body or one of its items. -/
theorem exists_members_of_ofJson {body : Json} {payload : Payload} (h : ofJson body = .ok payload) :
    ∀ row ∈ payload.rows, ∃ members, rowOfMembers members = .ok row ∧
      (body = .object members ∨ ∃ items, body = .array items ∧ .object members ∈ items) := by
  unfold ofJson at h
  split at h
  case h_1 members =>
    obtain ⟨single, hsingle, rfl⟩ := map_eq_ok.mp h
    intro row hrow
    rw [List.mem_singleton.mp hrow]
    exact ⟨members, hsingle, .inl rfl⟩
  case h_2 items =>
    obtain ⟨batch, hbatch, rfl⟩ := map_eq_ok.mp h
    intro row hrow
    obtain ⟨members, hmembers, hrow⟩ := exists_members_of_rowsOfItems hbatch row hrow
    exact ⟨members, hrow, .inr ⟨items, rfl, hmembers⟩⟩
  case h_3 => cases h

/-- The columns of a payload are plain identifiers. -/
theorem isValid_of_ofJson {body : Json} {payload : Payload} (h : ofJson body = .ok payload) :
    ∀ row ∈ payload.rows, ∀ column ∈ row.names, Sql.Identifier.isValid column = true := by
  intro row hrow
  obtain ⟨members, hmembers, -⟩ := exists_members_of_ofJson h row hrow
  exact isValid_of_rowOfMembers hmembers

end Payload

namespace Query

/-! ## Restricted columns -/

/-- The request names the column among those to insert, or names none. -/
def Admits (request : Request) (column : String) : Prop :=
  ∀ raw, request.parameter? "columns" = some raw → column ∈ (Text.pieces ',' raw).map Text.trim

theorem mem_identifierList {key raw : String} {names : List String}
    (h : identifierList key raw = .ok names) {name : String} (hne : name.toList ≠ []) :
    name ∈ names ↔ name ∈ (Text.pieces ',' raw).map Text.trim := by
  obtain ⟨rfl, -⟩ := identifierList_eq_ok_iff.mp h
  rw [mem_listedNames]
  exact and_iff_left hne

theorem restrictColumns_eq_ok {request : Request} {rows restricted : List Row}
    (h : restrictColumns request rows = .ok restricted) :
    ∃ keep : String → Bool, restricted = rows.map (fun row => row.retain fun c _ => keep c) ∧
      ∀ column, column.toList ≠ [] → (keep column = true ↔ Admits request column) := by
  unfold restrictColumns at h
  split at h
  case h_1 hnone =>
    cases h
    exact ⟨fun _ => true, by simp, by simp [Admits, hnone]⟩
  case h_2 raw hsome =>
    simp only [bind_eq_ok, pure_eq_ok] at h
    obtain ⟨allowed, hallowed, rfl⟩ := h
    refine ⟨fun c => decide (c ∈ allowed), rfl, ?_⟩
    intro column hne
    simp [Admits, hsome, mem_identifierList hallowed hne]

/-! ## The union of the columns -/

theorem columnUnion_congr {rows others : List Row}
    (h : rows.map Row.names = others.map Row.names) : columnUnion rows = columnUnion others := by
  simp only [columnUnion, List.flatMap_def, h]

/-- Names, and behind them those others, each once, that are not among them. -/
def withNames (union names : List String) : List String :=
  names.foldl (fun union c => if c ∈ union then union else union ++ [c]) union

theorem columnUnion_cons (row : Row) (rows : List Row) :
    columnUnion (row :: rows) = withNames (withNames [] row.names) (rows.flatMap Row.names) := by
  rw [columnUnion, List.flatMap_cons, List.foldl_append]
  rfl

theorem withNames_cons_of_mem {union : List String} {name : String} (h : name ∈ union)
    (names : List String) : withNames union (name :: names) = withNames union names := by
  rw [withNames, List.foldl_cons, if_pos h]
  rfl

theorem withNames_cons_of_not_mem {union : List String} {name : String} (h : name ∉ union)
    (names : List String) :
    withNames union (name :: names) = withNames (union ++ [name]) names := by
  rw [withNames, List.foldl_cons, if_neg h]
  rfl

theorem mem_withNames {union names : List String} {column : String} :
    column ∈ withNames union names ↔ column ∈ union ∨ column ∈ names := by
  induction names generalizing union with
  | nil => simp [withNames]
  | cons name names ih =>
      by_cases h : name ∈ union
      · rw [withNames_cons_of_mem h, ih, List.mem_cons]
        constructor
        · rintro (hunion | hnames)
          · exact .inl hunion
          · exact .inr (.inr hnames)
        · rintro (hunion | rfl | hnames)
          · exact .inl hunion
          · exact .inl h
          · exact .inr hnames
      · rw [withNames_cons_of_not_mem h, ih]
        simp [or_assoc]

theorem nodup_withNames {union : List String} (h : union.Nodup) (names : List String) :
    (withNames union names).Nodup := by
  induction names generalizing union with
  | nil => exact h
  | cons name names ih =>
      by_cases hmem : name ∈ union
      · rw [withNames_cons_of_mem hmem]
        exact ih h
      · rw [withNames_cons_of_not_mem hmem]
        exact ih (List.concat_eq_append ▸ List.Nodup.concat hmem h)

theorem withNames_of_subset {union names : List String} (h : ∀ name ∈ names, name ∈ union) :
    withNames union names = union := by
  induction names with
  | nil => rfl
  | cons name names ih =>
      rw [withNames_cons_of_mem (h name (by simp))]
      exact ih fun other hother => h other (by simp [hother])

theorem withNames_of_disjoint {union names : List String} (hnames : names.Nodup)
    (h : ∀ name ∈ names, name ∉ union) : withNames union names = union ++ names := by
  induction names generalizing union with
  | nil => simp [withNames]
  | cons name names ih =>
      obtain ⟨hnew, hnames⟩ := List.nodup_cons.mp hnames
      have hrest : ∀ other ∈ names, other ∉ union ++ [name] := by
        intro other hother hmem
        rcases List.mem_append.mp hmem with hmem | hmem
        · exact h other (by simp [hother]) hmem
        · exact hnew (List.mem_singleton.mp hmem ▸ hother)
      rw [withNames_cons_of_not_mem (h name (by simp)), ih hnames hrest, List.append_assoc]
      rfl

theorem mem_columnUnion {rows : List Row} {column : String} :
    column ∈ columnUnion rows ↔ ∃ row ∈ rows, column ∈ row.names := by
  rw [columnUnion, ← withNames, mem_withNames]
  simp

theorem nodup_columnUnion (rows : List Row) : (columnUnion rows).Nodup :=
  nodup_withNames List.nodup_nil (rows.flatMap Row.names)

/-- Where the first row has all the columns, they come in its order. -/
theorem columnUnion_cons_of_subset {row : Row} {rows : List Row} (hrow : row.names.Nodup)
    (h : ∀ other ∈ rows, ∀ column ∈ other.names, column ∈ row.names) :
    columnUnion (row :: rows) = row.names := by
  have hfirst : withNames [] row.names = row.names :=
    withNames_of_disjoint hrow fun _ _ => List.not_mem_nil
  rw [columnUnion_cons, hfirst]
  refine withNames_of_subset fun column hcolumn => ?_
  obtain ⟨other, hother, hcolumn⟩ := List.mem_flatMap.mp hcolumn
  exact h other hother column hcolumn

theorem mem_columnUnion_map_retain {rows : List Row} {keep : String → Bool} {column : String} :
    column ∈ columnUnion (rows.map fun row => row.retain fun c _ => keep c) ↔
      (∃ row ∈ rows, column ∈ row.names) ∧ keep column = true := by
  rw [mem_columnUnion]
  constructor
  · rintro ⟨_, hretained, hcolumn⟩
    obtain ⟨row, hrow, rfl⟩ := List.mem_map.mp hretained
    obtain ⟨hcolumn, hkept⟩ := Row.mem_names_retain.mp hcolumn
    exact ⟨⟨row, hrow, hcolumn⟩, hkept⟩
  · rintro ⟨⟨row, hrow, hcolumn⟩, hkept⟩
    exact ⟨_, List.mem_map_of_mem hrow, Row.mem_names_retain.mpr ⟨hcolumn, hkept⟩⟩

/-! ## The columns of an insertion -/

variable {settings : Settings} {request : Request} {context : Governance.Context}
  {target conflict : List Sql.Fragment} {payload : Payload} {rows : List Row} {compiled : Compiled}

/-- The rows to insert are those of the payload, restricted to the columns that no lock takes out
and that the request admits. -/
theorem exists_keep_of_restrictColumns {table : String} {attempted rows : List Row}
    (h : restrictColumns request (Governance.strip context table .insert attempted).rows =
      .ok rows) :
    ∃ keep : String → Bool, rows = attempted.map (fun row => row.retain fun c _ => keep c) ∧
      ∀ column, column.toList ≠ [] → (keep column = true ↔
        context.strips .insert column = false ∧ Admits request column) := by
  obtain ⟨admitted, hrows, hadmitted⟩ := restrictColumns_eq_ok h
  refine ⟨fun c => !context.strips .insert c && admitted c, ?_, ?_⟩
  · rw [hrows, Governance.strip_rows, List.map_map]
    congr 1
    funext row
    simp [Row.retain, List.filter_filter, Bool.and_comm]
  · intro column hne
    simp [hadmitted column hne]

theorem isValid_of_restrictColumns {table : String} {body : Json}
    (hbody : Payload.ofJson body = .ok payload)
    (h : restrictColumns request (Governance.strip context table .insert payload.rows).rows =
      .ok rows) : ∀ column ∈ columnUnion rows, Sql.Identifier.isValid column = true := by
  intro column hcolumn
  obtain ⟨keep, rfl, -⟩ := exists_keep_of_restrictColumns h
  obtain ⟨⟨row, hrow, hmem⟩, -⟩ := mem_columnUnion_map_retain.mp hcolumn
  exact Payload.isValid_of_ofJson hbody row hrow column hmem

theorem InsertSpec.exists_keep
    (h : InsertSpec settings request context target payload rows conflict compiled) :
    ∃ keep : String → Bool, rows = payload.rows.map (fun row => row.retain fun c _ => keep c) ∧
      ∀ column, column.toList ≠ [] → (keep column = true ↔
        context.strips .insert column = false ∧ Admits request column) :=
  exists_keep_of_restrictColumns h.rows_eq

theorem InsertSpec.mem_columns
    (h : InsertSpec settings request context target payload rows conflict compiled)
    {column : String} :
    column ∈ columnUnion rows ↔ (∃ row ∈ payload.rows, column ∈ row.names) ∧
      context.strips .insert column = false ∧ Admits request column := by
  obtain ⟨body, -, hbody⟩ := h.payload_eq
  obtain ⟨keep, rfl, hkeep⟩ := h.exists_keep
  rw [mem_columnUnion_map_retain]
  refine and_congr_right ?_
  rintro ⟨row, hrow, hcolumn⟩
  exact hkeep column (Sql.Identifier.toList_ne_nil_of_isValid
    (Payload.isValid_of_ofJson hbody row hrow column hcolumn))

theorem InsertSpec.isValid_column
    (h : InsertSpec settings request context target payload rows conflict compiled) :
    ∀ column ∈ columnUnion rows, Sql.Identifier.isValid column = true := by
  obtain ⟨body, -, hbody⟩ := h.payload_eq
  exact isValid_of_restrictColumns hbody h.rows_eq

/-! ## The columns of an update -/

variable {attempted row : Row}

theorem updatedRow_eq_ok (h : updatedRow request = .ok row) :
    request.body = none ∧ row = Row.empty ∨
      ∃ body, request.body = some body ∧ Payload.ofJson body = .ok (.single row) := by
  unfold updatedRow at h
  split at h
  case h_1 hbody =>
    cases h
    exact .inl ⟨hbody, rfl⟩
  case h_2 body hbody =>
    simp only [bind_eq_ok, mapError_eq_ok] at h
    obtain ⟨payload, hpayload, h⟩ := h
    split at h
    case h_1 single =>
      rw [pure_eq_ok] at h
      exact .inr ⟨body, hbody, h ▸ hpayload⟩
    case h_2 => cases h

/-- What governance leaves of the row of a body has plain columns. -/
theorem isValid_of_updatedRow {table : String} (h : updatedRow request = .ok row) :
    ∀ column ∈ ((Governance.strip context table .update [row]).rows.headD Row.empty).names,
      Sql.Identifier.isValid column = true := by
  rw [Governance.headD_strip]
  intro column hcolumn
  have hmem := (Row.mem_names_retain.mp hcolumn).1
  rcases updatedRow_eq_ok h with ⟨-, rfl⟩ | ⟨body, -, hbody⟩
  · cases hmem
  · exact Payload.isValid_of_ofJson hbody row (by simp [Payload.rows]) column hmem

/-- The row of an update is that of the payload, restricted to the columns that no lock takes
out. -/
theorem UpdateSpec.row_eq_retain
    (h : UpdateSpec settings request context target attempted row compiled) :
    row = attempted.retain fun column _ => !context.strips .update column := by
  rw [← h.row_eq, Governance.headD_strip]

theorem UpdateSpec.mem_columns
    (h : UpdateSpec settings request context target attempted row compiled) {column : String} :
    column ∈ row.names ↔ column ∈ attempted.names ∧ context.strips .update column = false := by
  rw [h.row_eq_retain]
  exact Row.mem_names_retain.trans (by rw [Bool.not_eq_true'])

/-- A missing body is an empty row, which is never written. -/
theorem UpdateSpec.exists_body
    (h : UpdateSpec settings request context target attempted row compiled) :
    ∃ body, request.body = some body ∧ Payload.ofJson body = .ok (.single attempted) := by
  rcases updatedRow_eq_ok h.payload_eq with ⟨-, rfl⟩ | hbody
  · exact absurd (congrArg Row.columns h.row_eq_retain) h.row_ne
  · exact hbody

theorem UpdateSpec.isValid_column
    (h : UpdateSpec settings request context target attempted row compiled) :
    ∀ column ∈ row.names, Sql.Identifier.isValid column = true := by
  rw [← h.row_eq]
  exact isValid_of_updatedRow h.payload_eq

end Query

end TableGateway
