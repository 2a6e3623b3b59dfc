import TableGateway.Proofs.Result
import TableGateway.Query.Compile

/-! # The parts of statements

What each part of a statement can look like is said here once. -/

namespace TableGateway.Query

open Sql (Fragment)

/-! ## Targets -/

/-- A target is a plain identifier, behind another one if there is a schema. -/
inductive TargetShape (request : Request) : List Fragment → Prop where
  | table (htable : Sql.Identifier.isValid request.table = true) :
      TargetShape request [.name request.table]
  | schema {schema : String} (htable : Sql.Identifier.isValid request.table = true)
      (hschema : Sql.Identifier.isValid schema = true) :
      TargetShape request [.name schema, .fixed ".", .name request.table]

theorem target_shape {settings : Settings} {request : Request} {fragments : List Fragment}
    (h : target settings request = .ok fragments) : TargetShape request fragments := by
  unfold target at h
  split at h
  case isTrue => cases h
  case isFalse htable =>
    rw [Bool.not_eq_true, Bool.not_eq_false'] at htable
    split at h
    case h_1 =>
      cases h
      exact .table htable
    case h_2 schema _ =>
      split at h
      case isTrue hschema =>
        cases h
        exact .schema htable hschema
      case isFalse => cases h

/-! ## Lists of columns -/

theorem columnName_eq_ok_iff {name column : String} :
    columnName name = .ok column ↔
      column = Text.trim name ∧ Sql.Identifier.isValid (Text.trim name) = true := by
  simp only [columnName]
  split
  case isTrue hvalid =>
    rw [Except.ok.injEq, eq_comm]
    exact (and_iff_left hvalid).symm
  case isFalse hvalid =>
    constructor
    · intro h
      cases h
    · intro h
      exact absurd h.2 hvalid

/-- An entry without a mark in it is the star, an expression, or a column with an optional label. -/
inductive EntryShape (entry : String) : List Fragment → Prop where
  | star (h : entry = "*") : EntryShape entry [.fixed "*"]
  | expression (h : isExpression entry = true) : EntryShape entry [.expression entry]
  | column (hcut : Text.cut ':' entry = none)
      (hcolumn : Sql.Identifier.isValid (Text.trim entry) = true) :
      EntryShape entry [.name (Text.trim entry)]
  | labelled {column label : String} (hcut : Text.cut ':' entry = some (column, label))
      (hcolumn : Sql.Identifier.isValid (Text.trim column) = true)
      (hlabel : Sql.Identifier.isValid (Text.trim label) = true) :
      EntryShape entry [.name (Text.trim column), .fixed " AS ", .name (Text.trim label)]

theorem selectEntry_shape {entry : String} {fragments : List Fragment}
    (h : selectEntry entry = .ok fragments) :
    (∀ mark ∈ forbiddenMarks, Text.occursIn mark entry = false) ∧ EntryShape entry fragments := by
  unfold selectEntry at h
  split at h
  case isTrue => cases h
  case isFalse hmarks =>
    refine ⟨by simpa using hmarks, ?_⟩
    split at h
    case isTrue hstar =>
      cases h
      exact .star hstar
    case isFalse =>
      split at h
      case isTrue hexpression =>
        cases h
        exact .expression hexpression
      case isFalse =>
        split at h
        case h_1 hcut =>
          simp only [bind_eq_ok, pure_eq_ok, columnName_eq_ok_iff] at h
          obtain ⟨_, ⟨rfl, hcolumn⟩, rfl⟩ := h
          exact .column hcut hcolumn
        case h_2 hcut =>
          simp only [bind_eq_ok, pure_eq_ok, columnName_eq_ok_iff] at h
          obtain ⟨_, ⟨rfl, hcolumn⟩, _, ⟨rfl, hlabel⟩, rfl⟩ := h
          exact .labelled hcut hcolumn hlabel

/-- A list is the star alone where it has no entry. -/
theorem selectList_items {raw : Option String} {columns : List Fragment}
    (h : selectList raw = .ok columns) : ∃ items,
      (columns = [.fixed "*"] ∨ columns = Fragment.listed items) ∧
      ∀ item ∈ items, ∃ part ∈ splitTopLevel (raw.getD ""),
        selectEntry (Text.trim part) = .ok item := by
  simp only [selectList, bind_eq_ok] at h
  obtain ⟨items, hitems, h⟩ := h
  refine ⟨items, ?_, fun item hitem => ?_⟩
  · split at h
    case h_1 =>
      cases h
      exact .inl rfl
    case h_2 =>
      cases h
      exact .inr rfl
  · obtain ⟨entry, hentry, hselect⟩ := exists_of_mem_mapM hitems hitem
    obtain ⟨part, hpart, rfl⟩ := List.mem_map.mp (List.mem_filter.mp hentry).1
    exact ⟨part, hpart, hselect⟩

/-! ## Conditions -/

theorem Filter.parse?_column {column raw : String} {f : Filter}
    (h : Filter.parse? column raw = some f) :
    f.column = column ∧ Sql.Identifier.isValid column = true := by
  unfold Filter.parse? at h
  split at h
  case isTrue hvalid =>
    cases h
    exact ⟨rfl, hvalid⟩
  case isFalse => cases h

/-- The symbols of comparisons. -/
def symbols : List String :=
  ["=", "!=", ">", ">=", "<", "<=", "@>", "<@", "LIKE", "ILIKE"]

/-- The keywords behind `IS`. -/
def keywords : List String :=
  ["NULL", "TRUE", "FALSE"]

/-- A condition of a column, which counts its placeholder from the given one. -/
inductive ConditionShape (column : String) (n : Nat) : Condition → Prop where
  | comparison {symbol : String} (h : symbol ∈ symbols) (value : Sql.Value) :
      ConditionShape column n (comparison column symbol n value)
  | keyword {keyword : String} (h : keyword ∈ keywords) :
      ConditionShape column n ⟨[.name column, .fixed (" IS " ++ keyword)], none⟩
  | noItems : ConditionShape column n ⟨[.fixed "1=0"], none⟩
  | items (items : List String) :
      ConditionShape column n
        ⟨[.name column, .fixed " = ANY(", .placeholder n, .fixed ")"], some (.textArray items)⟩

theorem isKeyword?_mem {operand keyword : String} (h : isKeyword? operand = some keyword) :
    keyword ∈ keywords := by
  simp only [isKeyword?] at h
  split at h
  · cases h
    decide
  · split at h
    · cases h
      decide
    · split at h
      · cases h
        decide
      · cases h

theorem Filter.condition?_shape {f : Filter} {n : Nat} {c : Condition}
    (h : f.condition? n = some c) : ConditionShape f.column n c := by
  unfold Filter.condition? at h
  cases hop : f.operator <;> simp only [hop] at h
  case is =>
    obtain ⟨keyword, hkeyword, rfl⟩ := Option.map_eq_some_iff.mp h
    exact .keyword (isKeyword?_mem hkeyword)
  case «in» =>
    split at h
    case h_1 =>
      cases h
      exact .noItems
    case h_2 =>
      cases h
      exact .items _
  all_goals
    cases h
    exact .comparison (by decide) _

theorem exists_of_mem_conditions {placeholder : Nat} {filters : List (String × String)}
    {c : Condition} (h : c ∈ conditions placeholder filters) :
    ∃ p ∈ filters, ∃ f n, Filter.parse? p.1 p.2 = some f ∧ f.condition? n = some c := by
  induction filters generalizing placeholder with
  | nil => cases h
  | cons p filters ih =>
      have hrest : ∀ m, c ∈ conditions m filters →
          ∃ q ∈ p :: filters, ∃ f n, Filter.parse? q.1 q.2 = some f ∧ f.condition? n = some c := by
        intro m hm
        obtain ⟨q, hq, hcondition⟩ := ih hm
        exact ⟨q, by simp [hq], hcondition⟩
      simp only [conditions] at h
      split at h
      case h_1 => exact hrest _ h
      case h_2 first hfirst =>
        obtain ⟨f, hparse, hcondition⟩ := Option.bind_eq_some_iff.mp hfirst
        rcases List.mem_cons.mp h with rfl | h
        · exact ⟨p, by simp, f, placeholder, hparse, hcondition⟩
        · exact hrest _ h

/-- A condition is that of a filter on a plain column, at some placeholder. -/
theorem shape_of_mem_conditions {placeholder : Nat} {filters : List (String × String)}
    {c : Condition} (h : c ∈ conditions placeholder filters) :
    ∃ column n, Sql.Identifier.isValid column = true ∧ ConditionShape column n c := by
  obtain ⟨⟨column, raw⟩, -, f, n, hparse, hcondition⟩ := exists_of_mem_conditions h
  obtain ⟨rfl, hvalid⟩ := Filter.parse?_column hparse
  exact ⟨f.column, n, hvalid, Filter.condition?_shape hcondition⟩

/-! ## Order -/

/-- What stands behind a column to sort by. -/
def directions : List String :=
  [" ASC", " ASC NULLS FIRST", " ASC NULLS LAST", " DESC", " DESC NULLS FIRST", " DESC NULLS LAST"]

theorem OrderTerm.fragments_shape (t : OrderTerm) :
    ∃ direction ∈ directions, t.fragments = [.name t.column, .fixed direction] := by
  -- The column has no part in it, so that all cases can be tried on one name.
  have hback : ∀ descending nulls, ∃ direction ∈ directions,
      (OrderTerm.fragments ⟨"", descending, nulls⟩).tail = [.fixed direction] := by
    intro descending nulls
    cases descending <;> rcases nulls with _ | _ | _ <;> decide
  obtain ⟨direction, hdirection, h⟩ := hback t.descending t.nulls
  exact ⟨direction, hdirection, congrArg (Fragment.name t.column :: ·) h⟩

/-! ## Conflicts -/

/-- What an upsert does to a row that is there: it changes the given columns, or nothing where
there are none. -/
def mergeFragments (key columns : List String) : List Fragment :=
  .fixed " ON CONFLICT (" :: Fragment.names key ++
    if columns = [] then [.fixed ") DO NOTHING"]
    else .fixed ") DO UPDATE SET " :: Fragment.listed (columns.map fun column =>
      [.name column, .fixed " = EXCLUDED.", .name column])

/-- What an insertion does about the rows that are there, which hangs on the preference of the
request. -/
inductive ConflictShape (request : Request) (locks : LockMap) (columns : List String) :
    List Fragment → Prop where
  | unsaid (h : request.headers.prefer.resolution = none) : ConflictShape request locks columns []
  | ignored (h : request.headers.prefer.resolution = some .ignoreDuplicates) :
      ConflictShape request locks columns [.fixed " ON CONFLICT DO NOTHING"]
  | merged (h : request.headers.prefer.resolution = some .mergeDuplicates) {key : List String}
      (hkey : conflictTarget request = .ok key) :
      ConflictShape request locks columns
        (mergeFragments key (columns.filter fun column => locks.level column ≠ .insertOnly))

theorem conflict_shape {request : Request} {locks : LockMap} {columns : List String}
    {fragments : List Fragment} (h : conflictFragments request locks columns = .ok fragments) :
    ConflictShape request locks columns fragments := by
  unfold conflictFragments at h
  split at h
  case h_1 hresolution =>
    cases h
    exact .unsaid hresolution
  case h_2 hresolution =>
    cases h
    exact .ignored hresolution
  case h_3 hresolution =>
    simp only [bind_eq_ok] at h
    obtain ⟨key, hkey, h⟩ := h
    have hmerged : ConflictShape request locks columns _ := .merged hresolution hkey
    split at h
    case h_1 hnone =>
      rw [pure_eq_ok] at h
      rwa [mergeFragments, if_pos hnone, h] at hmerged
    case h_2 hsome =>
      rw [pure_eq_ok] at h
      rwa [mergeFragments, if_neg hsome, h] at hmerged

/-! ## Lists of names -/

/-- The names that commas separate, without the blanks around them. Blank ones are left out. -/
def listedNames (raw : String) : List String :=
  ((Text.pieces ',' raw).map Text.trim).filter fun name => !name.toList.isEmpty

theorem mem_listedNames {raw name : String} :
    name ∈ listedNames raw ↔
      name ∈ (Text.pieces ',' raw).map Text.trim ∧ name.toList ≠ [] := by
  rw [listedNames, List.mem_filter, Bool.not_eq_true', List.isEmpty_eq_false_iff]

/-- A list is taken as a whole or refused as a whole. -/
theorem identifierList_eq (key raw : String) :
    identifierList key raw =
      if (listedNames raw).all Sql.Identifier.isValid then .ok (listedNames raw)
      else .error (.invalidIdentifier key) := rfl

theorem identifierList_eq_ok_iff {key raw : String} {names : List String} :
    identifierList key raw = .ok names ↔
      names = listedNames raw ∧ ∀ name ∈ listedNames raw, Sql.Identifier.isValid name = true := by
  rw [identifierList_eq, ← List.all_eq_true]
  split
  case isTrue hall => simp [hall, eq_comm]
  case isFalse hall => simp [hall]

theorem identifierList_eq_error {key raw : String} {e : Error}
    (h : identifierList key raw = .error e) : e = .invalidIdentifier key := by
  rw [identifierList_eq] at h
  split at h
  case isTrue => cases h
  case isFalse =>
    cases h
    rfl

/-- The names of the columns that an upsert tells rows apart by. -/
def conflictNames (request : Request) : List String :=
  match request.parameter? "on_conflict" with
  | none => [defaultConflictColumn]
  | some raw => listedNames raw

theorem conflictTarget_eq_ok_iff {request : Request} {key : List String} :
    conflictTarget request = .ok key ↔ key = conflictNames request ∧
      ∀ name ∈ conflictNames request, Sql.Identifier.isValid name = true := by
  cases hraw : request.parameter? "on_conflict" with
  | none =>
      have hdefault : Sql.Identifier.isValid defaultConflictColumn = true := by decide
      simp only [conflictTarget, conflictNames, hraw, Except.ok.injEq, List.mem_singleton,
        forall_eq, hdefault, and_true]
      exact eq_comm
  | some raw =>
      simp only [conflictTarget, conflictNames, hraw]
      exact identifierList_eq_ok_iff

theorem isValid_of_mem_conflictTarget {request : Request} {key : List String}
    (h : conflictTarget request = .ok key) : ∀ n ∈ key, Sql.Identifier.isValid n = true := by
  obtain ⟨rfl, hvalid⟩ := conflictTarget_eq_ok_iff.mp h
  exact hvalid

/-- Nothing but the list of names can be wrong with what happens to rows that are there. -/
theorem conflictFragments_eq_error {request : Request} {locks : LockMap} {columns : List String}
    {e : Error} (h : conflictFragments request locks columns = .error e) :
    e = .invalidIdentifier "on_conflict" := by
  unfold conflictFragments at h
  split at h
  case h_1 => cases h
  case h_2 => cases h
  case h_3 =>
    cases htarget : conflictTarget request with
    | error refusal =>
        rw [htarget] at h
        cases h
        unfold conflictTarget at htarget
        split at htarget
        case h_1 => cases htarget
        case h_2 => exact identifierList_eq_error htarget
    | ok key =>
        rw [htarget] at h
        simp only [bind, Except.bind] at h
        split at h
        case h_1 => cases h
        case h_2 => cases h

end TableGateway.Query
