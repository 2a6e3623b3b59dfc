import TableGateway.Payload
import TableGateway.Proofs.Association
import TableGateway.Proofs.Result

/-! # Rows are ordered maps

However a row is changed, its columns stay distinct. A row with distinct columns is a finite map
from columns to values that keeps the order in which its columns came. -/

namespace TableGateway

/-! ## Rows of objects -/

namespace Payload

variable {members : List (String × Json)} {row : Row} {e : Error}

theorem rowOfMembers_eq_ok_iff :
    rowOfMembers members = .ok row ↔ (∀ m ∈ members, Sql.Identifier.isValid m.1 = true) ∧
      row.columns = members.map fun m => (m.1, Sql.Value.ofJson m.2) := by
  rw [rowOfMembers, ← List.all_eq_true]
  split
  case isTrue hall =>
    rw [Except.ok.injEq, and_iff_right hall]
    constructor
    · rintro rfl
      rfl
    · intro h
      exact congrArg Row.mk h.symm
  case isFalse hall => simp [hall]

theorem rowOfMembers_eq_error_iff :
    rowOfMembers members = .error e ↔
      e = .invalidColumn ∧ ∃ m ∈ members, Sql.Identifier.isValid m.1 = false := by
  have hall : (members.all fun m => Sql.Identifier.isValid m.1) = false ↔
      ∃ m ∈ members, Sql.Identifier.isValid m.1 = false := by simp
  rw [rowOfMembers, ← hall]
  split
  case isTrue h => simp [h]
  case isFalse h => simp [h, eq_comm]

theorem isValid_of_rowOfMembers (h : rowOfMembers members = .ok row) :
    ∀ column ∈ row.names, Sql.Identifier.isValid column = true := by
  obtain ⟨hall, hcolumns⟩ := rowOfMembers_eq_ok_iff.mp h
  intro column hcolumn
  rw [Row.names, Association.names, hcolumns, List.map_map] at hcolumn
  obtain ⟨m, hm, rfl⟩ := List.mem_map.mp hcolumn
  exact hall m hm

theorem names_of_rowOfMembers (h : rowOfMembers members = .ok row) :
    row.names = Association.names members := by
  rw [Row.names, (rowOfMembers_eq_ok_iff.mp h).2, Association.names, List.map_map]
  rfl

/-- What is read for an object: the values of all its members in order, if their names are plain
identifiers, and otherwise nothing. Where the names are distinct, the members could as well be
inserted one by one. -/
structure ReadsObject (members : List (String × Json)) (result : Except Error Row) : Prop where
  ok_iff : (∃ row, result = .ok row) ↔ ∀ m ∈ members, Sql.Identifier.isValid m.1 = true
  error_iff : ∀ e, result = .error e ↔
    e = .invalidColumn ∧ ∃ m ∈ members, Sql.Identifier.isValid m.1 = false
  columns : ∀ row, result = .ok row →
    row.columns = members.map fun m => (m.1, Sql.Value.ofJson m.2)
  valid : ∀ row, result = .ok row → ∀ column ∈ row.names, Sql.Identifier.isValid column = true
  inserted : ∀ row, result = .ok row → (Association.names members).Nodup →
    row = members.foldl (fun row m => row.insert m.1 (Sql.Value.ofJson m.2)) Row.empty

/-- Members whose names are new go to the end of the row one by one. -/
theorem foldl_insert (hdistinct : (Association.names members).Nodup) (row : Row)
    (hnew : ∀ m ∈ members, m.1 ∉ row.names) :
    members.foldl (fun row m => row.insert m.1 (Sql.Value.ofJson m.2)) row =
      ⟨row.columns ++ members.map fun m => (m.1, Sql.Value.ofJson m.2)⟩ := by
  induction members generalizing row with
  | nil => simp
  | cons m members ih =>
      obtain ⟨hfresh, hdistinct⟩ := List.nodup_cons.mp hdistinct
      obtain ⟨hm, hnew⟩ := List.forall_mem_cons.mp hnew
      have hinsert : row.insert m.1 (Sql.Value.ofJson m.2) =
          ⟨row.columns ++ [(m.1, Sql.Value.ofJson m.2)]⟩ :=
        congrArg Row.mk (Association.put_of_not_mem hm _)
      rw [List.foldl_cons, hinsert, ih hdistinct]
      · simp
      · intro other hother hmem
        rw [Row.names, Association.names, List.map_append, List.mem_append] at hmem
        rcases hmem with hmem | hmem
        · exact hnew other hother hmem
        · rw [List.map_singleton, List.mem_singleton] at hmem
          exact hfresh (List.mem_map.mpr ⟨other, hother, hmem⟩)

theorem readsObject (members : List (String × Json)) :
    ReadsObject members (rowOfMembers members) where
  ok_iff := by
    constructor
    · rintro ⟨row, h⟩
      exact (rowOfMembers_eq_ok_iff.mp h).1
    · intro hall
      exact ⟨⟨_⟩, rowOfMembers_eq_ok_iff.mpr ⟨hall, rfl⟩⟩
  error_iff _ := rowOfMembers_eq_error_iff
  columns _ h := (rowOfMembers_eq_ok_iff.mp h).2
  valid _ := isValid_of_rowOfMembers
  inserted row h hdistinct := by
    rw [foldl_insert hdistinct Row.empty fun _ _ => List.not_mem_nil]
    exact congrArg Row.mk (rowOfMembers_eq_ok_iff.mp h).2

end Payload

namespace Row

variable {row : Row} {column : String}

/-! ## Names -/

theorem size_eq_length_names (row : Row) : row.size = row.names.length := by
  simp [size, names, Association.names]

theorem isEmpty_eq_isEmpty_names (row : Row) : row.isEmpty = row.names.isEmpty := by
  simp [isEmpty, names, Association.names]

theorem names_retain (row : Row) (keep : String → Bool) :
    (row.retain fun column _ => keep column).names = row.names.filter keep := by
  simp only [names, retain, Association.names, List.filter_map]
  rfl

theorem mem_names_retain {row : Row} {keep : String → Bool} {column : String} :
    column ∈ (row.retain fun c _ => keep c).names ↔ column ∈ row.names ∧ keep column = true := by
  rw [names_retain, List.mem_filter]

theorem retain_retain (row : Row) (keep : String → Bool) :
    ((row.retain fun c _ => keep c).retain fun c _ => keep c) = row.retain fun c _ => keep c := by
  simp only [retain, List.filter_filter, Bool.and_self]

@[simp] theorem retain_true (row : Row) : (row.retain fun _ _ => true) = row :=
  congrArg Row.mk (List.filter_eq_self.mpr fun _ _ => rfl)

/-! ## Changes -/

/-- A change to a row, whether the row is changed where it stands or handed on. -/
inductive Change where
  | insert (column : String) (value : Sql.Value)
  | remove (column : String)
  | retain (keep : String → Sql.Value → Bool)

def Change.apply (row : Row) : Change → Row
  | insert column value => row.insert column value
  | remove column => (row.extract column).2
  | retain keep => row.retain keep

/-- The row behind a run of changes. -/
def after (row : Row) (changes : List Change) : Row :=
  changes.foldl Change.apply row

/-- The rows that changes start from: the empty one, and those of objects, whose names are
distinct. -/
inductive Initial : Row → Prop where
  | empty : Initial Row.empty
  | object {members : List (String × Json)} {row : Row}
      (hdistinct : (Association.names members).Nodup)
      (h : Payload.rowOfMembers members = .ok row) : Initial row

theorem extract_eq (row : Row) (column : String) :
    row.extract column = (row.get? column, row.remove column) := by
  unfold extract
  rcases Association.findIdx?_cases column row.columns with
    ⟨hnone, hget, herase⟩ | ⟨i, hi, hget, herase⟩
  · rw [hnone, get?, remove, hget, herase]
  · simp only [hi, hget, herase, get?, remove]

/-! ## Distinct columns -/

theorem Initial.nodup_names (h : Initial row) : row.names.Nodup := by
  cases h with
  | empty => exact List.nodup_nil
  | object hdistinct h =>
      rw [Payload.names_of_rowOfMembers h]
      exact hdistinct

theorem Change.nodup_names (change : Change) (h : row.names.Nodup) :
    (change.apply row).names.Nodup := by
  cases change with
  | insert column value => exact Association.nodup_names_put column value h
  | remove column =>
      rw [apply, extract_eq, Row.remove, names, Association.erase_eq_filter h]
      exact Association.nodup_names_filter _ h
  | retain keep => exact Association.nodup_names_filter _ h

theorem nodup_names_after (changes : List Change) (h : row.names.Nodup) :
    (row.after changes).names.Nodup := by
  induction changes generalizing row with
  | nil => exact h
  | cons change changes ih => exact ih (change.nodup_names h)

/-! ## Laws -/

/-- A value is set under a column and all other columns are as before. A column that is there keeps
its place, a new one goes to the end. -/
structure Sets (row : Row) (column : String) (value : Sql.Value) (next : Row) : Prop where
  found : next.get? column = some value
  others : ∀ other, other ≠ column → next.get? other = row.get? other
  inPlace : column ∈ row.names → next.names = row.names ∧ next.size = row.size
  atEnd : column ∉ row.names →
    next.columns = row.columns ++ [(column, value)] ∧ next.size = row.size + 1

/-- A column is gone, its value is the answer, and all other columns keep their values and their
order. -/
structure TakesOut (row : Row) (column : String) (answer : Option Sql.Value) (next : Row) :
    Prop where
  answer_eq : answer = row.get? column
  gone : next.get? column = none
  others : ∀ other, other ≠ column → next.get? other = row.get? other
  names_eq : next.names = row.names.filter fun other => other ≠ column

/-- The fields that pass the test are left, in their order, and no others. -/
structure Keeps (row : Row) (keep : String → Sql.Value → Bool) (next : Row) : Prop where
  sublist : next.columns.Sublist row.columns
  mem_iff : ∀ column value,
    (column, value) ∈ next.columns ↔ (column, value) ∈ row.columns ∧ keep column value = true
  get?_eq : ∀ column, next.get? column = (row.get? column).filter (keep column)

/-- The row is a finite map from distinct columns to values that keeps their order. -/
structure IsOrderedMap (row : Row) : Prop where
  distinct : row.names.Nodup
  get?_iff : ∀ column value, row.get? column = some value ↔ (column, value) ∈ row.columns
  size_eq : row.size = row.names.length
  insert : ∀ column value, row.Sets column value (row.insert column value)
  remove : ∀ column, row.TakesOut column (row.extract column).1 (row.extract column).2
  retain : ∀ keep, row.Keeps keep (row.retain keep)

theorem insert_sets (row : Row) (column : String) (value : Sql.Value) :
    row.Sets column value (row.insert column value) where
  found := by rw [get?, insert, Association.get?_put, if_pos rfl]
  others other hother := by rw [get?, insert, Association.get?_put, if_neg (Ne.symm hother), get?]
  inPlace hcolumn := by
    have hnames : (row.insert column value).names = row.names :=
      (Association.names_put column value row.columns).trans (if_pos hcolumn)
    refine ⟨hnames, ?_⟩
    rw [size_eq_length_names, size_eq_length_names, hnames]
  atEnd hcolumn := by
    have hcolumns : (row.insert column value).columns = row.columns ++ [(column, value)] :=
      Association.put_of_not_mem hcolumn value
    exact ⟨hcolumns, by rw [size, size, hcolumns, List.length_append, List.length_singleton]⟩

theorem extract_takesOut (h : row.names.Nodup) (column : String) :
    row.TakesOut column (row.extract column).1 (row.extract column).2 := by
  have hcolumns : (row.remove column).columns = row.columns.filter fun p => p.1 ≠ column :=
    Association.erase_eq_filter h
  rw [extract_eq]
  refine ⟨rfl, ?_, fun other hother => ?_, ?_⟩
  · rw [get?, hcolumns, Association.get?_filter _ h]
    simp
  · change Association.get? other (row.remove column).columns = Association.get? other row.columns
    rw [hcolumns, Association.get?_filter _ h]
    cases Association.get? other row.columns with
    | none => rfl
    | some value => exact Option.filter_some_pos (by simpa using hother)
  · rw [names, hcolumns, Association.names, names, Association.names, List.filter_map]
    rfl

theorem retain_keeps (h : row.names.Nodup) (keep : String → Sql.Value → Bool) :
    row.Keeps keep (row.retain keep) where
  sublist := List.filter_sublist
  mem_iff _ _ := List.mem_filter
  get?_eq _ := Association.get?_filter _ h

theorem isOrderedMap_of_nodup (h : row.names.Nodup) : row.IsOrderedMap where
  distinct := h
  get?_iff _ _ := Association.get?_eq_some_iff h
  size_eq := row.size_eq_length_names
  insert := row.insert_sets
  remove := extract_takesOut h
  retain := retain_keeps h

/-- A row is an ordered map from the start and whatever changes are made to it, and a row that is
read for an object has the members of the object. -/
theorem orderedMap_after :
    (∀ (row : Row) (changes : List Change), Initial row → (row.after changes).IsOrderedMap) ∧
      ∀ members, Payload.ReadsObject members (Payload.rowOfMembers members) :=
  ⟨fun _ changes h => isOrderedMap_of_nodup (nodup_names_after changes h.nodup_names),
    Payload.readsObject⟩

/-- The members of a task. -/
def taskMembers : List (String × Json) :=
  [("title", .string "t"), ("done", .bool false), ("note", .null)]

/-- Changes of a column that is there, of one that is not, and of one that comes back. -/
def taskChanges : List Change :=
  [.insert "done" (.bool true), .insert "rank" (.text "1"), .remove "title", .remove "absent",
    .retain fun _ value => value matches .text _ || value matches .bool _,
    .insert "title" (.text "u")]

theorem orderedMap_after_task : ∃ row, Payload.rowOfMembers taskMembers = .ok row ∧
    Initial row ∧ (row.after taskChanges).names = ["done", "rank", "title"] ∧
    (row.after taskChanges).IsOrderedMap := by
  have hrow : Payload.rowOfMembers taskMembers = .ok _ := rfl
  have hinitial : Initial _ := .object (by decide) hrow
  exact ⟨_, hrow, hinitial, rfl, orderedMap_after.1 _ taskChanges hinitial⟩

end Row

end TableGateway
