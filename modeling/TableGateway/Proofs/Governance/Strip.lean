import Mathlib.Data.List.Basic
import TableGateway.Governance.Strip
import TableGateway.Proofs.Row

/-! # What governance takes out

Governance takes the locked columns out of a row one after the other. What remains is the row
restricted to the other columns, and there is one incident for each value that went. -/

namespace TableGateway

/-! ## Locks -/

theorem LockMap.level_of_isEmpty {locks : LockMap} (h : locks.isEmpty = true) (column : String) :
    locks.level column = .unlocked := by
  have hget : ∀ levels : List (String × LockLevel),
      (∀ p ∈ levels, p.2 = .unlocked) →
        (Association.get? column levels).getD .unlocked = .unlocked := by
    intro levels hlevels
    induction levels with
    | nil => rfl
    | cons p levels ih =>
        obtain ⟨n, level⟩ := p
        by_cases hn : n = column
        · simpa [Association.get?, hn] using hlevels (n, level) (by simp)
        · simpa [Association.get?, hn] using ih fun q hq => hlevels q (by simp [hq])
  apply hget
  simpa [LockMap.isEmpty] using h

namespace Governance

variable {context : Context} {table : String} {operation : WriteOperation}

/-- The locks take a column out of a write. -/
def Context.strips (context : Context) (operation : WriteOperation) (column : String) : Bool :=
  (context.locks.level column).isStripped operation context.callerRole

theorem Context.strips_of_isEmpty (h : context.locks.isEmpty = true) (column : String) :
    context.strips operation column = false := by
  simp [strips, LockMap.level_of_isEmpty h, LockLevel.isStripped]

/-- What is left in front when the columns of the back come to be taken out are unlocked columns,
so each of the locked ones is found at its own place. -/
theorem takeOut_append (front back : List (String × Sql.Value))
    (hfront : ∀ p ∈ front, context.strips operation p.1 = false) :
    takeOut context table operation
        ((Association.names back).filter (context.strips operation)) ⟨front ++ back⟩ =
      (⟨front ++ back.filter fun p => !context.strips operation p.1⟩,
        (back.filter fun p => context.strips operation p.1).map fun p =>
          context.incident table operation p.1 p.2) := by
  induction back generalizing front with
  | nil => simp [Association.names, takeOut]
  | cons p back ih =>
      obtain ⟨column, value⟩ := p
      by_cases h : context.strips operation column = true
      · have hnot : column ∉ Association.names front := by
          intro hmem
          obtain ⟨q, hq, rfl⟩ := List.mem_map.mp hmem
          rw [hfront q hq] at h
          cases h
        have hget : Row.get? ⟨front ++ (column, value) :: back⟩ column = some value :=
          Association.get?_append_of_not_mem hnot value back
        have hremove : Row.remove ⟨front ++ (column, value) :: back⟩ column = ⟨front ++ back⟩ :=
          congrArg Row.mk (Association.erase_append_of_not_mem hnot value back)
        simp only [Association.names, List.map_cons, List.filter_cons, h, if_true, takeOut, hget,
          hremove]
        rw [← Association.names, ih front hfront]
        simp
      · have hf : context.strips operation column = false := by simpa using h
        have hstep := ih (front ++ [(column, value)]) (by
          intro q hq
          rcases List.mem_append.mp hq with hq | hq
          · exact hfront q hq
          · rw [List.mem_singleton.mp hq]
            exact hf)
        simpa [Association.names, List.filter_cons, hf] using hstep

theorem takeOut_lockedNames (row : Row) :
    takeOut context table operation (context.lockedNames operation row) row =
      (row.retain fun column _ => !context.strips operation column,
        (row.columns.filter fun p => context.strips operation p.1).map fun p =>
          context.incident table operation p.1 p.2) :=
  takeOut_append [] row.columns (by simp)

/-! ## Batches -/

/-- Without any lock nothing is locked, so the short way gives the same rows. -/
theorem strip_rows (rows : List Row) :
    (strip context table operation rows).rows =
      rows.map fun row => row.retain fun column _ => !context.strips operation column := by
  unfold strip
  split
  case isTrue hempty => simp [Context.strips_of_isEmpty hempty]
  case isFalse => simp [takeOut_lockedNames]

theorem headD_strip (row : Row) :
    (strip context table operation [row]).rows.headD Row.empty =
      row.retain fun column _ => !context.strips operation column := by
  rw [strip_rows]
  rfl

theorem strip_incidents (rows : List Row) :
    (strip context table operation rows).incidents =
      rows.flatMap fun row =>
        (row.columns.filter fun p => context.strips operation p.1).map fun p =>
          context.incident table operation p.1 p.2 := by
  unfold strip
  split
  case isTrue hempty => simp [Context.strips_of_isEmpty hempty]
  case isFalse => simp [takeOut_lockedNames, List.flatMap_map]

/-! ## What is left -/

/-- Governance finds nothing more to take out of what it has left. -/
theorem strip_retain (context : Context) (table : String) (operation : WriteOperation)
    (rows : List Row) :
    strip context table operation
        (rows.map fun row => row.retain fun c _ => !context.strips operation c) =
      ⟨(strip context table operation rows).rows, []⟩ := by
  have hrows : (strip context table operation
      (rows.map fun row => row.retain fun c _ => !context.strips operation c)).rows =
        (strip context table operation rows).rows := by
    rw [strip_rows, strip_rows, List.map_map]
    refine List.map_congr_left fun row _ => ?_
    exact row.retain_retain fun c => !context.strips operation c
  have hincidents : (strip context table operation
      (rows.map fun row => row.retain fun c _ => !context.strips operation c)).incidents = [] := by
    rw [strip_incidents, List.flatMap_eq_nil_iff]
    intro row hrow
    obtain ⟨r, -, rfl⟩ := List.mem_map.mp hrow
    rw [List.map_eq_nil_iff, List.filter_eq_nil_iff]
    intro p hp
    simpa using (List.mem_filter.mp hp).2
  rw [← hrows, ← hincidents]

theorem strip_append (context : Context) (table : String) (operation : WriteOperation)
    (rows more : List Row) :
    strip context table operation (rows ++ more) =
      ⟨(strip context table operation rows).rows ++ (strip context table operation more).rows,
        (strip context table operation rows).incidents ++
          (strip context table operation more).incidents⟩ := by
  rw [Governed.mk.injEq]
  constructor
  · simp only [strip_rows, List.map_append]
  · simp only [strip_incidents, List.flatMap_append]

/-- Each field of a row is either left in it or has an incident of its own. -/
theorem length_strip (context : Context) (table : String) (operation : WriteOperation)
    (rows : List Row) :
    ((strip context table operation rows).rows.flatMap Row.columns).length +
        (strip context table operation rows).incidents.length =
      (rows.flatMap Row.columns).length := by
  rw [strip_rows, strip_incidents]
  induction rows with
  | nil => rfl
  | cons row rows ih =>
      have hrow : (row.retain fun c _ => !context.strips operation c).columns.length +
          (row.columns.filter fun p => context.strips operation p.1).length =
            row.columns.length := by
        rw [Nat.add_comm]
        exact (List.length_eq_length_filter_add _).symm
      simp only [List.map_cons, List.flatMap_cons, List.length_append, List.length_map]
      omega

/-! ## Filtering -/

/-- Takes the locked columns out of each row, whether there is any lock or none. -/
def stripEach (context : Context) (table : String) (operation : WriteOperation)
    (rows : List Row) : Governed :=
  let stripped := rows.map fun row =>
    takeOut context table operation (context.lockedNames operation row) row
  ⟨stripped.map Prod.fst, stripped.flatMap Prod.snd⟩

theorem strip_eq_stripEach (rows : List Row) :
    strip context table operation rows = stripEach context table operation rows := by
  rw [Governed.mk.injEq, strip_rows, strip_incidents]
  simp [stripEach, takeOut_lockedNames, List.flatMap_map]

/-- The run filters rows: each of them keeps the columns that the locks leave to the writer, and
each value that goes is an incident. Neither what was taken out before nor the other rows of a batch
make a difference. -/
structure Filters (context : Context) (table : String) (operation : WriteOperation)
    (run : List Row → Governed) : Prop where
  length_rows : ∀ rows, (run rows).rows.length = rows.length
  row : ∀ (rows : List Row) (i : Nat), (run rows).rows[i]? = rows[i]?.map fun row =>
    ⟨row.columns.filter fun p =>
      !(context.locks.level p.1).isStripped operation context.callerRole⟩
  incidents : ∀ rows, (run rows).incidents = rows.flatMap fun row =>
    (row.columns.filter fun p =>
      (context.locks.level p.1).isStripped operation context.callerRole).map fun p =>
        { projectId := context.projectId
          tableName := table
          columnName := p.1
          attemptedValue := p.2.record
          sourceAddress := context.sourceAddress
          operation := operation
          lockLevel := context.locks.level p.1
          callerRole := context.callerRole }
  fields : ∀ rows, ((run rows).rows.flatMap Row.columns).length + (run rows).incidents.length =
    (rows.flatMap Row.columns).length
  general : ∀ rows, run rows = stripEach context table operation rows
  unlocked : context.locks.isEmpty = true → ∀ rows, run rows = ⟨rows, []⟩
  again : ∀ rows, run (run rows).rows = ⟨(run rows).rows, []⟩
  append : ∀ rows more, run (rows ++ more) =
    ⟨(run rows).rows ++ (run more).rows, (run rows).incidents ++ (run more).incidents⟩

theorem strip_filters (context : Context) (table : String) (operation : WriteOperation) :
    Filters context table operation (strip context table operation) where
  length_rows rows := by rw [strip_rows, List.length_map]
  row rows i := by
    rw [strip_rows, List.getElem?_map]
    rfl
  incidents := strip_incidents
  fields := length_strip context table operation
  general _ := strip_eq_stripEach _
  unlocked hempty _ := if_pos hempty
  again rows := by
    have hretain := strip_retain context table operation rows
    rwa [← strip_rows] at hretain
  append := strip_append context table operation

end Governance

end TableGateway
