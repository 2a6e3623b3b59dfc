import TableGateway.Audit.Sink
import TableGateway.Proofs.Audit.Event
import TableGateway.Proofs.Text.Cut

/-! # The file of events

An auditor starts a task for each batch that is handed to it, and the tasks run in any order. What
they add to the file are whole batches, of which every event has a line of its own. -/

namespace TableGateway.Audit

variable {path : String} {batch : List Event} {handed waiting delivered order : List (List Event)}
variable {start s s' : Storage}

/-! ## Lines -/

/-- The line of an event, without its end. -/
def Event.line (e : Event) : String :=
  e.toJson.text

/-- What has become of the batches that were handed to an auditor: those whose tasks have not run
yet, those that its tasks delivered, in order, and the storage. A task runs at any time after its
batch was handed over, and leaves the storage that comes of handing over the batch then. Only tasks
that can write are looked at. -/
inductive Run (sink : Sink) (start : Storage) :
    List (List Event) → List (List Event) → List (List Event) → Storage → Prop where
  | opened : Run sink start [] [] [] start
  | idle {handed waiting delivered : List (List Event)} {s s' : Storage} {batch : List Event}
      (h : Run sink start handed waiting delivered s)
      (hemit : sink.emit batch s = (.nothing, s')) :
      Run sink start (handed ++ [batch]) waiting delivered s'
  | handed {handed waiting delivered : List (List Event)} {s : Storage} {batch : List Event}
      (h : Run sink start handed waiting delivered s)
      (hemit : (sink.emit batch s).1 = .delivered) :
      Run sink start (handed ++ [batch]) (waiting ++ [batch]) delivered s
  | delivered {handed front back delivered : List (List Event)} {s s' : Storage}
      {batch : List Event} (h : Run sink start handed (front ++ batch :: back) delivered s)
      (hwritten : ∃ written, sink.record batch s = .ok written)
      (hemit : sink.emit batch s = (.delivered, s')) :
      Run sink start handed (front ++ back) (delivered ++ [batch]) s'

theorem emit_of_record {sink : Sink} (h : batch.isEmpty = false)
    (hrecord : sink.record batch s = .ok s') : sink.emit batch s = (.delivered, s') := by
  rw [Sink.emit, if_neg (by simp [h]), hrecord]

theorem emit_eq_nothing_iff {sink : Sink} :
    sink.emit batch s = (.nothing, s') ↔ batch.isEmpty = true ∧ s' = s := by
  unfold Sink.emit
  split
  case isTrue h => simp [h, eq_comm]
  case isFalse h =>
    cases sink.record batch s <;> simp [h]

theorem emit_eq_delivered_iff {sink : Sink} :
    (sink.emit batch s).1 = .delivered ↔ batch.isEmpty = false := by
  unfold Sink.emit
  split
  case isTrue h => simp [h]
  case isFalse h =>
    cases sink.record batch s <;> simp [h]

/-- What a task that can write leaves is what was written. -/
theorem record_of_emit {sink : Sink} (hwritten : ∃ written, sink.record batch s = .ok written)
    (hemit : sink.emit batch s = (.delivered, s')) : sink.record batch s = .ok s' := by
  obtain ⟨written, hrecord⟩ := hwritten
  have hbatch : batch.isEmpty = false := emit_eq_delivered_iff.mp (congrArg Prod.fst hemit)
  have hstorage := congrArg Prod.snd (hemit.symm.trans (emit_of_record hbatch hrecord))
  exact hrecord.trans (congrArg Except.ok hstorage.symm)

/-- The content of a file, which is empty where the file is not there yet. -/
def Storage.contentOf (s : Storage) (path : String) : String :=
  (s.content? path).getD ""

/-- Everything but one file is as it was. -/
structure SameElsewhere (path : String) (start s : Storage) : Prop where
  memory : s.memory = start.memory
  files : ∀ other, Storage.fileName? other ≠ Storage.fileName? path →
    s.content? other = start.content? other

theorem SameElsewhere.trans (h : SameElsewhere path start s) (h' : SameElsewhere path s s') :
    SameElsewhere path start s' where
  memory := h'.memory.trans h.memory
  files other hother := (h'.files other hother).trans (h.files other hother)

/-- A task that succeeds adds the lines of its batch at the end of the file. -/
theorem record_file (h : (Sink.file path).record batch s = .ok s') :
    s'.contentOf path = s.contentOf path ++ eventLines batch ∧ SameElsewhere path s s' := by
  rw [Sink.record, Storage.append] at h
  cases hname : Storage.fileName? path with
  | none => simp [hname] at h
  | some name =>
      simp only [hname, Except.ok.injEq] at h
      subst h
      refine ⟨?_, rfl, fun other hother => ?_⟩
      · simp only [Storage.contentOf, Storage.content?, hname, Option.bind_some,
          Association.get?_put, if_true, Option.getD_some]
      · cases hother' : Storage.fileName? other with
        | none => simp only [Storage.content?, hother', Option.bind_none]
        | some name' =>
            have hne : name ≠ name' := by
              rintro rfl
              exact hother (hother'.trans hname.symm)
            simp only [Storage.content?, hother', Option.bind_some, Association.get?_put,
              if_neg hne]

/-- The batches stand in the file one behind the other. -/
theorem Run.content (h : Run (.file path) start handed waiting delivered s) :
    s.contentOf path = start.contentOf path ++ String.join (delivered.map eventLines) ∧
      SameElsewhere path start s := by
  induction h with
  | opened => exact ⟨(String.append_empty).symm, rfl, fun _ _ => rfl⟩
  | idle _ hemit ih =>
      obtain ⟨-, rfl⟩ := emit_eq_nothing_iff.mp hemit
      exact ih
  | handed _ _ ih => exact ih
  | delivered _ hwritten hemit ih =>
      obtain ⟨hcontent, hsame⟩ := record_file (record_of_emit hwritten hemit)
      refine ⟨?_, ih.2.trans hsame⟩
      rw [hcontent, ih.1, List.map_append, String.join_append, List.map_singleton,
        String.join_cons, String.join_nil, String.append_empty, String.append_assoc]

end TableGateway.Audit
