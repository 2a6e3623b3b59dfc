import TableGateway.Audit.Event
import TableGateway.Proofs.Association
import TableGateway.Proofs.Json.Record
import TableGateway.Proofs.Result
import TableGateway.Proofs.Time.Writing

/-! # Events as they go on record

An event is read back from its text with all of its fields, and its text is a single line. -/

namespace TableGateway

/-! ## Identifiers -/

namespace Uuid

variable {u : Uuid} {a b c d e : List Char}

theorem digit?_digitChar (d : Fin 16) : digit? (digitChar d) = some d := by
  revert d
  decide

theorem digitChar_ne_hyphen (d : Fin 16) : digitChar d ≠ '-' := by
  revert d
  decide

theorem ofDigits?_digits (u : Uuid) : ofDigits? (u.digits.map digitChar) = some u := by
  have hdigits : (u.digits.map digitChar).mapM digit? = some u.digits := by
    rw [mapM_eq_some_iff, List.forall₂_map_left_iff, List.forall₂_same]
    exact fun d _ => digit?_digitChar d
  simp only [ofDigits?, hdigits, u.length_digits, dite_true]

/-- The digits in the groups in which they are written. -/
theorem exists_groups (u : Uuid) : ∃ a b c d e : List Char,
    u.digits.map digitChar = a ++ b ++ c ++ d ++ e ∧
      [a, b, c, d, e].map List.length = [8, 4, 4, 4, 12] ∧
      u.text = String.ofList (a ++ '-' :: b ++ '-' :: c ++ '-' :: d ++ '-' :: e) := by
  have hlength : (u.digits.map digitChar).length = 32 :=
    (List.length_map _).trans u.length_digits
  rw [text]
  simp only
  generalize u.digits.map digitChar = cs at hlength
  refine ⟨_, _, _, _, _, ?_, by simp [hlength], rfl⟩
  have hgroup (start length : Nat) :
      cs.drop start = (cs.drop start).take length ++ cs.drop (start + length) := by
    rw [← List.drop_drop, List.take_append_drop]
  have hlast : (cs.drop 20).take 12 = cs.drop 20 := List.take_of_length_le (by simp [hlength])
  calc
    cs = cs.drop 0 := rfl
    _ = (cs.drop 0).take 8 ++ ((cs.drop 8).take 4 ++ ((cs.drop 12).take 4 ++
        ((cs.drop 16).take 4 ++ cs.drop 20))) := by
      rw [← hgroup 16 4, ← hgroup 12 4, ← hgroup 8 4, ← hgroup 0 8]
    _ = _ := by rw [hlast]; simp only [List.append_assoc]

theorem ofHyphenated?_groups (hgroups : u.digits.map digitChar = a ++ b ++ c ++ d ++ e)
    (hlengths : [a, b, c, d, e].map List.length = [8, 4, 4, 4, 12]) :
    ofHyphenated? (a ++ '-' :: b ++ '-' :: c ++ '-' :: d ++ '-' :: e) = some u := by
  have hfree : ∀ group ∈ [a, b, c, d, e], '-' ∉ group := by
    intro group hgroup hhyphen
    have hmem : '-' ∈ u.digits.map digitChar := by
      rw [hgroups]
      simp only [List.mem_cons, List.not_mem_nil, or_false] at hgroup
      rcases hgroup with rfl | rfl | rfl | rfl | rfl <;> simp [hhyphen]
    obtain ⟨digit, -, hdigit⟩ := List.mem_map.mp hmem
    exact digitChar_ne_hyphen digit hdigit
  have hsplit : (a ++ '-' :: b ++ '-' :: c ++ '-' :: d ++ '-' :: e).splitOn '-' =
      [a, b, c, d, e] := by
    simpa [List.intercalate_cons_cons] using List.splitOn_intercalate '-' hfree (by simp)
  rw [ofHyphenated?, hsplit]
  simp only [if_pos hlengths, ← hgroups, ofDigits?_digits]

theorem parse?_text (u : Uuid) : parse? u.text = some u := by
  obtain ⟨a, b, c, d, e, hgroups, hlengths, htext⟩ := exists_groups u
  have hbare : ofDigits? (a ++ '-' :: b ++ '-' :: c ++ '-' :: d ++ '-' :: e) = none := by
    have hhyphen : (a ++ '-' :: b ++ '-' :: c ++ '-' :: d ++ '-' :: e).mapM digit? = none :=
      mapM_eq_none_iff.mpr ⟨'-', by simp, rfl⟩
    rw [ofDigits?, hhyphen]
  rw [htext, parse?, String.toList_ofList]
  simp only [hbare, ofHyphenated?_groups hgroups hlengths, Option.none_or, Option.some_or]

end Uuid

/-! ## Events -/

namespace Audit.Event

variable {e : Event}

/-- The members of an event, all of which are strings. -/
def textMembers (e : Event) : List (String × String) :=
  [("event_id", e.id.text), ("occurred_at", e.occurredAt.internetText),
      ("project_id", e.incident.projectId), ("table_name", e.incident.tableName),
      ("column_name", e.incident.columnName), ("attempted_value", e.incident.attemptedValue)]
    ++ (e.incident.sourceAddress.elim [] fun address => [("source_ip", address)]) ++
    [("operation", e.incident.operation.text), ("lock_level", e.incident.lockLevel.text),
      ("caller_role", e.incident.callerRole)]

theorem toJson_eq (e : Event) : e.toJson = Json.ofStrings e.textMembers := by
  unfold toJson textMembers
  cases e.incident.sourceAddress <;> rfl

/-- The members that an event is read from. -/
def readMembers (e : Event) : List (String × Json.Tree) :=
  e.textMembers.map fun m => (m.1, Json.writtenTree m.2)

theorem members?_textMembers (e : Event) :
    members? (.object (e.textMembers.map Json.writtenMember)) = some e.readMembers := by
  have hmembers : (∀ m ∈ e.textMembers, m.1 ∈ memberNames) ∧
      (e.textMembers.map Prod.fst).Nodup := by
    unfold textMembers
    cases e.incident.sourceAddress <;> simp [memberNames]
  exact Json.fields?_writtenMember hmembers.1 hmembers.2

theorem nameOfTree?_writtenTree (s : String) : nameOfTree? (Json.writtenTree s) = some s :=
  Json.partsString?_writtenParts s

theorem ofText?_text_operation (operation : WriteOperation) :
    WriteOperation.ofText? operation.text = some operation := by
  cases operation <;> rfl

theorem ofText_text_lockLevel (level : LockLevel) : LockLevel.ofText level.text = level := by
  cases level <;> rfl

theorem get?_readMembers (name : String) (e : Event) :
    Association.get? name e.readMembers =
      (Association.get? name e.textMembers).map Json.writtenTree :=
  Association.get?_map Json.writtenTree name e.textMembers

theorem text_readMembers {name s : String} (h : Association.get? name e.textMembers = some s) :
    (Association.get? name e.readMembers).bind Json.Tree.string? = some s := by
  rw [get?_readMembers, h]
  exact Json.string?_writtenTree s

theorem name_readMembers {name s : String} (h : Association.get? name e.textMembers = some s) :
    (Association.get? name e.readMembers).bind nameOfTree? = some s := by
  rw [get?_readMembers, h]
  exact nameOfTree?_writtenTree s

/-- The members of an event have its fields under their names. -/
structure Holds (e : Event) (members : List (String × String)) : Prop where
  id : Association.get? "event_id" members = some e.id.text
  time : Association.get? "occurred_at" members = some e.occurredAt.internetText
  project : Association.get? "project_id" members = some e.incident.projectId
  table : Association.get? "table_name" members = some e.incident.tableName
  column : Association.get? "column_name" members = some e.incident.columnName
  value : Association.get? "attempted_value" members = some e.incident.attemptedValue
  address : Association.get? "source_ip" members = e.incident.sourceAddress
  operation : Association.get? "operation" members = some e.incident.operation.text
  level : Association.get? "lock_level" members = some e.incident.lockLevel.text
  role : Association.get? "caller_role" members = some e.incident.callerRole

theorem holds_textMembers (e : Event) : e.Holds e.textMembers := by
  unfold textMembers
  cases haddress : e.incident.sourceAddress <;> constructor <;>
    simp [Association.get?, haddress]

theorem address_readMembers {α : Type} (e : Event) (f : Option String → Option α) :
    (match Association.get? "source_ip" e.readMembers with
      | none => some none >>= f
      | some t => t.stringOrNull? >>= f) = f e.incident.sourceAddress := by
  rw [get?_readMembers, (holds_textMembers e).address]
  cases e.incident.sourceAddress with
  | none => rfl
  | some address => exact bind_of_eq (Json.stringOrNull?_writtenTree address)

/-- An event is read back from its text with all of its fields. -/
theorem ofText?_text (h : e.occurredAt.time.IsShown) : ofText? e.toJson.text = some e := by
  have hmembers := holds_textMembers e
  have htime := DateTime.ofRelaxedInternet?_internetText h
  rw [toJson_eq, ofText?, Json.ofText?_ofStrings]
  refine (bind_of_eq (members?_textMembers e)).trans ?_
  refine (address_readMembers e _).trans ?_
  refine (bind_of_eq (text_readMembers hmembers.id)).trans ((bind_of_eq e.id.parse?_text).trans ?_)
  refine (bind_of_eq (text_readMembers hmembers.time)).trans ((bind_of_eq htime).trans ?_)
  refine (bind_of_eq (text_readMembers hmembers.project)).trans ?_
  refine (bind_of_eq (text_readMembers hmembers.table)).trans ?_
  refine (bind_of_eq (text_readMembers hmembers.column)).trans ?_
  refine (bind_of_eq (text_readMembers hmembers.value)).trans ?_
  refine (bind_of_eq (name_readMembers hmembers.operation)).trans ?_
  refine (bind_of_eq (ofText?_text_operation _)).trans ?_
  refine (bind_of_eq (name_readMembers hmembers.level)).trans ?_
  refine (bind_of_eq (text_readMembers hmembers.role)).trans ?_
  rw [ofText_text_lockLevel]
  rfl

/-- The text of an event is a single line. -/
theorem line_feed_not_mem (e : Event) : '\n' ∉ e.toJson.chars := by
  rw [toJson_eq]
  exact Json.line_feed_not_mem_ofStrings e.textMembers

end Audit.Event

end TableGateway
