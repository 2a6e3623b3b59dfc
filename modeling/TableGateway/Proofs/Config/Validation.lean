import TableGateway.Audit.Sink
import TableGateway.Config.Basic
import TableGateway.Proofs.Result
import TableGateway.Proofs.Sql.Identifier

/-! # What validation lays down

Settings pass if all of their names are plain identifiers and no timeout is zero. The role of a
transaction is then one of the names that were looked at, whatever its caller claims. -/

namespace TableGateway

namespace Config

variable {c : Config}

/-! ## Valid settings -/

/-- All names are plain identifiers, and statements have some time to run. -/
structure Valid (c : Config) : Prop where
  roles : ∀ role ∈ c.session.role :: c.session.allowedRoles, Sql.Identifier.isValid role = true
  schema : ∀ schema, c.compiler.defaultSchema = some schema → Sql.Identifier.isValid schema = true
  auditTable : Sql.Identifier.isValid c.audit.table = true
  statementTimeout : 1 ≤ c.session.statementTimeout
  countTimeout : 1 ≤ c.session.countTimeout

theorem fault?_eq_none_iff : c.fault? = none ↔ c.Valid := by
  have hnames : ∀ names : List String,
      (names.find? fun name => !Sql.Identifier.isValid name) = none ↔
        ∀ name ∈ names, Sql.Identifier.isValid name = true := by
    simp
  have hschema : (∀ name ∈ c.compiler.defaultSchema.toList, Sql.Identifier.isValid name = true) ↔
      ∀ schema, c.compiler.defaultSchema = some schema →
        Sql.Identifier.isValid schema = true := by
    simp
  simp only [fault?, Option.or_eq_none_iff, Option.map_eq_none_iff, hnames, hschema]
  constructor
  · rintro ⟨hroles, hdefault, htable, htimeouts⟩
    split at htimeouts
    case isTrue => cases htimeouts
    case isFalse hpositive =>
      rw [not_or] at hpositive
      exact ⟨hroles, hdefault, htable _ (by simp), by omega, by omega⟩
  · intro h
    have hstatement := h.statementTimeout
    have hcount := h.countTimeout
    refine ⟨h.roles, h.schema, ?_, if_neg (by omega)⟩
    intro name hname
    rw [List.mem_singleton.mp hname]
    exact h.auditTable

theorem validate_eq_ok_iff : c.validate = .ok () ↔ c.Valid := by
  rw [← fault?_eq_none_iff, validate]
  split
  case h_1 hnone => simp [hnone]
  case h_2 e hsome => simp [hsome]

/-! ## Roles -/

theorem Session.effectiveRole_mem (s : Session) (claimed : String) :
    s.effectiveRole claimed ∈ s.role :: s.allowedRoles := by
  unfold effectiveRole
  split
  case isTrue h => exact List.mem_cons_of_mem _ h
  case isFalse => exact List.mem_cons_self

theorem Session.effectiveRole_of_mem {s : Session} {claimed : String}
    (h : claimed ∈ s.allowedRoles) : s.effectiveRole claimed = claimed :=
  if_pos h

theorem Valid.isValid_effectiveRole (h : c.Valid) (claimed : String) :
    Sql.Identifier.isValid (c.session.effectiveRole claimed) = true :=
  h.roles _ (c.session.effectiveRole_mem claimed)

end Config

/-! ## Sinks -/

namespace Audit

theorem tableName_of_isValid {table : String} (h : Sql.Identifier.isValid table = true) :
    tableName table = .ok (Sql.Identifier.quoted table) := by
  have hne : table.toList.isEmpty = false :=
    List.isEmpty_eq_false_iff.mpr (Sql.Identifier.toList_ne_nil_of_isValid h)
  rw [tableName, Sql.Identifier.quote, hne]
  rfl

/-- With a plain name for the table, nothing but the address of the database can be wrong. -/
theorem databaseSink_eq_ok_iff {config : Config.Audit} {environment : Config.Environment}
    (h : Sql.Identifier.isValid config.table = true) :
    (∃ sink, databaseSink config environment = .ok sink) ↔
      ∃ variableName url, config.urlVariable = some variableName ∧
        environment variableName = some url ∧ Network.Url.isValid url = true := by
  unfold databaseSink
  cases hname : config.urlVariable with
  | none => simp
  | some name =>
      cases hurl : environment name with
      | none => simp [hurl]
      | some url =>
          cases hvalid : Network.Url.isValid url with
          | false => simp [hurl, hvalid, bind, Except.bind]
          | true =>
              simp [hurl, hvalid, tableName_of_isValid h, bind, Except.bind, pure, Except.pure]

end Audit

end TableGateway
