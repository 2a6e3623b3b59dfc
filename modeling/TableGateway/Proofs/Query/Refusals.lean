import TableGateway.Proofs.Query.Parts

/-! # Why a request is refused

Each part of a request can be refused for reasons of its own. The error names the part and holds
nothing of what stood there, so that there are only so many texts. -/

namespace TableGateway.Query

open Sql (Fragment)

variable {settings : Settings} {request : Request} {context : Governance.Context}
  {target : List Fragment} {e : Error}

/-! ## Parts -/

theorem target_eq_error (h : Query.target settings request = .error e) :
    e = .invalidTable ∨ e = .invalidIdentifier "schema" := by
  unfold Query.target at h
  split at h
  case isTrue =>
    cases h
    exact .inl rfl
  case isFalse =>
    split at h
    case h_1 => cases h
    case h_2 =>
      split at h
      case isTrue => cases h
      case isFalse =>
        cases h
        exact .inr rfl

theorem columnName_eq_error {name : String} (h : columnName name = .error e) :
    e = .invalidIdentifier "select list entry" := by
  simp only [columnName] at h
  split at h
  case isTrue => cases h
  case isFalse =>
    cases h
    rfl

theorem selectEntry_eq_error {entry : String} (h : selectEntry entry = .error e) :
    e = .invalidIdentifier "select list entry" := by
  unfold selectEntry at h
  split at h
  case isTrue =>
    cases h
    rfl
  case isFalse =>
    split at h
    case isTrue => cases h
    case isFalse =>
      split at h
      case isTrue => cases h
      case isFalse =>
        split at h
        case h_1 =>
          simp only [bind_eq_error] at h
          rcases h with h | ⟨_, -, h⟩
          · exact columnName_eq_error h
          · exact absurd h pure_ne_error
        case h_2 =>
          simp only [bind_eq_error] at h
          rcases h with h | ⟨_, -, h | ⟨_, -, h⟩⟩
          · exact columnName_eq_error h
          · exact columnName_eq_error h
          · exact absurd h pure_ne_error

theorem selectList_eq_error {raw : Option String} (h : selectList raw = .error e) :
    e = .invalidIdentifier "select list entry" := by
  simp only [selectList, bind_eq_error] at h
  rcases h with h | ⟨_, -, h⟩
  · obtain ⟨entry, -, hentry⟩ := exists_of_mapM_eq_error h
    exact selectEntry_eq_error hentry
  · split at h
    case h_1 => cases h
    case h_2 => cases h

theorem restrictColumns_eq_error {rows : List Row} (h : restrictColumns request rows = .error e) :
    e = .invalidIdentifier "columns" := by
  unfold restrictColumns at h
  split at h
  case h_1 => cases h
  case h_2 =>
    simp only [bind_eq_error] at h
    rcases h with h | ⟨_, -, h⟩
    · exact identifierList_eq_error h
    · exact absurd h pure_ne_error

theorem updatedRow_eq_error (h : updatedRow request = .error e) :
    ∃ cause, e = .invalidPayload cause := by
  unfold updatedRow at h
  split at h
  case h_1 => cases h
  case h_2 =>
    simp only [bind_eq_error, mapError_eq_error] at h
    rcases h with ⟨cause, -, h⟩ | ⟨_, -, h⟩
    · exact ⟨cause, h.symm⟩
    · split at h
      case h_1 => cases h
      case h_2 =>
        cases h
        exact ⟨.notAnObject, rfl⟩

/-! ## Methods -/

/-- The errors that a request can meet with. Only the schema of the target is ever called the
schema, and the other parts are refused by the methods that read them. -/
inductive Refused (settings : Settings) (request : Request) : Error → Prop where
  | table : Refused settings request .invalidTable
  | schema (h : Query.target settings request = .error (.invalidIdentifier "schema")) :
      Refused settings request (.invalidIdentifier "schema")
  | selected (h : request.method = .get) :
      Refused settings request (.invalidIdentifier "select list entry")
  | payload (h : request.method = .post ∨ request.method = .patch) (cause : Payload.Error) :
      Refused settings request (.invalidPayload cause)
  | nothing (h : request.method = .post ∨ request.method = .patch) :
      Refused settings request .emptyPayload
  | restricted (h : request.method = .post) :
      Refused settings request (.invalidIdentifier "columns")
  | uneven (h : request.method = .post) : Refused settings request .nonUniformBatch
  | conflict (h : request.method = .post) :
      Refused settings request (.invalidIdentifier "on_conflict")
  | unfiltered (h : request.method = .patch ∨ request.method = .delete) :
      Refused settings request (.missingFilter request.method)

theorem target_refused (h : Query.target settings request = .error e) :
    Refused settings request e := by
  rcases target_eq_error h with rfl | rfl
  · exact .table
  · exact .schema h

theorem compileRead_refused (hmethod : request.method = .get)
    (h : compileRead settings request target = .error e) : Refused settings request e := by
  simp only [compileRead, bind_eq_error] at h
  rcases h with h | ⟨_, -, h⟩
  · rw [selectList_eq_error h]
    exact .selected hmethod
  · exact absurd h pure_ne_error

theorem compileInsert_refused (hmethod : request.method = .post)
    (h : compileInsert request target context = .error e) : Refused settings request e := by
  unfold compileInsert at h
  split at h
  case h_2 =>
    cases h
    exact .nothing (.inl hmethod)
  case h_1 =>
    simp only [bind_eq_error, mapError_eq_error, check_eq_error] at h
    rcases h with ⟨cause, -, rfl⟩ | ⟨_, -, ⟨-, rfl⟩ | ⟨-, h | ⟨_, -, h⟩⟩⟩
    · exact .payload (.inl hmethod) cause
    · exact .nothing (.inl hmethod)
    · rw [restrictColumns_eq_error h]
      exact .restricted hmethod
    · rcases h with ⟨-, rfl⟩ | ⟨-, ⟨-, rfl⟩ | ⟨-, h | ⟨_, -, h⟩⟩⟩
      · exact .nothing (.inl hmethod)
      · exact .uneven hmethod
      · rw [conflictFragments_eq_error h]
        exact .conflict hmethod
      · exact absurd h pure_ne_error

theorem compileUpdate_refused (hmethod : request.method = .patch)
    (h : compileUpdate request target context = .error e) : Refused settings request e := by
  simp only [compileUpdate, bind_eq_error, check_eq_error] at h
  rcases h with h | ⟨_, -, ⟨-, rfl⟩ | ⟨-, ⟨-, rfl⟩ | ⟨-, h⟩⟩⟩
  · obtain ⟨cause, rfl⟩ := updatedRow_eq_error h
    exact .payload (.inr hmethod) cause
  · exact .unfiltered (.inl hmethod)
  · exact .nothing (.inr hmethod)
  · exact absurd h pure_ne_error

theorem compileDelete_refused (hmethod : request.method = .delete)
    (h : compileDelete request target = .error e) : Refused settings request e := by
  simp only [compileDelete, check_eq_error] at h
  rcases h with ⟨-, rfl⟩ | ⟨-, h⟩
  · exact .unfiltered (.inr hmethod)
  · exact absurd h pure_ne_error

theorem compile_refused (h : compile settings request context = .error e) :
    Refused settings request e := by
  simp only [compile, bind_eq_error] at h
  rcases h with h | ⟨_, -, h⟩
  · exact target_refused h
  · cases hmethod : request.method <;> simp only [hmethod] at h
    case get => exact compileRead_refused hmethod h
    case post => exact compileInsert_refused hmethod h
    case patch => exact compileUpdate_refused hmethod h
    case delete => exact compileDelete_refused hmethod h

theorem Refused.target_eq (h : Refused settings request e)
    (he : e = .invalidIdentifier "schema") : Query.target settings request = .error e := by
  cases h with
  | schema htarget => exact htarget
  | selected | restricted | conflict => exact absurd he (by decide)
  | _ => cases he

/-- The schema of the deployment is plain, so that only the caller can name a schema that is
not. -/
theorem compile_ne_schema (hprofile : request.profile? = none)
    (hdefault : ∀ schema, settings.defaultSchema = some schema →
      Sql.Identifier.isValid schema = true) :
    compile settings request context ≠ .error (.invalidIdentifier "schema") := by
  intro h
  have htarget := (compile_refused h).target_eq rfl
  rw [Query.target, hprofile, Option.none_or] at htarget
  split at htarget
  case isTrue => cases htarget
  case isFalse =>
    cases hschema : settings.defaultSchema with
    | none => simp [hschema] at htarget
    | some schema => simp [hschema, hdefault schema hschema] at htarget

/-! ## Texts -/

/-- All that is ever said of a request that makes no statement. -/
def refusalTexts : List String :=
  ["invalid table name",
    "request body has no writable columns",
    "all rows of a batch insert must have the same columns",
    "invalid payload: payload must be a JSON object or an array of JSON objects",
    "invalid payload: payload contains an invalid column name",
    "PATCH requires at least one filter",
    "DELETE requires at least one filter",
    "invalid identifier: schema",
    "invalid identifier: columns",
    "invalid identifier: on_conflict",
    "invalid identifier: select list entry"]

theorem Refused.message_mem (h : Refused settings request e) : e.message ∈ refusalTexts := by
  cases h with
  | table => decide
  | schema => decide
  | selected => decide
  | payload _ cause => cases cause <;> decide
  | nothing => decide
  | restricted => decide
  | uneven => decide
  | conflict => decide
  | unfiltered hmethod => rcases hmethod with hmethod | hmethod <;> rw [hmethod] <;> decide

end TableGateway.Query
