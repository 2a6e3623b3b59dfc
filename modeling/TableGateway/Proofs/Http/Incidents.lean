import TableGateway.Proofs.Http.Transaction
import TableGateway.Proofs.Query.Redaction

/-! # Which incidents go on record

The incidents of a write travel with its statement, so they go on record exactly if there is
one. -/

namespace TableGateway

/-! ## Incidents of statements -/

namespace Query

variable {settings : Settings} {request : Request} {context : Governance.Context}
  {operation : WriteOperation} {body : Json} {payload : Payload} {compiled : Compiled}

theorem compile_incidents (hoperation : request.method.operation? = some operation)
    (hbody : request.body = some body) (haccepted : Payload.ofJson body = .ok payload)
    (h : compile settings request context = .ok compiled) :
    compiled.incidents =
      (Governance.strip context request.table operation payload.rows).incidents := by
  have hpayload : ∀ b p, request.body = some b → Payload.ofJson b = .ok p → p = payload := by
    intro b p hb hp
    rw [hbody, Option.some.injEq] at hb
    rw [← hb, haccepted, Except.ok.injEq] at hp
    exact hp.symm
  rcases Request.Method.operation?_eq_some hoperation with ⟨hm, rfl⟩ | ⟨hm, rfl⟩
  · obtain ⟨target, p, rows, conflict, hinsert⟩ := compile_post hm h
    obtain ⟨b, hb, hp⟩ := hinsert.payload_eq
    rw [hinsert.incidents_eq, hpayload b p hb hp]
  · obtain ⟨target, attempted, row, hupdate⟩ := compile_patch hm h
    obtain ⟨b, hb, hp⟩ := hupdate.exists_body
    rw [hupdate.incidents_eq, ← hpayload b _ hb hp]
    rfl

end Query

/-! ## Incidents of answers -/

namespace Http

variable {g : Gateway} {m : Message} {caller : Caller} {operation : WriteOperation}
  {request : Request} {payload : Payload}

/-- The message comes from a caller that names its project, and is read as a request to write a
payload. -/
structure Writes (m : Message) (caller : Caller) (operation : WriteOperation) (request : Request)
    (payload : Payload) : Prop where
  caller_eq : Caller.ofHeaders? m.headers m.peer = some caller
  table_eq : ∃ segment, Route.ofPath? (splitTarget m.target).1 = some (.table segment) ∧
    Text.Percent.pathText? segment = some request.table
  method_eq : methodOf? m = some request.method
  operation_eq : request.method.operation? = some operation
  query_eq : request.query = Text.Percent.formPairs (splitTarget m.target).2
  headers_eq : request.headers = requestHeaders m.headers
  body_eq : bodyOf? m.body = some request.body
  accepted : ∃ body, request.body = some body ∧ Payload.ofJson body = .ok payload

theorem Writes.reads (h : Writes m caller operation request payload) : Reads m caller request where
  caller_eq := h.caller_eq
  table_eq := h.table_eq
  method_eq := h.method_eq
  query_eq := h.query_eq
  headers_eq := h.headers_eq
  body_eq := by
    have hwrites : request.method = .post ∨ request.method = .patch :=
      (Request.Method.operation?_eq_some h.operation_eq).imp And.left And.left
    rw [writtenBody?_eq_bodyOf? hwrites]
    exact h.body_eq

theorem handle_of_writes (h : Writes m caller operation request payload) (g : Gateway)
    (histories : Histories) :
    (handle g m histories).1.incidents =
      (handleTable g request.method request.table
        (Text.Percent.formPairs (splitTarget m.target).2) m histories).1.incidents := by
  obtain ⟨segment, hroute, htable⟩ := h.table_eq
  rw [handle_eq]
  simp only
  rw [route_eq_handleTable hroute h.method_eq htable]

theorem incidents_of_compiled (h : Writes m caller operation request payload)
    {compiled : Query.Compiled}
    (hcompiled : Query.compile g.compiler request caller.governance = .ok compiled)
    (histories : Histories) :
    (handle g m histories).1.incidents =
      (Governance.strip caller.governance request.table operation payload.rows).incidents := by
  obtain ⟨body, hbody, haccepted⟩ := h.accepted
  have hready := ready_of_reads h.reads g
  rw [hcompiled] at hready
  rw [handle_of_writes h, handleTable_of_ok hready]
  exact Query.compile_incidents h.operation_eq hbody haccepted hcompiled

theorem incidents_of_error (h : Writes m caller operation request payload) {e : Query.Error}
    (he : Query.compile g.compiler request caller.governance = .error e) (histories : Histories) :
    (handle g m histories).1.incidents = [] := by
  have hready := ready_of_reads h.reads g
  rw [he] at hready
  rw [handle_of_writes h, handleTable_of_error hready]

/-- Whatever the databases answer, all that governance takes out of a write goes on record if the
write compiles, and nothing of it goes on record otherwise. -/
theorem handle_incidents (h : Writes m caller operation request payload) (g : Gateway)
    (histories : Histories) :
    ((handle g m histories).1.incidents =
        (Governance.strip caller.governance request.table operation payload.rows).incidents ↔
      (∃ compiled, Query.compile g.compiler request caller.governance = .ok compiled) ∨
        (Governance.strip caller.governance request.table operation payload.rows).incidents = []) ∧
      ∀ e, Query.compile g.compiler request caller.governance = .error e →
        (handle g m histories).1.incidents = [] := by
  refine ⟨?_, fun e he => incidents_of_error h he histories⟩
  cases hcompile : Query.compile g.compiler request caller.governance with
  | ok compiled =>
      have hincidents := incidents_of_compiled h hcompile histories
      exact iff_of_true hincidents (.inl ⟨compiled, rfl⟩)
  | error e =>
      rw [incidents_of_error h hcompile histories]
      constructor
      · intro hnil
        exact .inr hnil.symm
      · rintro (⟨compiled, hcompiled⟩ | hnil)
        · cases hcompiled
        · exact hnil.symm

/-! ## A secret -/

deriving instance DecidableEq for Request.Headers
deriving instance DecidableEq for LockMap
deriving instance DecidableEq for Caller

/-- No project has a database. -/
def offline : Gateway := { compiler := ⟨none, none⟩, session := {}, databases := fun _ => none }

/-- An insertion of a to-do whose secret is locked. -/
def todoInsert (body : String) : Message where
  method := "POST"
  target := "/rest/v1/todos"
  headers := [("x-project-id", "p"), ("x-column-locks", "\x7b\"secret\":\"immutable\"\x7d")]
  body := body
  peer := none

def todoCaller : Caller where
  projectId := "p"
  claims := ⟨"", "anon", ""⟩
  role := "anon"
  sourceAddress := none
  locks := ⟨[("secret", .immutable)]⟩
  singular := false

def todoRequest (body : Json) : Request where
  method := .post
  table := "todos"
  query := []
  body := some body
  headers := .none

theorem bodyOf?_eq {text : String} {tree : Json.Tree} {v : Json} (hblank : isEmptyBody text = false)
    (htree : Json.Tree.ofText? text = some tree) (hv : tree.value? = some v) :
    bodyOf? text = some (some v) := by
  simp [bodyOf?, hblank, Json.parse?, htree, hv]

theorem writes_todoInsert {text : String} {body : Json} (hbody : bodyOf? text = some (some body))
    (haccepted : Payload.ofJson body = .ok payload) :
    Writes (todoInsert text) todoCaller .insert (todoRequest body) payload where
  caller_eq := by
    simp only [todoInsert]
    decide +kernel
  table_eq := by
    refine ⟨"todos", ?_, ?_⟩
    · simp only [todoInsert]
      rfl
    · simp only [todoRequest]
      decide +kernel
  method_eq := by
    simp only [todoInsert, methodOf?, isHead]
    rfl
  operation_eq := rfl
  query_eq := by
    simp only [todoInsert, todoRequest]
    decide +kernel
  headers_eq := by
    simp only [todoInsert, todoRequest]
    decide +kernel
  body_eq := hbody
  accepted := ⟨body, rfl, haccepted⟩

def titledSecret : String := "\x7b\"title\":\"a\",\"secret\":\"x\"\x7d"

theorem writes_titledSecret :
    Writes (todoInsert titledSecret) todoCaller .insert
      (todoRequest (.object [("title", .string "a"), ("secret", .string "x")]))
      (.single ⟨[("title", .text "a"), ("secret", .text "x")]⟩) := by
  have htree : Json.Tree.ofText? titledSecret =
      some (.object [("title".toList.map .char, .string [.char 'a']),
        ("secret".toList.map .char, .string [.char 'x'])]) := by
    simp [titledSecret, Json.Tree.ofText?, Json.value?, Json.members?, Json.skipSpace, Json.isSpace,
      Json.stringRest]
  exact writes_todoInsert (bodyOf?_eq (by decide +kernel) htree rfl) rfl

/-- The attempt to set a secret goes on record, although there is no database to write to. -/
theorem handle_incidents_titledSecret :
    Writes (todoInsert titledSecret) todoCaller .insert
        (todoRequest (.object [("title", .string "a"), ("secret", .string "x")]))
        (.single ⟨[("title", .text "a"), ("secret", .text "x")]⟩) ∧
      (handle offline (todoInsert titledSecret) nothingSaid).1.incidents =
        [⟨"p", "todos", "secret", "x", none, .insert, .immutable, "anon"⟩] :=
  ⟨writes_titledSecret,
    (handle_incidents writes_titledSecret offline nothingSaid).1.mpr (.inl ⟨_, rfl⟩)⟩

def bareSecret : String := "\x7b\"secret\":\"x\"\x7d"

theorem writes_bareSecret :
    Writes (todoInsert bareSecret) todoCaller .insert
      (todoRequest (.object [("secret", .string "x")])) (.single ⟨[("secret", .text "x")]⟩) := by
  have htree : Json.Tree.ofText? bareSecret =
      some (.object [("secret".toList.map .char, .string [.char 'x'])]) := by
    simp [bareSecret, Json.Tree.ofText?, Json.value?, Json.members?, Json.skipSpace, Json.isSpace,
      Json.stringRest]
  exact writes_todoInsert (bodyOf?_eq (by decide +kernel) htree rfl) rfl

/-- Nothing is left to be inserted once the secret is taken out, and then the attempt to set it
does not go on record. -/
theorem not_recorded_bareSecret :
    Writes (todoInsert bareSecret) todoCaller .insert
        (todoRequest (.object [("secret", .string "x")])) (.single ⟨[("secret", .text "x")]⟩) ∧
      Query.target offline.compiler (todoRequest (.object [("secret", .string "x")])) =
        .ok [.name "todos"] ∧
      (Governance.strip todoCaller.governance "todos" .insert
          [⟨[("secret", .text "x")]⟩]).incidents =
        [⟨"p", "todos", "secret", "x", none, .insert, .immutable, "anon"⟩] ∧
      (handle offline (todoInsert bareSecret) nothingSaid).1.incidents = [] :=
  ⟨writes_bareSecret, rfl, rfl, incidents_of_error writes_bareSecret rfl nothingSaid⟩

end Http

end TableGateway
