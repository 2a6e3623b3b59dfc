import TableGateway.Http.Caller
import TableGateway.Http.Error
import TableGateway.Json.Reader
import TableGateway.Network.Url
import TableGateway.Query.Compile
import TableGateway.Session.Execution
import TableGateway.Text.Percent

/-! # Answering requests -/

namespace TableGateway.Http

open Network (Address)
open Request (Method)

/-! ## Requests and responses -/

/-- A request as it comes in. Its target is a path with an optional query. -/
structure Message where
  method : String
  target : String
  headers : Headers
  body : String
  peer : Option Address

/-- What is sent back. A body, if there is one, is the text of a JSON value. -/
structure Response where
  status : Nat
  contentRange : Option String
  body : Option String

/-- A response without a body. -/
def Response.bare (status : Nat) : Response := ⟨status, none, none⟩

/-- A response with a JSON value. -/
def Response.json (status : Nat) (v : Json) : Response := ⟨status, none, some v.text⟩

def Response.error (e : Error) : Response := .json e.status e.body.toJson

/-- The response without what its body holds, as it answers a request for the headers alone. -/
def Response.headersOnly (r : Response) : Response :=
  { r with body := r.body.map fun _ => "" }

/-! ## Gateways -/

/-- The settings of all requests, and the databases of the projects. -/
structure Gateway where
  compiler : Query.Settings
  session : Config.Session
  databases : String → Option Database
  /-- What the reader of JSON has to say of a text that is none. -/
  syntaxFault : String → String := fun _ => ""

/-- What was said so far to the database of each project. -/
abbrev Histories := String → Database.History

/-! ## Statements of requests -/

/-- The characters of a body that says nothing. -/
def isEmptyBody (body : String) : Bool :=
  body.toList.all fun c => c == ' ' || c == '\t' || c == '\n' || c == '\x0c' || c == '\r'

/-- The value of a body that is JSON, if it says anything. -/
def bodyOf? (body : String) : Option (Option Json) :=
  if isEmptyBody body then some none else (Json.parse? body).map some

/-- The value of the body of a request. Only writes of values have a body. -/
def writtenBody? (method : Method) (body : String) : Option (Option Json) :=
  match method with
  | .post => bodyOf? body
  | .patch => bodyOf? body
  | _ => some none

/-- A request that is ready to be executed. -/
structure Ready where
  caller : Caller
  compiled : Query.Compiled

/-- Reads and compiles a request. -/
def ready (g : Gateway) (method : Method) (table : String) (query : List (String × String))
    (m : Message) : Except Error Ready := do
  let some caller := Caller.ofHeaders? m.headers m.peer | .error .missingProjectId
  let some body := writtenBody? method m.body | .error (.invalidJson (g.syntaxFault m.body))
  let request : Request := {
    method := method
    table := table
    query := query
    body := body
    headers := requestHeaders m.headers }
  let compiled ← (Query.compile g.compiler request caller.governance).mapError .query
  return ⟨caller, compiled⟩

/-! ## Execution -/

/-- A single object must be one row. -/
def checkSingular (singular returnsRows : Bool) (outcome : Session.Outcome) :
    Except Error Unit :=
  if singular && returnsRows && outcome.rows.length != 1 then
    .error (.notSingular outcome.rows.length)
  else .ok ()

/-- Executes a request in a transaction of its own. -/
def perform (session : Config.Session) (database : Option Database) (r : Ready) :
    Conversation Error Session.Outcome :=
  let settings := Session.Settings.forCaller session r.caller.claims
  Session.runScoped .session database settings r.caller.claims fun db => do
    let outcome ← (Session.execute db r.compiled.query settings).mapError .session
    Conversation.ofExcept (checkSingular r.caller.singular r.compiled.query.returnsRows outcome)
    return outcome

/-- The response to a request that was executed. -/
def respond (method : Method) (r : Ready) (outcome : Session.Outcome) : Response :=
  if r.compiled.query.returnsRows then
    let status := if method = .post then 201 else 200
    let body := if r.caller.singular then outcome.rows.headD .null else .array outcome.rows
    let range := r.compiled.page.map fun page =>
      page.contentRange outcome.rows.length outcome.total
    { Response.json status body with contentRange := range }
  else .bare 204

/-! ## Answers -/

/-- A response, and the incidents that go on record for it. -/
structure Answer where
  response : Response
  incidents : List Incident

/-- Answers a request for a table. Incidents go on record before anything is executed, whatever
comes of it. -/
def handleTable (g : Gateway) (method : Method) (table : String)
    (query : List (String × String)) (m : Message) (histories : Histories) :
    Answer × Histories :=
  match ready g method table query m with
  | .error e => (⟨.error e, []⟩, histories)
  | .ok r =>
      let project := r.caller.projectId
      let (outcome, history) := perform g.session (g.databases project) r (histories project)
      let response := match outcome with
        | .ok outcome => respond method r outcome
        | .error e => .error e
      (⟨response, r.compiled.incidents⟩,
        fun p => if p = project then history else histories p)

/-! ## Routes -/

/-- What a path leads to. -/
inductive Route where
  | health
  | table (segment : String)

/-- A target without the scheme and the authority that it may start with. -/
def afterAuthority (target : String) : String :=
  match Network.Url.afterScheme? target.toList with
  | some ('/' :: '/' :: rest) =>
      String.ofList (rest.dropWhile fun c => !Network.Url.endsAuthority c)
  | _ => target

/-- The path and the query of a target. -/
def splitTarget (target : String) : String × String :=
  let target := afterAuthority target
  let target := match Text.cut '#' target with
    | some (front, _) => front
    | none => target
  (Text.cut '?' target).getD (target, "")

/-- The route of a path. A table is one segment that is not empty. -/
def Route.ofPath? (path : String) : Option Route :=
  if path = "/healthz" then some health
  else
    match Text.afterFront? "/rest/v1/" path with
    | some segment =>
        if segment.toList.isEmpty || Text.occursIn "/" segment then none
        else some (table segment)
    | none => none

/-- The answer to a check of the service itself. -/
def healthResponse : Response :=
  .json 200 (.object [("ok", .bool true), ("service", .string "restgate")])

/-- A request for the headers alone is answered like one that reads. -/
def isHead (m : Message) : Bool :=
  m.method == "HEAD"

/-- The method that a request is answered by. -/
def methodOf? (m : Message) : Option Method :=
  if isHead m then some .get else Method.ofText? m.method

/-- Answers a request whose body is sent back. -/
def route (g : Gateway) (m : Message) (histories : Histories) : Answer × Histories :=
  let bare (status : Nat) : Answer × Histories := (⟨.bare status, []⟩, histories)
  let (path, query) := splitTarget m.target
  match Route.ofPath? path, methodOf? m with
  | none, _ => bare 404
  | some .health, some .get => (⟨healthResponse, []⟩, histories)
  | some .health, _ => bare 405
  | some (.table _), none => bare 405
  | some (.table segment), some method =>
      match Text.Percent.pathText? segment with
      | none => bare 400
      | some table => handleTable g method table (Text.Percent.formPairs query) m histories

/-- Answers a request. -/
def handle (g : Gateway) (m : Message) (histories : Histories) : Answer × Histories :=
  let (answer, histories) := route g m histories
  if isHead m then (⟨answer.response.headersOnly, answer.incidents⟩, histories)
  else (answer, histories)

/-- Answers requests one after the other. -/
def handleAll (g : Gateway) (histories : Histories) : List Message → List Answer × Histories
  | [] => ([], histories)
  | m :: ms =>
      let (answer, histories) := handle g m histories
      let (answers, histories) := handleAll g histories ms
      (answer :: answers, histories)

end TableGateway.Http
