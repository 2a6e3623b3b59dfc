import TableGateway.Proofs.Http.Incidents
import TableGateway.Proofs.Session.Statements

/-! # One database for each request

What is said to answer a request is said to the database of the project that the request names. A
request that names none, cannot be read or does not compile says nothing at all. -/

namespace TableGateway.Http

open Database
open Session (countingScript mainSql setupScript)

variable {g : Gateway} {m : Message} {histories : Histories} {caller : Caller} {request : Request}
  {compiled : Query.Compiled} {project : String}

/-! ## Projects -/

/-- The first header that names a project is readable, and it says the project between blanks. -/
inductive Names (headers : Headers) : String → Prop where
  | intro {front back : Headers} {name value : String}
      (hheaders : headers = front ++ (name, value) :: back)
      (hfirst : ∀ header ∈ front, Text.lower header.1 ≠ "x-project-id")
      (hname : Text.lower name = "x-project-id") (hreadable : isReadable value = true)
      (hne : Text.trim value ≠ "") : Names headers (Text.trim value)

theorem header?_eq (headers : Headers) (name : String) :
    header? headers name =
      ((headers.find? fun header => decide (Text.lower header.1 = name)).filter
        fun header => isReadable header.2).map fun header => Text.trim header.2 := by
  unfold header?
  split
  case h_1 other value hfind =>
    have hfirst : (headers.find? fun header => decide (Text.lower header.1 = name)) =
        some (other, value) := hfind
    rw [hfirst, Option.filter_some]
    split
    case isTrue => rfl
    case isFalse => rfl
  case h_2 hfind =>
    have hnone : (headers.find? fun header => decide (Text.lower header.1 = name)) = none := hfind
    rw [hnone]
    rfl

theorem header?_eq_some_iff {headers : Headers} {name text : String} :
    header? headers name = some text ↔ ∃ front other value back,
      headers = front ++ (other, value) :: back ∧ (∀ header ∈ front, Text.lower header.1 ≠ name) ∧
        Text.lower other = name ∧ isReadable value = true ∧ Text.trim value = text := by
  simp only [header?_eq, Option.map_eq_some_iff, Option.filter_eq_some_iff,
    List.find?_eq_some_iff_append, decide_eq_true_iff, Bool.not_eq_true', decide_eq_false_iff_not]
  constructor
  · rintro ⟨⟨other, value⟩, ⟨⟨hother, front, back, hheaders, hfront⟩, hreadable⟩, htext⟩
    exact ⟨front, other, value, back, hheaders, hfront, hother, hreadable, htext⟩
  · rintro ⟨front, other, value, back, hheaders, hfront, hother, hreadable, htext⟩
    exact ⟨(other, value), ⟨⟨hother, front, back, hheaders, hfront⟩, hreadable⟩, htext⟩

theorem names_iff {headers : Headers} :
    Names headers project ↔ (header? headers "x-project-id").filter
      (fun id => !id.toList.isEmpty) = some project := by
  have hempty : ∀ text : String, (!text.toList.isEmpty) = true ↔ text ≠ "" := by simp
  rw [Option.filter_eq_some_iff, header?_eq_some_iff, hempty]
  constructor
  · rintro ⟨hheaders, hfirst, hname, hreadable, hne⟩
    exact ⟨⟨_, _, _, _, hheaders, hfirst, hname, hreadable, rfl⟩, hne⟩
  · rintro ⟨⟨front, name, value, back, hheaders, hfirst, hname, hreadable, rfl⟩, hne⟩
    exact ⟨hheaders, hfirst, hname, hreadable, hne⟩

theorem names_of_ofHeaders? {headers : Headers} {peer : Option Network.Address}
    (h : Caller.ofHeaders? headers peer = some caller) : Names headers caller.projectId := by
  simp only [Caller.ofHeaders?, Option.bind_eq_bind, Option.bind_eq_some_iff] at h
  obtain ⟨projectId, hproject, h⟩ := h
  cases h
  exact names_iff.mpr hproject

/-! ## Rejected requests -/

/-- Why nothing is said to answer a message: it names no project, its body is neither blank nor a
JSON value although it is to be written, or the request does not compile. -/
inductive Rejected (g : Gateway) (m : Message) : Prop where
  | unnamed (h : ∀ project, ¬Names m.headers project)
  | malformed (hmethod : methodOf? m = some .post ∨ methodOf? m = some .patch)
      (hblank : isEmptyBody m.body = false) (hbody : Json.parse? m.body = none)
  | uncompiled {caller : Caller} {request : Request} {e : Query.Error} (h : Reads m caller request)
      (he : Query.compile g.compiler request caller.governance = .error e)

theorem Reads.names (h : Reads m caller request) : Names m.headers caller.projectId :=
  names_of_ofHeaders? h.caller_eq

theorem Reads.unique {other : Caller} {another : Request} (h : Reads m caller request)
    (hother : Reads m other another) : other = caller ∧ another = request := by
  obtain ⟨segment, hroute, htable⟩ := h.table_eq
  obtain ⟨segment', hroute', htable'⟩ := hother.table_eq
  have hmethod : another.method = request.method := by simpa [hother.method_eq] using h.method_eq
  have hquery : another.query = request.query := hother.query_eq.trans h.query_eq.symm
  have hheaders : another.headers = request.headers := hother.headers_eq.trans h.headers_eq.symm
  have hname : another.table = request.table := by
    rw [hroute] at hroute'
    cases hroute'
    simpa [htable'] using htable
  have hbody : another.body = request.body := by
    have hwritten := hother.body_eq
    rw [hmethod, h.body_eq] at hwritten
    exact (Option.some.inj hwritten).symm
  refine ⟨by simpa [hother.caller_eq] using h.caller_eq, ?_⟩
  cases request
  cases another
  simp_all

theorem not_rejected (h : Reads m caller request)
    (hcompiled : Query.compile g.compiler request caller.governance = .ok compiled) :
    ¬Rejected g m := by
  rintro (hunnamed | ⟨hmethod, hblank, hbody⟩ | ⟨hother, he⟩)
  · exact hunnamed _ h.names
  · have hwrites : request.method = .post ∨ request.method = .patch := by
      simpa [h.method_eq] using hmethod
    have hwritten := h.body_eq
    rw [writtenBody?_eq_bodyOf? hwrites, bodyOf?, hblank, hbody] at hwritten
    cases hwritten
  · obtain ⟨rfl, rfl⟩ := h.unique hother
    rw [hcompiled] at he
    cases he

/-- A write whose body is no JSON value is answered with what is said of its text. -/
theorem handle_malformed {segment table : String} {method : Request.Method}
    (hcaller : Caller.ofHeaders? m.headers m.peer = some caller)
    (hroute : Route.ofPath? (splitTarget m.target).1 = some (.table segment))
    (htable : Text.Percent.pathText? segment = some table)
    (hmethod : methodOf? m = some method) (hwrites : method = .post ∨ method = .patch)
    (hblank : isEmptyBody m.body = false) (hbody : Json.parse? m.body = none) (g : Gateway)
    (histories : Histories) :
    handle g m histories =
      (⟨.json 400 (ErrorBody.toJson {
          code := "invalid_json"
          message := "request body is not valid JSON: " ++ g.syntaxFault m.body }), []⟩,
        histories) := by
  have hready : ready g method table (Text.Percent.formPairs (splitTarget m.target).2) m =
      .error (.invalidJson (g.syntaxFault m.body)) := by
    rw [ready, hcaller, writtenBody?_eq_bodyOf? hwrites, bodyOf?, hblank, hbody]
    rfl
  have hshown (response : Response) : shown m response = response := by
    unfold shown
    split
    case isTrue hhead =>
      rw [methodOf?, if_pos hhead] at hmethod
      cases hmethod
      simp at hwrites
    case isFalse => rfl
  rw [handle_eq, route_eq_handleTable hroute hmethod htable, handleTable_of_error hready, hshown]
  rfl

/-! ## Performed requests -/

theorem handle_of_reads (h : Reads m caller request)
    (hcompiled : Query.compile g.compiler request caller.governance = .ok compiled)
    (histories : Histories) :
    handle g m histories =
      (⟨shown m (responseTo request.method ⟨caller, compiled⟩
          (perform g.session (g.databases caller.projectId) ⟨caller, compiled⟩
            (histories caller.projectId)).1), compiled.incidents⟩,
        fun p => if p = caller.projectId then
            (perform g.session (g.databases caller.projectId) ⟨caller, compiled⟩
              (histories caller.projectId)).2
          else histories p) := by
  obtain ⟨segment, hroute, htable⟩ := h.table_eq
  have hready := ready_of_reads h g
  rw [hcompiled] at hready
  rw [handle_eq, route_eq_handleTable hroute h.method_eq htable, handleTable_of_ok hready]

theorem route_of_not_table
    (h : ∀ segment, Route.ofPath? (splitTarget m.target).1 ≠ some (.table segment))
    (g : Gateway) (histories : Histories) : (route g m histories).2 = histories := by
  unfold route
  generalize methodOf? m = method
  generalize splitTarget m.target = target at h ⊢
  obtain ⟨path, query⟩ := target
  simp only at h ⊢
  cases hroute : Route.ofPath? path with
  | none => rfl
  | some route =>
      cases route with
      | health => rcases method with _ | _ | _ <;> rfl
      | table segment => exact absurd hroute (h segment)

/-- A message that leads to no statement leaves all histories as they are. -/
theorem handle_cases (g : Gateway) (m : Message) (histories : Histories) :
    (handle g m histories).2 = histories ∨ ∃ caller request compiled, Reads m caller request ∧
      Query.compile g.compiler request caller.governance = .ok compiled := by
  rw [handle_eq]
  by_cases htable : ∃ segment, Route.ofPath? (splitTarget m.target).1 = some (.table segment)
  · obtain ⟨segment, hroute⟩ := htable
    rcases route_table (g := g) hroute histories with
      ⟨status, -, hrun⟩ | ⟨method, table, hmethod, htable, hrun⟩
    · rw [hrun]
      exact .inl rfl
    · rw [hrun]
      cases hready : ready g method table
          (Text.Percent.formPairs (splitTarget m.target).2) m with
      | error e =>
          rw [handleTable_of_error hready]
          exact .inl rfl
      | ok r =>
          obtain ⟨request, hreads, hcompiled⟩ :=
            exists_reads_of_ready hroute hmethod htable rfl hready
          exact .inr ⟨r.caller, request, r.compiled, hreads, hcompiled⟩
  · have hsame := route_of_not_table (not_exists.mp htable) g histories
    left
    simp only [hsame]

/-- All that may be said in the transaction of a query, in order: its setting up, the count, and
the main statement. -/
def transactionScript (settings : Session.Settings) (query : Query) : List String :=
  setupScript settings ++ (countingScript query settings ++ [mainSql query])

theorem perform_utters (session : Config.Session) (pool : Option Database) (r : Ready) :
    (perform session pool r).Utters
      (transactionScript (.forCaller session r.caller.claims) r.compiled.query) := by
  rw [perform_eq]
  refine Session.runScoped_utters pool fun db => ?_
  have hexecute := (Session.execute_utters db r.compiled.query
    (.forCaller session r.caller.claims)).mapError (f := Error.session)
  have hbody := hexecute.bind fun outcome => (Conversation.utters_of_silent
    (m := Conversation.ofExcept (checkSingular r.caller.singular r.compiled.query.returnsRows
      outcome)) fun _ => rfl).bind fun _ => Conversation.utters_of_silent
        (m := (pure outcome : Conversation Error Session.Outcome)) fun _ => rfl
  rwa [List.append_nil, List.append_nil] at hbody

theorem perform_none (session : Config.Session) (r : Ready) (before : History) :
    ∃ e, perform session none r before = (.error (.session e), before) ∧ sessionStatus e =
      if Sql.Identifier.isValid (session.effectiveRole r.caller.claims.role) then 503 else 500 := by
  rw [perform_eq]
  cases hrole : Sql.Identifier.isValid (session.effectiveRole r.caller.claims.role) with
  | false => exact ⟨_, Session.runScoped_of_not_isValid none hrole, rfl⟩
  | true => exact ⟨_, Session.runScoped_none hrole, rfl⟩

theorem status_shown (m : Message) (response : Response) :
    (shown m response).status = response.status := by
  unfold shown
  split <;> rfl

/-! ## Isolation -/

/-- What is said to answer a message is said to the database of the project that it names. A
rejected message says nothing, and neither does one whose project has no database. The transaction
of a request keeps to its script, whose main statement is executed once at most. -/
structure Isolated (g : Gateway) (m : Message) (histories : Histories) (response : Response)
    (after : Histories) : Prop where
  rejected : Rejected g m → after = histories
  touched : ∀ project, after project ≠ histories project → Names m.headers project ∧
    (∃ db, g.databases project = some db) ∧ ∃ caller request compiled,
      Reads m caller request ∧ caller.projectId = project ∧
        Query.compile g.compiler request caller.governance = .ok compiled
  unavailable : ∀ caller request compiled, Reads m caller request →
    Query.compile g.compiler request caller.governance = .ok compiled →
    g.databases caller.projectId = none → after = histories ∧ response.status =
      if Sql.Identifier.isValid (g.session.effectiveRole caller.claims.role) then 503 else 500
  performed : ∀ caller request compiled, Reads m caller request →
    Query.compile g.compiler request caller.governance = .ok compiled →
    ∃ said, after caller.projectId = histories caller.projectId ++ said ∧
      Within (transactionScript (.forCaller g.session caller.claims) compiled.query) said ∧
      (executed said).count (mainSql compiled.query) ≤ 1

theorem handle_touched {histories : Histories}
    (h : (handle g m histories).2 project ≠ histories project) : Names m.headers project ∧
      (∃ db, g.databases project = some db) ∧ ∃ caller request compiled,
        Reads m caller request ∧ caller.projectId = project ∧
          Query.compile g.compiler request caller.governance = .ok compiled := by
  rcases handle_cases g m histories with hsame | ⟨caller, request, compiled, hreads, hcompiled⟩
  · exact absurd (congrFun hsame project) h
  · rw [handle_of_reads hreads hcompiled] at h
    simp only at h
    split at h
    case isFalse => exact absurd rfl h
    case isTrue hproject =>
      subst hproject
      refine ⟨hreads.names, ?_, caller, request, compiled, hreads, rfl, hcompiled⟩
      cases hpool : g.databases caller.projectId with
      | some db => exact ⟨db, rfl⟩
      | none =>
          obtain ⟨e, hperform, -⟩ := perform_none g.session ⟨caller, compiled⟩
            (histories caller.projectId)
          rw [hpool, hperform] at h
          exact absurd rfl h

theorem handle_unavailable (h : Reads m caller request)
    (hcompiled : Query.compile g.compiler request caller.governance = .ok compiled)
    (hpool : g.databases caller.projectId = none) (histories : Histories) :
    (handle g m histories).2 = histories ∧ (handle g m histories).1.response.status =
      if Sql.Identifier.isValid (g.session.effectiveRole caller.claims.role) then 503 else 500 := by
  obtain ⟨e, hperform, hstatus⟩ := perform_none g.session ⟨caller, compiled⟩
    (histories caller.projectId)
  rw [handle_of_reads h hcompiled, hpool, hperform]
  constructor
  · funext p
    simp only
    split
    case isTrue hp => rw [hp]
    case isFalse => rfl
  · rw [status_shown]
    exact hstatus

theorem handle_performed (h : Reads m caller request)
    (hcompiled : Query.compile g.compiler request caller.governance = .ok compiled)
    (histories : Histories) :
    ∃ said, (handle g m histories).2 caller.projectId = histories caller.projectId ++ said ∧
      Within (transactionScript (.forCaller g.session caller.claims) compiled.query) said ∧
      (executed said).count (mainSql compiled.query) ≤ 1 := by
  obtain ⟨said, hsaid, hwithin⟩ := perform_utters g.session (g.databases caller.projectId)
    ⟨caller, compiled⟩ (histories caller.projectId)
  refine ⟨said, ?_, hwithin, ?_⟩
  · rw [handle_of_reads h hcompiled]
    exact (if_pos rfl).trans hsaid
  · rw [transactionScript, ← List.append_assoc] at hwithin
    exact hwithin.count_executed_le (Session.mainSql_not_mem hcompiled _)

/-- Whatever the state, the message and the databases are, no other database than that of the named
project is spoken to. -/
theorem handle_isolated (g : Gateway) (m : Message) (histories : Histories) :
    Isolated g m histories (handle g m histories).1.response (handle g m histories).2 where
  rejected hrejected := by
    rcases handle_cases g m histories with hsame | ⟨caller, request, compiled, hreads, hcompiled⟩
    · exact hsame
    · exact absurd hrejected (not_rejected hreads hcompiled)
  touched _ h := handle_touched h
  unavailable _ _ _ hreads hcompiled hpool := handle_unavailable hreads hcompiled hpool histories
  performed _ _ _ hreads hcompiled := handle_performed hreads hcompiled histories

/-- A read of the to-dos of a project that has no database. -/
def todoRead : Message where
  method := "GET"
  target := "/rest/v1/todos"
  headers := [("x-project-id", "nope")]
  body := ""
  peer := none

def todoReader : Caller where
  projectId := "nope"
  claims := ⟨"", "anon", ""⟩
  role := "anon"
  sourceAddress := none
  locks := .empty
  singular := false

def todoList : Request := ⟨.get, "todos", [], none, .none⟩

theorem reads_todoRead : Reads todoRead todoReader todoList where
  caller_eq := by decide +kernel
  table_eq := ⟨"todos", rfl, by decide +kernel⟩
  method_eq := by decide +kernel
  query_eq := by decide +kernel
  headers_eq := by decide +kernel
  body_eq := rfl

theorem handle_isolated_todoRead :
    Reads todoRead todoReader todoList ∧ (handle offline todoRead nothingSaid).2 = nothingSaid ∧
      (handle offline todoRead nothingSaid).1.response.status = 503 :=
  ⟨reads_todoRead,
    (handle_isolated offline todoRead nothingSaid).unavailable _ _ _ reads_todoRead rfl rfl⟩

/-- The role of the transactions is no plain identifier. -/
def misruled : Gateway where
  compiler := ⟨none, none⟩
  session := { role := "bad role" }
  databases := fun _ => none

/-- The role is looked at before the database, so that a bad one is found first. -/
theorem not_unreachable_misruled :
    Reads todoRead todoReader todoList ∧
      (∃ compiled, Query.compile misruled.compiler todoList todoReader.governance = .ok compiled) ∧
      misruled.databases todoReader.projectId = none ∧
      (handle misruled todoRead nothingSaid).1.response.status ≠ 503 := by
  have hstatus : (handle misruled todoRead nothingSaid).1.response.status = 500 :=
    (handle_unavailable reads_todoRead rfl rfl nothingSaid).2
  exact ⟨reads_todoRead, ⟨_, rfl⟩, rfl, by rw [hstatus]; decide⟩

/-- However many messages are answered, only those that name a project speak to its database. -/
theorem handleAll_untouched (g : Gateway) (project : String) (ms : List Message)
    (h : ∀ m ∈ ms, ¬Names m.headers project) (histories : Histories) :
    (handleAll g histories ms).2 project = histories project := by
  induction ms generalizing histories with
  | nil => rfl
  | cons m ms ih =>
      have hfirst : (handle g m histories).2 project = histories project := by
        by_contra htouched
        exact h m (by simp) (handle_touched htouched).1
      have hrest := ih (fun m hm => h m (by simp [hm])) (handle g m histories).2
      rw [hfirst] at hrest
      rw [handleAll]
      generalize handle g m histories = run at hrest ⊢
      exact hrest

end TableGateway.Http
