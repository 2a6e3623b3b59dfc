import Mathlib.Data.List.Basic
import TableGateway.Database.Script
import TableGateway.Http.Gateway
import TableGateway.Proofs.Result
import TableGateway.Proofs.Session.Execution
import TableGateway.Proofs.Session.Scope

/-! # Success means a committed transaction

A request for a table succeeds if and only if its transaction was committed. All that can be said
to the database in between is what `Course` lists, and every fact about the answer is read off
it. -/

namespace TableGateway.Http

open Database
open Session (Outcome Answered Executed mainSql opening setup runScoped)
open Request (Method)

/-! ## Statuses -/

/-- The status says that the request succeeded. -/
def Response.isSuccess (r : Response) : Bool :=
  200 ≤ r.status && r.status < 300

theorem statusOfCode_ge (code : String) : 400 ≤ statusOfCode code := by
  unfold statusOfCode
  repeat' split
  all_goals decide

theorem sessionStatus_ge (e : Session.Error) : 400 ≤ sessionStatus e := by
  unfold sessionStatus
  split
  case h_6 e => exact statusOfCode_ge e.code
  all_goals decide

theorem Error.status_ge (e : Error) : 400 ≤ e.status := by
  cases e with
  | session cause => exact sessionStatus_ge cause
  | _ => exact Nat.le_of_ble_eq_true rfl

theorem isSuccess_error (e : Error) : (Response.error e).isSuccess = false := by
  have h : ¬e.status < 300 := by
    have := e.status_ge
    omega
  simp [Response.isSuccess, Response.error, Response.json, h]

theorem isSuccess_respond (method : Method) (r : Ready) (outcome : Outcome) :
    (respond method r outcome).isSuccess = true := by
  unfold respond
  split
  · simp only [Response.json]
    split <;> rfl
  · rfl

/-! ## Bodies of transactions -/

variable {db : Database} {r : Ready} {before said front back : History} {e : Error}

/-- The main statement succeeded and was said last. If the caller asks for a single object, there
is one row. -/
inductive Concluded (db : Database) (r : Ready) (before : History) : History → Prop where
  | intro {front : History} {arguments : List Parameter} {reply : Database.Reply}
      (hreply : db.respond (before ++ front) (.execute (mainSql r.compiled.query) arguments) =
        .ok reply)
      (hsingular : r.caller.singular = true → r.compiled.query.returnsRows = true →
        reply.cells.length = 1) :
      Concluded db r before (front ++ [⟨.execute (mainSql r.compiled.query) arguments, none⟩])

/-- Why a transaction that has begun has no result. The exchange that was said last is the reason:
it ended an execution, or the main statement had another number of rows than the one that the
caller asks for. -/
inductive Cause (db : Database) (r : Ready) (before : History) : History → Error → Prop where
  | fault {said : History} {e : Session.Error} (h : Session.Fault db before said e) :
      Cause db r before said (.session e)
  | notSingular {front : History} {arguments : List Parameter} {reply : Database.Reply}
      (hreply : db.respond (before ++ front) (.execute (mainSql r.compiled.query) arguments) =
        .ok reply)
      (hsingular : r.caller.singular = true) (hreturns : r.compiled.query.returnsRows = true)
      (hrows : reply.cells.length ≠ 1) :
      Cause db r before (front ++ [⟨.execute (mainSql r.compiled.query) arguments, none⟩])
        (.notSingular reply.cells.length)

/-- What is executed in the transaction of a request. -/
def bodyOfTransaction (settings : Session.Settings) (r : Ready) (db : Database) :
    Conversation Error Outcome := do
  let outcome ← (Session.execute db r.compiled.query settings).mapError .session
  Conversation.ofExcept (checkSingular r.caller.singular r.compiled.query.returnsRows outcome)
  return outcome

theorem perform_eq (session : Config.Session) (pool : Option Database) (r : Ready) :
    perform session pool r =
      runScoped .session pool (.forCaller session r.caller.claims) r.caller.claims
        (bodyOfTransaction (.forCaller session r.caller.claims) r) := rfl

/-- Only statements were said. Without a result the last exchange is to blame, and with one the main
statement has concluded the body. -/
structure BodySpec (db : Database) (r : Ready) (before said : History)
    (result : Except Error Outcome) : Prop where
  statements : ∀ x ∈ said, x.command.IsStatement
  cause : ∀ e, result = .error e → Cause db r before said e
  concluded : ∀ outcome, result = .ok outcome → Concluded db r before said

theorem checkSingular_eq_error {singular returnsRows : Bool} {outcome : Outcome}
    (h : checkSingular singular returnsRows outcome = .error e) :
    singular = true ∧ returnsRows = true ∧ outcome.rows.length ≠ 1 ∧
      e = .notSingular outcome.rows.length := by
  unfold checkSingular at h
  split at h
  case isTrue hc =>
    cases h
    simpa [and_assoc] using hc
  case isFalse => cases h

theorem checkSingular_eq_ok {singular returnsRows : Bool} {outcome : Outcome} {u : Unit}
    (h : checkSingular singular returnsRows outcome = .ok u) (hsingular : singular = true)
    (hreturns : returnsRows = true) : outcome.rows.length = 1 := by
  unfold checkSingular at h
  split at h
  case isTrue => cases h
  case isFalse hc => simpa [hsingular, hreturns] using hc

theorem bodySpec_of_error {cause : Session.Error}
    (h : Executed db r.compiled.query before said (.error cause)) :
    BodySpec db r before said (.error (.session cause)) where
  statements := h.statements
  cause e he := by
    cases he
    exact .fault (h.fault cause rfl)
  concluded := nofun

/-- An execution with an outcome is over once the outcome has been checked. -/
theorem bodySpec_of_ok {outcome : Outcome}
    (h : Executed db r.compiled.query before said (.ok outcome)) :
    BodySpec db r before said
      ((checkSingular r.caller.singular r.compiled.query.returnsRows outcome).map
        fun _ => outcome) := by
  obtain ⟨hreply, hrows⟩ := h.answered outcome rfl
  refine ⟨h.statements, fun e he => ?_, fun o ho => ?_⟩
  · cases hc : checkSingular r.caller.singular r.compiled.query.returnsRows outcome with
    | ok u => rw [hc] at he; cases he
    | error e' =>
        rw [hc] at he
        cases he
        obtain ⟨hsingular, hreturns, hne, rfl⟩ := checkSingular_eq_error hc
        rw [Session.length_of_rows (hrows hreturns)] at hne ⊢
        exact .notSingular hreply hsingular hreturns hne
  · cases hc : checkSingular r.caller.singular r.compiled.query.returnsRows outcome with
    | error e => rw [hc] at ho; cases ho
    | ok u =>
        refine .intro hreply fun hsingular hreturns => ?_
        rw [← Session.length_of_rows (hrows hreturns)]
        exact checkSingular_eq_ok hc hsingular hreturns

theorem body_meets (settings : Session.Settings) (r : Ready) (db : Database) :
    (bodyOfTransaction settings r db).Meets (BodySpec db r) := by
  have hexecute : ((Session.execute db r.compiled.query settings).mapError Error.session).Meets
      fun before said s => ∃ t, s = t.mapError Error.session ∧
        Executed db r.compiled.query before said t :=
    (Session.execute_meets db r.compiled.query settings).mapError fun _ _ t h => ⟨t, rfl, h⟩
  have hcheck : ∀ outcome before, (Conversation.ofExcept (checkSingular r.caller.singular
      r.compiled.query.returnsRows outcome) >>= fun _ => pure outcome) before =
        ((checkSingular r.caller.singular r.compiled.query.returnsRows outcome).map
          fun _ => outcome, before) := by
    intro outcome before
    cases checkSingular r.caller.singular r.compiled.query.returnsRows outcome <;> rfl
  refine hexecute.bind_silent hcheck ?_ ?_
  · rintro before said e ⟨_ | _, he, h⟩ <;> cases he
    exact bodySpec_of_error h
  · rintro before said outcome ⟨_ | _, ho, h⟩ <;> cases ho
    exact bodySpec_of_ok h

theorem Concluded.append (h : Concluded db r (before ++ front) back) :
    Concluded db r before (front ++ back) := by
  cases h with
  | intro hreply hsingular =>
      rw [← List.append_assoc]
      exact .intro (by rwa [← List.append_assoc]) hsingular

theorem Cause.append (h : Cause db r (before ++ front) back e) :
    Cause db r before (front ++ back) e := by
  cases h with
  | fault h => exact .fault h.append
  | notSingular hreply hsingular hreturns hrows =>
      rw [← List.append_assoc]
      exact .notSingular (by rwa [← List.append_assoc]) hsingular hreturns hrows

/-! ## Courses of a transaction -/

/-- The exchange does not end the transaction. -/
def KeepsOpen (x : Exchange) : Prop :=
  x.command ≠ .commit ∧ x.command ≠ .rollback

theorem keepsOpen_of_isStatement {x : Exchange} (h : x.command.IsStatement) : KeepsOpen x := by
  constructor <;>
    · intro hx
      rw [hx] at h
      exact h

theorem keepsOpen_of_mem_accepted {settings : Session.Settings} {claims : Claims}
    {commands : List Command} (h : ∀ c ∈ commands, c ∈ setup settings claims) :
    ∀ x ∈ accepted ([.connect, .begin] ++ commands), KeepsOpen x := by
  intro x hx
  rw [accepted_append, List.mem_append] at hx
  rcases hx with hx | hx
  · simp only [accepted_cons, accepted_nil, List.mem_cons, List.not_mem_nil, or_false] at hx
    rcases hx with rfl | rfl <;> simp [KeepsOpen]
  · obtain ⟨c, hc, rfl⟩ := List.mem_map.mp hx
    exact keepsOpen_of_isStatement (Session.isStatement_of_mem_setup (h c hc))

/-- How the transaction of a request can go: it does not begin, it is rolled back, its commit fails,
or it is committed. -/
inductive Course (pool : Option Database) (r : Ready) (before : History) :
    Except Error Outcome → History → Prop where
  | unbegun {e : Error} {said : History}
      (h : ∀ x ∈ said, x.command ≠ .commit ∧ x ≠ ⟨.begin, none⟩) :
      Course pool r before (.error e) said
  | abandoned {db : Database} {e : Error} {front back : History} (hpool : pool = some db)
      (hfront : ∀ x ∈ front, KeepsOpen x) (hback : RolledBack back)
      (hcause : Cause db r before front e) :
      Course pool r before (.error e) (front ++ back)
  | uncommitted {db : Database} {f : Failure} {front : History} (g : Option Failure)
      (hpool : pool = some db) (hfront : ∀ x ∈ front, KeepsOpen x)
      (hconcluded : Concluded db r before front) :
      Course pool r before (.error (.session (.database f)))
        (front ++ [⟨.commit, some f⟩, ⟨.rollback, g⟩])
  | committed {db : Database} {outcome : Outcome} {front : History} (hpool : pool = some db)
      (hfront : ∀ x ∈ front, KeepsOpen x) (hconcluded : Concluded db r before front) :
      Course pool r before (.ok outcome) (front ++ [⟨.commit, none⟩])

/-- The response to a request that was executed, with a result or without one. -/
def responseTo (method : Method) (r : Ready) : Except Error Outcome → Response
  | .ok outcome => respond method r outcome
  | .error e => .error e

section Course

variable {pool : Option Database} {outcome : Except Error Outcome}

theorem not_mem_of_keepsOpen (h : ∀ x ∈ front, KeepsOpen x) (f : Option Failure) :
    (⟨.commit, f⟩ : Exchange) ∉ front :=
  fun hmem => (h _ hmem).1 rfl

theorem not_mem_abandoned (hfront : ∀ x ∈ front, KeepsOpen x) (hback : RolledBack back)
    (f : Option Failure) : (⟨.commit, f⟩ : Exchange) ∉ front ++ back := by
  rw [List.mem_append, not_or]
  refine ⟨not_mem_of_keepsOpen hfront f, fun hmem => ?_⟩
  cases hback.command_eq hmem

theorem Course.isSuccess_iff (h : Course pool r before outcome said) (method : Method) :
    (responseTo method r outcome).isSuccess = true ↔ (⟨.commit, none⟩ : Exchange) ∈ said := by
  cases h with
  | unbegun h =>
      simp only [responseTo, isSuccess_error, Bool.false_eq_true, false_iff]
      exact fun hmem => (h _ hmem).1 rfl
  | abandoned _ hfront hback _ =>
      simp only [responseTo, isSuccess_error, Bool.false_eq_true, false_iff]
      exact not_mem_abandoned hfront hback none
  | uncommitted g _ hfront _ =>
      simp only [responseTo, isSuccess_error, Bool.false_eq_true, false_iff]
      simpa using not_mem_of_keepsOpen hfront none
  | committed _ _ _ =>
      simp only [responseTo, isSuccess_respond, true_iff]
      simp

/-- Every commit stands behind the conclusion of the body, alone of its kind, and nothing follows it
if it succeeded. -/
theorem Course.of_commit {f : Option Failure} (h : Course pool r before outcome said)
    (hsaid : said = front ++ ⟨.commit, f⟩ :: back) :
    (∀ x ∈ front ++ back, x.command ≠ .commit) ∧ (f = none → back = []) ∧
      ∃ db, pool = some db ∧ Concluded db r before front := by
  have hmem : (⟨.commit, f⟩ : Exchange) ∈ said := by
    rw [hsaid]
    exact List.mem_append_right _ List.mem_cons_self
  cases h with
  | unbegun h => exact absurd rfl (h _ hmem).1
  | abandoned _ hfront hback _ => exact absurd hmem (not_mem_abandoned hfront hback f)
  | uncommitted g hpool hfront hconcluded =>
      obtain ⟨rfl, hf, rfl⟩ := (List.append_cons_inj_of_notMem
        (not_mem_of_keepsOpen hfront f) (by simp)).mp hsaid
      cases hf
      refine ⟨fun x hx => ?_, nofun, _, hpool, hconcluded⟩
      rcases List.mem_append.mp hx with hx | hx
      · exact (hfront x hx).1
      · rw [List.mem_singleton.mp hx]
        nofun
  | committed hpool hfront hconcluded =>
      obtain ⟨rfl, hf, rfl⟩ := (List.append_cons_inj_of_notMem
        (not_mem_of_keepsOpen hfront f) (by simp)).mp hsaid
      refine ⟨fun x hx => ?_, fun _ => rfl, _, hpool, hconcluded⟩
      rw [List.append_nil] at hx
      exact (hfront x hx).1

/-- A failure that is none of the database comes before any commit. -/
theorem Course.not_commit (h : Course pool r before (.error e) said)
    (he : ∀ f, e ≠ .session (.database f)) : ∀ x ∈ said, x.command ≠ .commit := by
  cases h with
  | unbegun h => exact fun x hx => (h x hx).1
  | abandoned _ hfront hback _ =>
      intro x hx
      rcases List.mem_append.mp hx with hx | hx
      · exact (hfront x hx).1
      · rw [hback.command_eq hx]
        nofun
  | uncommitted => exact absurd rfl (he _)

theorem Course.of_begun (h : Course pool r before outcome said)
    (hbegun : (⟨.begin, none⟩ : Exchange) ∈ said) (hcommit : ∀ x ∈ said, x.command ≠ .commit) :
    ∃ db front back e, pool = some db ∧ said = front ++ back ∧ (∀ x ∈ front, KeepsOpen x) ∧
      RolledBack back ∧ Cause db r before front e ∧ outcome = .error e := by
  cases h with
  | unbegun h => exact absurd rfl (h _ hbegun).2
  | abandoned hpool hfront hback hcause =>
      exact ⟨_, _, _, _, hpool, rfl, hfront, hback, hcause, rfl⟩
  | uncommitted g _ _ _ =>
      exact absurd rfl (hcommit ⟨.commit, _⟩ (List.mem_append_right _ List.mem_cons_self))
  | committed _ _ _ =>
      exact absurd rfl (hcommit ⟨.commit, _⟩ (List.mem_append_right _ List.mem_cons_self))

end Course

/-- A run adds exchanges that make up a course. -/
def Courses (pool : Option Database) (r : Ready) (before : History)
    (run : Except Error Outcome × History) : Prop :=
  ∃ said, run.2 = before ++ said ∧ Course pool r before run.1 said

theorem courses_of_finished {pool : Option Database} {outcome : Except Error Outcome}
    {run : Except Error Outcome × History} (hpool : pool = some db)
    (hfront : ∀ x ∈ front, KeepsOpen x)
    (hcause : ∀ e, outcome = .error e → Cause db r before front e)
    (hconcluded : ∀ o, outcome = .ok o → Concluded db r before front)
    (h : Session.Finished .session db outcome (before ++ front) run) :
    Courses pool r before run := by
  cases h with
  | committed _ =>
      exact ⟨_, List.append_assoc .., .committed hpool hfront (hconcluded _ rfl)⟩
  | uncommitted g _ =>
      exact ⟨_, List.append_assoc .., .uncommitted g hpool hfront (hconcluded _ rfl)⟩
  | failed hback =>
      exact ⟨_, List.append_assoc .., .abandoned hpool hfront hback (hcause _ rfl)⟩

theorem courses_of_accepts {settings : Session.Settings}
    (hrole : Sql.Identifier.isValid settings.role = true)
    (h : db.Accepts before (opening settings r.caller.claims)) :
    Courses (some db) r before
      (runScoped .session (some db) settings r.caller.claims (bodyOfTransaction settings r)
        before) := by
  obtain ⟨said, hsaid, hbody⟩ :=
    body_meets settings r db (before ++ accepted (opening settings r.caller.claims))
  rw [Session.runScoped_of_accepts hrole h, hsaid, List.append_assoc]
  refine courses_of_finished rfl ?_ ?_ ?_ (Session.finished ..)
  · intro x hx
    rcases List.mem_append.mp hx with hx | hx
    · exact keepsOpen_of_mem_accepted (fun _ h => h) x hx
    · exact keepsOpen_of_isStatement (hbody.statements x hx)
  · exact fun e he => (hbody.cause e he).append
  · exact fun o ho => (hbody.concluded o ho).append

theorem courses_of_not_established {settings : Session.Settings} {commands rest : List Command}
    {c : Command} {f : Failure} (hrole : Sql.Identifier.isValid settings.role = true)
    (hsetup : setup settings r.caller.claims = commands ++ c :: rest)
    (hcommands : db.Accepts before ([.connect, .begin] ++ commands))
    (h : db.respond (before ++ accepted ([.connect, .begin] ++ commands)) c = .error f) :
    Courses (some db) r before
      (runScoped .session (some db) settings r.caller.claims (bodyOfTransaction settings r)
        before) := by
  rw [Session.runScoped_of_not_established hrole hsetup hcommands h, List.append_assoc]
  refine courses_of_finished rfl ?_ ?_ (fun o ho => by cases ho) (Session.finished ..)
  · intro x hx
    rcases List.mem_append.mp hx with hx | hx
    · have hmem : ∀ d ∈ commands, d ∈ setup settings r.caller.claims := by
        intro d hd
        rw [hsetup]
        exact List.mem_append_left _ hd
      exact keepsOpen_of_mem_accepted hmem x hx
    · have hmem : c ∈ setup settings r.caller.claims := by
        rw [hsetup]
        exact List.mem_append_right _ List.mem_cons_self
      rw [List.mem_singleton.mp hx]
      exact keepsOpen_of_isStatement (Session.isStatement_of_mem_setup hmem)
  · intro e he
    cases he
    exact .fault (.reported h)

theorem courses_perform (session : Config.Session) (pool : Option Database) (r : Ready)
    (before : History) : Courses pool r before (perform session pool r before) := by
  rw [perform_eq]
  generalize Session.Settings.forCaller session r.caller.claims = settings
  cases hrole : Sql.Identifier.isValid settings.role with
  | false =>
      rw [Session.runScoped_of_not_isValid pool hrole]
      exact ⟨[], (List.append_nil before).symm, .unbegun (by simp)⟩
  | true =>
      cases pool with
      | none =>
          rw [Session.runScoped_none hrole]
          exact ⟨[], (List.append_nil before).symm, .unbegun (by simp)⟩
      | some db =>
          rcases Session.opening_cases db settings r.caller.claims before with
            hall | ⟨f, hf⟩ | ⟨f, hconnect, hf⟩ | ⟨commands, c, rest, f, hsetup, hcommands, hf⟩
          · exact courses_of_accepts hrole hall
          · rw [Session.runScoped_of_not_connected hrole hf]
            exact ⟨_, rfl, .unbegun (by simp)⟩
          · rw [Session.runScoped_of_not_begun hrole hconnect hf, List.append_assoc]
            exact ⟨_, rfl, .unbegun (by simp)⟩
          · exact courses_of_not_established hrole hsetup hcommands hf

/-! ## Requests for a table -/

/-- The message asks for what the request says, once it is read and compiled. -/
def Asks (g : Gateway) (m : Message) (method : Method) (r : Ready) : Prop :=
  ∃ segment table, Route.ofPath? (splitTarget m.target).1 = some (.table segment) ∧
    methodOf? m = some method ∧ Text.Percent.pathText? segment = some table ∧
    ready g method table (Text.Percent.formPairs (splitTarget m.target).2) m = .ok r

theorem writtenBody?_eq_bodyOf? {method : Method} (h : method = .post ∨ method = .patch)
    (text : String) : writtenBody? method text = bodyOf? text := by
  rcases h with rfl | rfl <;> rfl

/-- The message comes from a caller that names its project, and is read as the request. -/
structure Reads (m : Message) (caller : Caller) (request : Request) : Prop where
  caller_eq : Caller.ofHeaders? m.headers m.peer = some caller
  table_eq : ∃ segment, Route.ofPath? (splitTarget m.target).1 = some (.table segment) ∧
    Text.Percent.pathText? segment = some request.table
  method_eq : methodOf? m = some request.method
  query_eq : request.query = Text.Percent.formPairs (splitTarget m.target).2
  headers_eq : request.headers = requestHeaders m.headers
  body_eq : writtenBody? request.method m.body = some request.body

theorem ready_of_reads {m : Message} {caller : Caller} {request : Request}
    (h : Reads m caller request) (g : Gateway) :
    ready g request.method request.table (Text.Percent.formPairs (splitTarget m.target).2) m =
      ((Query.compile g.compiler request caller.governance).mapError .query).map
        (Ready.mk caller) := by
  rw [ready, h.caller_eq, h.body_eq, ← h.query_eq, ← h.headers_eq]
  rfl

theorem exists_reads_of_ready {g : Gateway} {m : Message} {method : Method}
    {segment table : String} {query : List (String × String)}
    (hroute : Route.ofPath? (splitTarget m.target).1 = some (.table segment))
    (hmethod : methodOf? m = some method) (htable : Text.Percent.pathText? segment = some table)
    (hquery : query = Text.Percent.formPairs (splitTarget m.target).2)
    (h : ready g method table query m = .ok r) :
    ∃ request, Reads m r.caller request ∧
      Query.compile g.compiler request r.caller.governance = .ok r.compiled := by
  rw [ready] at h
  cases hcaller : Caller.ofHeaders? m.headers m.peer with
  | none =>
      rw [hcaller] at h
      cases h
  | some caller =>
      cases hbody : writtenBody? method m.body with
      | none =>
          rw [hcaller, hbody] at h
          cases h
      | some body =>
          rw [hcaller, hbody] at h
          obtain ⟨compiled, hcompiled, h⟩ := bind_eq_ok.mp h
          cases h
          have hreads : Reads m caller ⟨method, table, query, body, requestHeaders m.headers⟩ :=
            ⟨hcaller, ⟨segment, hroute, htable⟩, hmethod, hquery,
              Eq.refl (requestHeaders m.headers), hbody⟩
          exact ⟨_, hreads, mapError_eq_ok.mp hcompiled⟩

/-- A response as the message asks for it, with or without its body. -/
def shown (m : Message) (response : Response) : Response :=
  if isHead m then response.headersOnly else response

theorem isSuccess_shown (m : Message) (response : Response) :
    (shown m response).isSuccess = response.isSuccess := by
  unfold shown
  split <;> rfl

theorem handle_eq (g : Gateway) (m : Message) (histories : Histories) :
    handle g m histories =
      (⟨shown m (route g m histories).1.response, (route g m histories).1.incidents⟩,
        (route g m histories).2) := by
  unfold handle shown
  generalize route g m histories = run
  cases isHead m <;> rfl

theorem handleTable_of_error {g : Gateway} {method : Method} {table : String}
    {query : List (String × String)} {m : Message}
    (h : ready g method table query m = .error e) (histories : Histories) :
    handleTable g method table query m histories = (⟨.error e, []⟩, histories) := by
  rw [handleTable, h]

theorem handleTable_of_ok {g : Gateway} {method : Method} {table : String}
    {query : List (String × String)} {m : Message}
    (h : ready g method table query m = .ok r) (histories : Histories) :
    handleTable g method table query m histories =
      (⟨responseTo method r (perform g.session (g.databases r.caller.projectId) r
          (histories r.caller.projectId)).1, r.compiled.incidents⟩,
        fun p => if p = r.caller.projectId then
            (perform g.session (g.databases r.caller.projectId) r
              (histories r.caller.projectId)).2
          else histories p) := by
  rw [handleTable, h]
  rfl

/-- A request for a table is refused before anything is said, or it is performed. -/
inductive Handled (g : Gateway) (m : Message) (histories : Histories) :
    Answer × Histories → Prop where
  | refused {response : Response} (h : response.isSuccess = false) :
      Handled g m histories (⟨shown m response, []⟩, histories)
  | performed {method : Method} {r : Ready} {outcome : Except Error Outcome} {after : History}
      (hasks : Asks g m method r)
      (hperform : perform g.session (g.databases r.caller.projectId) r
        (histories r.caller.projectId) = (outcome, after)) :
      Handled g m histories
        (⟨shown m (responseTo method r outcome), r.compiled.incidents⟩,
        fun p => if p = r.caller.projectId then after else histories p)

theorem route_eq {g : Gateway} {m : Message} {segment : String}
    (hroute : Route.ofPath? (splitTarget m.target).1 = some (.table segment))
    (histories : Histories) :
    route g m histories =
      match methodOf? m with
      | none => (⟨.bare 405, []⟩, histories)
      | some method =>
          match Text.Percent.pathText? segment with
          | none => (⟨.bare 400, []⟩, histories)
          | some table =>
              handleTable g method table (Text.Percent.formPairs (splitTarget m.target).2) m
                histories := by
  unfold route
  generalize methodOf? m = method
  generalize splitTarget m.target = target at hroute ⊢
  obtain ⟨path, query⟩ := target
  simp only at hroute ⊢
  rw [hroute]
  cases method <;> rfl

theorem route_eq_handleTable {g : Gateway} {m : Message} {segment table : String} {method : Method}
    (hroute : Route.ofPath? (splitTarget m.target).1 = some (.table segment))
    (hmethod : methodOf? m = some method) (htable : Text.Percent.pathText? segment = some table)
    (histories : Histories) :
    route g m histories =
      handleTable g method table (Text.Percent.formPairs (splitTarget m.target).2) m
        histories := by
  rw [route_eq hroute, hmethod]
  simp only [htable]

theorem route_table {g : Gateway} {m : Message} {segment : String}
    (hroute : Route.ofPath? (splitTarget m.target).1 = some (.table segment))
    (histories : Histories) :
    (∃ status, 400 ≤ status ∧ route g m histories = (⟨.bare status, []⟩, histories)) ∨
      ∃ method table, methodOf? m = some method ∧ Text.Percent.pathText? segment = some table ∧
        route g m histories =
          handleTable g method table (Text.Percent.formPairs (splitTarget m.target).2) m
            histories := by
  cases hmethod : methodOf? m with
  | none =>
      refine .inl ⟨405, by decide, ?_⟩
      rw [route_eq hroute, hmethod]
  | some method =>
      cases htable : Text.Percent.pathText? segment with
      | none =>
          refine .inl ⟨400, by decide, ?_⟩
          rw [route_eq hroute, hmethod]
          simp only [htable]
      | some table =>
          exact .inr ⟨method, table, rfl, rfl, route_eq_handleTable hroute hmethod htable histories⟩

theorem isSuccess_bare {status : Nat} (h : 400 ≤ status) :
    (Response.bare status).isSuccess = false := by
  have hnot : ¬status < 300 := by omega
  simp [Response.isSuccess, Response.bare, hnot]

theorem handled {g : Gateway} {m : Message} {segment : String}
    (hroute : Route.ofPath? (splitTarget m.target).1 = some (.table segment))
    (histories : Histories) : Handled g m histories (handle g m histories) := by
  rw [handle_eq]
  rcases route_table (g := g) hroute histories with
    ⟨status, hstatus, hrun⟩ | ⟨method, table, hmethod, htable, hrun⟩
  · rw [hrun]
    exact .refused (isSuccess_bare hstatus)
  · rw [hrun]
    cases hready : ready g method table
        (Text.Percent.formPairs (splitTarget m.target).2) m with
    | error e =>
        rw [handleTable_of_error hready]
        exact .refused (isSuccess_error e)
    | ok r =>
        rw [handleTable_of_ok hready]
        exact .performed ⟨segment, table, hroute, hmethod, htable, hready⟩ rfl

/-! ## Committed transactions -/

/-- What is said to the database of a project to answer a request, and the response. -/
structure Transactional (g : Gateway) (m : Message) (histories : Histories) (project : String)
    (said : History) (response : Response) : Prop where
  success_iff : response.isSuccess = true ↔ (⟨.commit, none⟩ : Exchange) ∈ said
  commit_once : ∀ front f back, said = front ++ ⟨.commit, f⟩ :: back →
    ∀ x ∈ front ++ back, x.command ≠ .commit
  commit_last : ∀ front back, said = front ++ ⟨.commit, none⟩ :: back → back = []
  commit_concluded : ∀ front f back, said = front ++ ⟨.commit, f⟩ :: back →
    ∃ method r db, Asks g m method r ∧ r.caller.projectId = project ∧
      g.databases project = some db ∧ Concluded db r (histories project) front
  rolled_back : (⟨.begin, none⟩ : Exchange) ∈ said → (∀ x ∈ said, x.command ≠ .commit) →
    ∃ method r db front back e, Asks g m method r ∧ r.caller.projectId = project ∧
      g.databases project = some db ∧ said = front ++ back ∧ (∀ x ∈ front, KeepsOpen x) ∧
      RolledBack back ∧ Cause db r (histories project) front e ∧ response = shown m (.error e)

theorem transactional_of_course {g : Gateway} {m : Message} {histories : Histories}
    {method : Method} {outcome : Except Error Outcome} (hasks : Asks g m method r)
    (h : Course (g.databases r.caller.projectId) r (histories r.caller.projectId) outcome said) :
    Transactional g m histories r.caller.projectId said
      (shown m (responseTo method r outcome)) where
  success_iff := by
    rw [isSuccess_shown]
    exact h.isSuccess_iff method
  commit_once _ _ _ hsaid := (h.of_commit hsaid).1
  commit_last _ _ hsaid := (h.of_commit hsaid).2.1 rfl
  commit_concluded _ _ _ hsaid := by
    obtain ⟨-, -, db, hpool, hconcluded⟩ := h.of_commit hsaid
    exact ⟨method, r, db, hasks, rfl, hpool, hconcluded⟩
  rolled_back hbegun hcommit := by
    obtain ⟨db, front, back, e, hpool, hsaid, hfront, hback, hcause, rfl⟩ :=
      h.of_begun hbegun hcommit
    exact ⟨method, r, db, front, back, e, hasks, rfl, hpool, hsaid, hfront, hback, hcause, rfl⟩

theorem transactional_of_refused (g : Gateway) (m : Message) (histories : Histories)
    (project : String) {response : Response} (h : response.isSuccess = false) :
    Transactional g m histories project [] (shown m response) where
  success_iff := by simp [isSuccess_shown, h]
  commit_once _ _ _ hsaid := by simp at hsaid
  commit_last _ _ hsaid := by simp at hsaid
  commit_concluded _ _ _ hsaid := by simp at hsaid
  rolled_back hbegun := by simp at hbegun

/-- A request for a table says something to one database at most, and it succeeds if and only if it
has committed a transaction there. -/
theorem handle_transactional {g : Gateway} {m : Message} {segment : String}
    (hroute : Route.ofPath? (splitTarget m.target).1 = some (.table segment))
    (histories : Histories) :
    ∃ project said,
      (handle g m histories).2 =
          (fun p => if p = project then histories p ++ said else histories p) ∧
        Transactional g m histories project said (handle g m histories).1.response := by
  have hhandled := handled (g := g) hroute histories
  generalize handle g m histories = run at hhandled ⊢
  cases hhandled with
  | refused h =>
      -- nothing is said to any project
      refine ⟨"", [], ?_, transactional_of_refused g m histories "" h⟩
      simp only [List.append_nil, ite_self]
  | @performed method r outcome after hasks hperform =>
      obtain ⟨said, hsaid, hcourse⟩ := courses_perform g.session (g.databases r.caller.projectId) r
        (histories r.caller.projectId)
      rw [hperform] at hsaid hcourse
      obtain rfl : after = histories r.caller.projectId ++ said := hsaid
      refine ⟨r.caller.projectId, said, ?_, transactional_of_course hasks hcourse⟩
      funext p
      simp only
      split
      case isTrue hp => rw [hp]
      case isFalse => rfl

/-- Two rows are found, and the first attempt to roll back is refused. -/
def twoRows : Database :=
  Script.database
    { rules :=
        [⟨"WITH", [], none, "row", [.json "\x7b\"id\":1\x7d", .json "\x7b\"id\":2\x7d"], 2, none⟩,
          ⟨"ROLLBACK", [], none, "row", [], 0,
            some ⟨⟨"57014", "canceled", none, none, none⟩, .execute, some 1⟩⟩]
      connectError := none }

/-- The database of the one project `p`. -/
def twoRowsOnly : Gateway where
  compiler := ⟨none, none⟩
  session := {}
  databases := fun project => if project = "p" then some twoRows else none

def nothingSaid : Histories := fun _ => []

/-- An update that is to answer with a single object. -/
def singleUpdate : Message where
  method := "PATCH"
  target := "/rest/v1/tasks?id=gt.0"
  headers := [("x-project-id", "p"), ("accept", "application/vnd.pgrst.object+json"),
    ("prefer", "return=representation")]
  body := "\x7b\"rank\":1\x7d"
  peer := none

theorem handle_transactional_singleUpdate :
    Route.ofPath? (splitTarget singleUpdate.target).1 = some (.table "tasks") ∧
      (handle twoRowsOnly singleUpdate nothingSaid).1.response.status = 406 ∧
      ∃ project said,
        (handle twoRowsOnly singleUpdate nothingSaid).2 =
            (fun p => if p = project then nothingSaid p ++ said else nothingSaid p) ∧
          Transactional twoRowsOnly singleUpdate nothingSaid project said
            (handle twoRowsOnly singleUpdate nothingSaid).1.response := by
  have hroute : Route.ofPath? (splitTarget singleUpdate.target).1 = some (.table "tasks") := rfl
  exact ⟨hroute, by decide +kernel, handle_transactional hroute nothingSaid⟩

end TableGateway.Http
