import TableGateway.Proofs.Http.SingleObject
import TableGateway.Proofs.Query.Paging

/-! # Content ranges of responses

The content range of a response counts the rows in its body from the offset of the statement that
found them. Its total is what the database counted. -/

namespace TableGateway.Http

open Database
open Request (ClosedRange Page Reports countBits lastPosition totalText)
open Session (Counting ExecutionRun Outcome StatementRun Totalled mainSql opening outcomeOf)

variable {g : Gateway} {m : Message} {histories : Histories} {caller : Caller} {request : Request}
  {compiled : Query.Compiled} {db : Database} {r : Ready} {before said front back rest : History}
  {outcome : Outcome} {rows : List Json} {total : Option Nat} {sql : String} {reply : Reply}

/-! ## Replies -/

/-- The statement was executed, the database replied, and the rest was said behind it. -/
inductive Replied (db : Database) (sql : String) (before said : History) (reply : Reply)
    (rest : History) : Prop where
  | intro {front : History} {arguments : List Parameter}
      (hsaid : said = front ++ ⟨.execute sql arguments, none⟩ :: rest)
      (hreply : db.respond (before ++ front) (.execute sql arguments) = .ok reply) :
      Replied db sql before said reply rest

theorem Replied.append (h : Replied db sql (before ++ front) said reply rest) (back : History) :
    Replied db sql before (front ++ said ++ back) reply (rest ++ back) := by
  obtain @⟨middle, arguments, hsaid, hreply⟩ := h
  have hwhole : front ++ said ++ back =
      (front ++ middle) ++ ⟨.execute sql arguments, none⟩ :: (rest ++ back) := by
    rw [hsaid]
    simp only [List.append_assoc, List.cons_append]
  rw [List.append_assoc] at hreply
  exact .intro hwhole hreply

theorem replied_of_statement {values : List Sql.Value}
    (h : StatementRun db sql values before said (.ok reply)) :
    Replied db sql before said reply [] := by
  cases h with
  | @executed _ arguments _ _ _ hreply =>
      have hsaid : ([⟨.prepare sql, none⟩, ⟨.execute sql arguments, none⟩] : History) =
          [⟨.prepare sql, none⟩] ++ [⟨.execute sql arguments, none⟩] := rfl
      exact .intro hsaid hreply

/-! ## Totals -/

/-- Where a total comes from: nothing is counted, the count comes to nothing, or the database
replies to it with a number. -/
inductive TotalSaid (db : Database) (query : Query) (before said : History) :
    Option Nat → Prop where
  | uncounted (hcount : query.countText? = none) : TotalSaid db query before said none
  | unknown {sql : String} {front counted back : History} {e : Session.Error}
      (hcount : query.countText? = some sql) (hsaid : said = front ++ counted ++ back)
      (hcounting : Counting db sql query.parameters (before ++ front) counted (.error e)) :
      TotalSaid db query before said none
  | known {sql : String} {reply : Reply} {rest : History} {n : Int}
      (hcount : query.countText? = some sql) (hreplied : Replied db sql before said reply rest)
      (hscalar : Session.scalar reply = .ok n) : TotalSaid db query before said (some n.toNat)

theorem TotalSaid.append {query : Query} (h : TotalSaid db query (before ++ front) said total)
    (back : History) : TotalSaid db query before (front ++ said ++ back) total := by
  cases h with
  | uncounted hcount => exact .uncounted hcount
  | @unknown _ front' counted back' _ hcount hsaid hcounting =>
      have hwhole : front ++ said ++ back = (front ++ front') ++ counted ++ (back' ++ back) := by
        rw [hsaid]
        simp only [List.append_assoc]
      rw [List.append_assoc] at hcounting
      exact .unknown hcount hwhole hcounting
  | known hcount hreplied hscalar => exact .known hcount (hreplied.append back) hscalar

theorem totalSaid_of_counting {query : Query} {result : Except Session.Error Int}
    (hcount : query.countText? = some sql)
    (h : Counting db sql query.parameters before said result) :
    TotalSaid db query before said (Session.tally result) := by
  cases result with
  | error e =>
      have hsaid : said = [] ++ said ++ [] := (List.append_nil said).symm
      rw [← List.append_nil before] at h
      exact .unknown hcount hsaid h
  | ok n =>
      have htally : Session.tally (.ok n) = some n.toNat := congrArg some (by omega)
      rw [htally]
      generalize hresult : (Except.ok n : Except Session.Error Int) = result at h
      cases h with
      | @intro reply hrun =>
          cases reply with
          | error e => cases hresult
          | ok reply => exact .known hcount (replied_of_statement hrun) hresult.symm

theorem totalSaid_of_totalled {query : Query} {settings : Session.Settings}
    (h : Totalled db query settings before said (.ok total)) :
    TotalSaid db query before said total := by
  cases h with
  | uncounted hcount => exact .uncounted hcount
  | settled hcount _ hcounting _ _ => exact (totalSaid_of_counting hcount hcounting).append _

/-! ## Outcomes -/

/-- The database returned the rows of the outcome, and said its total. -/
structure Accounted (db : Database) (query : Query) (before said : History) (outcome : Outcome) :
    Prop where
  returned : ∃ rest, Returned db query before said outcome.rows rest
  totalSaid : TotalSaid db query before said outcome.total

theorem returned_of_replied {query : Query} {outcome : Outcome}
    (hreturns : query.returnsRows = true)
    (h : Replied db (mainSql query) before said reply rest)
    (houtcome : outcomeOf query total reply = .ok outcome) :
    Returned db query before said outcome.rows rest := by
  obtain ⟨hsaid, hreply⟩ := h
  rw [outcomeOf, if_pos hreturns, map_eq_ok] at houtcome
  obtain ⟨rows, hrows, rfl⟩ := houtcome
  exact .intro hsaid hreply hrows

theorem accounted_of_run {query : Query} {settings : Session.Settings}
    (hreturns : query.returnsRows = true)
    (h : ExecutionRun db query settings (before ++ front) said (.ok outcome)) (back : History) :
    Accounted db query before (front ++ said ++ back) outcome := by
  generalize hresult : (Except.ok outcome : Except Session.Error Outcome) = result at h
  cases h with
  | stopped => cases hresult
  | @reached counted main total reply htotal _ hmain =>
      cases reply with
      | error e => cases hresult
      | ok reply =>
          have houtcome : outcomeOf query total reply = .ok outcome := hresult.symm
          have hreplied := replied_of_statement hmain
          rw [List.append_assoc before] at hreplied
          rw [← List.append_assoc front]
          constructor
          · exact ⟨_, returned_of_replied hreturns (hreplied.append back) houtcome⟩
          · rw [List.append_assoc _ main, Session.total_of_outcomeOf houtcome]
            exact (totalSaid_of_totalled htotal).append _

theorem checked_eq_ok {outcome' : Outcome} (hreturns : r.compiled.query.returnsRows = true)
    (h : checked r outcome' = .ok outcome) :
    outcome' = outcome ∧ (r.caller.singular = true → outcome.rows.length = 1) := by
  obtain ⟨u, hcheck, rfl⟩ := map_eq_ok.mp h
  exact ⟨rfl, fun hsingular => checkSingular_eq_ok hcheck hsingular hreturns⟩

/-- No command of an opening ends the transaction. -/
theorem keepsOpen_of_mem_opening {settings : Session.Settings} {claims : Claims} {x : Exchange}
    (h : x.command ∈ opening settings claims) : KeepsOpen x := by
  rcases List.mem_append.mp h with h | h
  · simp only [List.mem_cons, List.not_mem_nil, or_false] at h
    rcases h with h | h <;> simp [KeepsOpen, h]
  · exact keepsOpen_of_isStatement (Session.isStatement_of_mem_setup h)

/-- An answer that succeeds is the checked outcome of an execution, of which the database gave the
rows and the total. -/
theorem perform_accounted {session : Config.Session} {pool : Option Database}
    (hreturns : r.compiled.query.returnsRows = true)
    (h : (perform session pool r before).1 = .ok outcome) :
    ∃ db said, pool = some db ∧ (perform session pool r before).2 = before ++ said ∧
      Accounted db r.compiled.query before said outcome ∧
      (r.caller.singular = true → outcome.rows.length = 1) := by
  obtain ⟨said, hsaid, hcourse⟩ := courses_perform session pool r before
  have hcommit : (⟨.commit, none⟩ : Exchange) ∈ said := by
    rw [← hcourse.isSuccess_iff .get, h]
    exact isSuccess_respond .get r outcome
  obtain ⟨said', hsaid', hran⟩ := Session.runScoped_ran Error.session pool
    (.forCaller session r.caller.claims) r.caller.claims
    (Session.executeChecked_meets Error.session r.compiled.query
      (.forCaller session r.caller.claims) (checked r)) before
  rw [← bodyOfTransaction_eq, ← perform_eq] at hsaid' hran
  obtain rfl : said = said' := List.append_cancel_left (hsaid.symm.trans hsaid')
  rw [h] at hran
  cases hran with
  | unopened hopened hended =>
      rcases List.mem_append.mp hcommit with hmem | hmem
      · exact absurd rfl (keepsOpen_of_mem_opening (hopened _ hmem)).1
      · cases hended _ hmem
  | opened hpool hpost hfinished _ =>
      obtain ⟨result, hrun, rfl⟩ := hpost
      obtain ⟨executed, hresult, hchecked⟩ := bind_eq_ok.mp hfinished.eq_ok
      rw [mapError_eq_ok.mp hresult] at hrun
      obtain ⟨rfl, hone⟩ := checked_eq_ok hreturns hchecked
      exact ⟨_, _, hpool, hsaid, accounted_of_run hreturns hrun _, hone⟩

/-! ## Responses -/

theorem contentRange_shown (m : Message) (response : Response) :
    (shown m response).contentRange = response.contentRange := by
  unfold shown
  split <;> rfl

theorem contentRange_respond {page : Page} (hreturns : r.compiled.query.returnsRows = true)
    (hpage : r.compiled.page = some page) (method : Request.Method) (outcome : Outcome) :
    (respond method r outcome).contentRange =
      some (page.contentRange outcome.rows.length outcome.total) := by
  rw [respond, if_pos hreturns, hpage]
  rfl

/-- What the response to a read says of the rows that were found on the page. -/
structure RowsReported (m : Message) (page : Page) (rows : List Json) (total : Option Nat)
    (response : Response) : Prop where
  status : response.status = 200
  all : ¬AsksForOne m.headers →
    response.body = some (if isHead m then "" else (Json.array rows).text)
  single : AsksForOne m.headers → ∃ row, rows = [row] ∧
    response.body = some (if isHead m then "" else row.text)
  empty : rows = [] → response.contentRange = some ("*/" ++ totalText total)
  filled : rows ≠ [] → ∃ text last, response.contentRange = some text ∧
    Reports text page.offset last total ∧ page.offset ≤ last ∧
    (page.offset + (rows.length - 1) < twoTo countBits → last - page.offset + 1 = rows.length)

theorem rowsReported_respond {page : Page} (hreturns : r.compiled.query.returnsRows = true)
    (hpage : r.compiled.page = some page) (hoffset : page.offset < twoTo countBits)
    (hcaller : Caller.ofHeaders? m.headers m.peer = some r.caller)
    (hone : r.caller.singular = true → outcome.rows.length = 1) :
    RowsReported m page outcome.rows outcome.total (shown m (respond .get r outcome)) := by
  have hasks := singular_iff hcaller
  obtain ⟨hstatus, hbody⟩ := respond_of_returnsRows hreturns .get outcome
  have hrange := (contentRange_shown m _).trans (contentRange_respond hreturns hpage .get outcome)
  refine ⟨(status_shown m _).trans hstatus, fun hall => ?_, fun hsingle => ?_, fun hnil => ?_,
    fun hrows => ?_⟩
  · rw [if_neg (mt hasks.mp hall)] at hbody
    exact body_shown m hbody
  · obtain ⟨row, hrow⟩ := List.length_eq_one_iff.mp (hone (hasks.mpr hsingle))
    rw [if_pos (hasks.mpr hsingle), hrow] at hbody
    exact ⟨row, hrow, body_shown m hbody⟩
  · rw [hrange, hnil, List.length_nil, Page.contentRange_zero]
  · have hlength : outcome.rows.length ≠ 0 := mt List.length_eq_zero_iff.mp hrows
    refine ⟨_, _, hrange, page.contentRange_reports hlength outcome.total,
      Request.le_lastPosition hoffset, fun hfits => ?_⟩
    rw [Request.lastPosition_of_lt hfits]
    omega

/-! ## Reads that are answered -/

/-- How a read came to be answered: the statement of its request, which ends with the page, was
executed in the database of its project and returned the rows, and the count said the total. -/
structure ReadAnswered (g : Gateway) (m : Message) (histories : Histories) (caller : Caller)
    (request : Request) (compiled : Query.Compiled) (db : Database) (page : Page)
    (said rest : History) (rows : List Json) (total : Option Nat) : Prop where
  reads : Reads m caller request
  compiles : Query.compile g.compiler request caller.governance = .ok compiled
  paged : Query.ReadsPage g.compiler request compiled page
  counts : ∃ target, Query.target g.compiler request = .ok target ∧
    compiled.query.count =
      if request.headers.prefer.countExact then
        some (.fixed "SELECT COUNT(*) FROM " ::
          (target ++ Query.whereFragments (Query.conditions 1 request.filters)))
      else none
  pool : g.databases caller.projectId = some db
  said_eq : (handle g m histories).2 caller.projectId = histories caller.projectId ++ said
  statement_eq : mainSql compiled.query = Session.jsonRowsSql compiled.query.text
  returned : Returned db compiled.query (histories caller.projectId) said rows rest
  totalSaid : TotalSaid db compiled.query (histories caller.projectId) said total
  reported : RowsReported m page rows total (handle g m histories).1.response

/-- A request for a table that succeeds was read and compiled. -/
theorem exists_reads_of_isSuccess {segment : String}
    (hroute : Route.ofPath? (splitTarget m.target).1 = some (.table segment))
    (hsuccess : (handle g m histories).1.response.isSuccess = true) :
    ∃ caller request compiled, Reads m caller request ∧
      Query.compile g.compiler request caller.governance = .ok compiled := by
  have hhandled := handled (g := g) hroute histories
  generalize handle g m histories = run at hhandled hsuccess
  cases hhandled with
  | refused h =>
      rw [isSuccess_shown, h] at hsuccess
      cases hsuccess
  | performed hasks _ =>
      obtain ⟨segment, table, hroute, hmethod, htable, hready⟩ := hasks
      obtain ⟨request, hreads, hcompiled⟩ := exists_reads_of_ready hroute hmethod htable rfl hready
      exact ⟨_, request, _, hreads, hcompiled⟩

theorem exists_readAnswered {segment : String}
    (hroute : Route.ofPath? (splitTarget m.target).1 = some (.table segment))
    (hget : methodOf? m = some .get)
    (hsuccess : (handle g m histories).1.response.isSuccess = true) :
    ∃ caller request compiled db page said rest rows total,
      ReadAnswered g m histories caller request compiled db page said rest rows total := by
  obtain ⟨caller, request, compiled, hreads, hcompiled⟩ :=
    exists_reads_of_isSuccess hroute hsuccess
  have hmethod : request.method = .get :=
    Option.some.inj (hreads.method_eq.symm.trans hget)
  obtain ⟨target, columns, hread⟩ := Query.compile_get hmethod hcompiled
  have hhandle := handle_of_reads hreads hcompiled histories
  rw [hhandle, isSuccess_shown, hmethod] at hsuccess
  generalize hresult : (perform g.session (g.databases caller.projectId) ⟨caller, compiled⟩
    (histories caller.projectId)).1 = result at hsuccess
  cases result with
  | error e =>
      rw [responseTo, isSuccess_error] at hsuccess
      cases hsuccess
  | ok outcome =>
      obtain ⟨db, said, hpool, hsaid, ⟨⟨rest, hreturned⟩, htotal⟩, hone⟩ :=
        perform_accounted hread.returnsRows_eq hresult
      have hpaged := hread.readsPage
      refine ⟨caller, request, compiled, db, _, said, rest, outcome.rows, outcome.total, hreads,
        hcompiled, hpaged, ⟨target, hread.target_eq, hread.count_eq⟩, hpool, ?_,
        Session.mainSql_of_returnsRows hread.returnsRows_eq, hreturned, htotal, ?_⟩
      · rw [hhandle]
        exact (if_pos rfl).trans hsaid
      · rw [hhandle, hmethod, hresult]
        exact rowsReported_respond hread.returnsRows_eq hpaged.announced hpaged.offset.lt
          hreads.caller_eq hone

/-! ## Exact content ranges -/

/-- A content range says from which position to which rows were found, as far as a word can say it,
and it keeps within the closed range that was asked for. An answered read says it of the rows that
its statement returned from its offset on, and of the total that was counted. -/
theorem contentRange_exact :
    (∀ (page : Page) (rows : Nat) (total : Option Nat), page.offset < twoTo countBits → rows ≠ 0 →
      Reports (page.contentRange rows total) page.offset (lastPosition page rows) total ∧
        page.offset ≤ lastPosition page rows ∧ lastPosition page rows < twoTo countBits) ∧
    (∀ (page : Page) (total : Option Nat), page.contentRange 0 total = "*/" ++ totalText total) ∧
    (∀ (header : String) (first last rows : Nat) (total : Option Nat),
      ClosedRange header first last → rows ≠ 0 → rows ≤ last - first + 1 →
      ∃ page finish, Page.ofRange? header = some page ∧
        Reports (page.contentRange rows total) first finish total ∧ first ≤ finish ∧
        finish ≤ last ∧ (rows = last - first + 1 → finish = last)) ∧
    ∀ (g : Gateway) (m : Message) (histories : Histories) (segment : String),
      Route.ofPath? (splitTarget m.target).1 = some (.table segment) → methodOf? m = some .get →
      (handle g m histories).1.response.isSuccess = true →
      ∃ caller request compiled db page said rest rows total,
        ReadAnswered g m histories caller request compiled db page said rest rows total :=
  ⟨fun page _ total hoffset hrows => ⟨page.contentRange_reports hrows total,
      Request.le_lastPosition hoffset, Request.lastPosition_lt page _⟩,
    Page.contentRange_zero,
    fun _ _ _ _ total h hrows hle => h.contentRange_reports hrows hle total,
    fun _ _ _ _ hroute hget hsuccess => exists_readAnswered hroute hget hsuccess⟩

/-- Forty tasks are counted, and two are found. -/
def fortyTasks : Database :=
  Script.database
    { rules :=
        [⟨"SELECT COUNT", [], none, "count", [.integer 40], 1, none⟩,
          ⟨"WITH", [], none, "row", [.json "\x7b\"id\":1\x7d", .json "\x7b\"id\":2\x7d"], 2, none⟩]
      connectError := none }

def fortyTasksOnly : Gateway where
  compiler := ⟨none, none⟩
  session := {}
  databases := fun _ => some fortyTasks

/-- A read of ten tasks that asks how many there are. -/
def tenTasks : Message where
  method := "GET"
  target := "/rest/v1/tasks"
  headers := [("x-project-id", "p"), ("range", "items=20-29"), ("prefer", "count=exact")]
  body := ""
  peer := none

theorem contentRange_exact_tenTasks :
    (handle fortyTasksOnly tenTasks nothingSaid).1.response.contentRange = some "20-21/40" ∧
      (∃ caller request compiled db page said rest rows total,
        ReadAnswered fortyTasksOnly tenTasks nothingSaid caller request compiled db page said rest
          rows total) ∧
      ClosedRange ("items=" ++ Numeral.text 20 ++ "-" ++ Numeral.text 29) 20 29 ∧
      (∃ page finish,
        Page.ofRange? ("items=" ++ Numeral.text 20 ++ "-" ++ Numeral.text 29) = some page ∧
          Reports (page.contentRange 10 none) 20 finish none ∧ 20 ≤ finish ∧ finish ≤ 29 ∧
          (10 = 29 - 20 + 1 → finish = 29)) ∧
      Reports (Page.contentRange ⟨18446744073709551615, none⟩ 5 none) 18446744073709551615
        (lastPosition ⟨18446744073709551615, none⟩ 5) none := by
  have hclosed : ClosedRange ("items=" ++ Numeral.text 20 ++ "-" ++ Numeral.text 29) 20 29 :=
    Request.closedRange_text (by decide) (by decide) (by decide) (by decide)
  have hresponse : (handle fortyTasksOnly tenTasks nothingSaid).1.response.isSuccess = true ∧
      (handle fortyTasksOnly tenTasks nothingSaid).1.response.contentRange = some "20-21/40" := by
    decide +kernel
  obtain ⟨hreports, -, hrange, hanswered⟩ := contentRange_exact
  refine ⟨hresponse.2,
    hanswered fortyTasksOnly tenTasks nothingSaid "tasks" rfl (by decide +kernel) hresponse.1,
    hclosed, hrange _ 20 29 10 none hclosed (by decide) (by decide),
    (hreports ⟨18446744073709551615, none⟩ 5 none (by decide) (by decide)).1⟩

end TableGateway.Http
