import TableGateway.Proofs.Http.SingleObject
import TableGateway.Proofs.Session.Binding

/-! # Values that do not fit

A request whose values do not fit the types of its main statement is refused before the statement
is executed, and its transaction is rolled back. -/

namespace TableGateway.Http

open Database
open Session (BoundByPosition ExecutionRun Finished FirstMisfit Outcome Sendable StatementRun
  bindFrom countingScript mainSql opening setupScript typeAt)

variable {caller : Caller} {request : Request} {db : Database} {r : Ready}
  {before said front back rest : History} {result : Except Error Outcome} {types : List String}
  {values : List Sql.Value} {e : Session.Error} {place : Nat}

/-! ## Described statements -/

/-- The main statement was prepared, the database described its parameters by the types, and the
rest was said behind it. -/
inductive Described (db : Database) (query : Query) (before said : History) (types : List String)
    (rest : History) : Prop where
  | intro {front : History} (hsaid : said = front ++ ⟨.prepare (mainSql query), none⟩ :: rest)
      (htypes : db.respond (before ++ front) (.prepare (mainSql query)) = .ok types)

/-- A statement that is prepared once is described by the answer to that. -/
theorem Described.unique {query : Query}
    (h : Described db query before (front ++ ⟨.prepare (mainSql query), none⟩ :: back) types rest)
    (hfront : (⟨.prepare (mainSql query), none⟩ : Exchange) ∉ front)
    (hback : (⟨.prepare (mainSql query), none⟩ : Exchange) ∉ back) :
    db.respond (before ++ front) (.prepare (mainSql query)) = .ok types ∧ rest = back := by
  obtain ⟨hsaid, htypes⟩ := h
  obtain ⟨rfl, -, rfl⟩ := (List.append_cons_inj_of_notMem hfront hback).mp hsaid
  exact ⟨htypes, rfl⟩

theorem Described.mem {query : Query} (h : Described db query before said types rest) :
    (⟨.prepare (mainSql query), none⟩ : Exchange) ∈ said := by
  obtain ⟨rfl, -⟩ := h
  exact List.mem_append_right _ List.mem_cons_self

/-- The main statement was prepared in vain: it was not executed, and the transaction was rolled
back. -/
structure Abandoned (r : Ready) (e : Session.Error) (said rest : History)
    (result : Except Error Outcome) : Prop where
  result_eq : result = .error (.session e)
  unexecuted : Spares (mainSql r.compiled.query) said
  ending : RolledBack rest

section Abandoned

variable {total : Option Nat} {ended : History}

theorem abandoned_of_unbound (hfront : Unsaid (mainSql r.compiled.query) front)
    (hended : Unsaid (mainSql r.compiled.query) ended) {after : History}
    (hfinished : Finished .session db (.error (.session e) : Except Error Outcome) after
      (result, after ++ ended)) :
    Abandoned r e (front ++ ⟨.prepare (mainSql r.compiled.query), none⟩ :: ended) ended result := by
  generalize hrun : (result, after ++ ended) = run at hfinished
  cases hfinished with
  | failed hback =>
      obtain ⟨rfl, hended'⟩ := Prod.mk.inj hrun
      obtain rfl := List.append_cancel_left hended'
      refine ⟨rfl, hfront.spares.append ?_, hback⟩
      exact List.forall_mem_cons.mpr ⟨nofun, hended.spares⟩

/-- What is bound to the types that the database described is what the statement is executed with,
so values that do not fit end it. -/
theorem abandoned_of_statement {reply : Except Session.Error Reply}
    (hfront : Unsaid (mainSql r.compiled.query) front)
    (hrun : StatementRun db (mainSql r.compiled.query) r.compiled.query.parameters
      (before ++ front) back reply)
    (hfinished : Finished .session db
      ((reply >>= Session.outcomeOf r.compiled.query total).mapError .session >>= checked r)
      (before ++ front ++ back) (result, before ++ front ++ back ++ ended))
    (hended : Unsaid (mainSql r.compiled.query) ended)
    (hbind : bindFrom 1 types r.compiled.query.parameters = .error e)
    (h : Described db r.compiled.query before (front ++ back ++ ended) types rest) :
    Abandoned r e (front ++ back ++ ended) rest result := by
  cases hrun with
  | unprepared =>
      have hmem := h.mem
      simp [hfront.not_mem_prepare, hended.not_mem_prepare] at hmem
  | unbound hprepare hunbound =>
      rw [List.append_assoc, List.singleton_append] at h ⊢
      obtain ⟨htypes, rfl⟩ := h.unique (hfront.not_mem_prepare none) (hended.not_mem_prepare none)
      cases hprepare.symm.trans htypes
      cases hunbound.symm.trans hbind
      exact abandoned_of_unbound hfront hended hfinished
  | unexecuted hprepare hbound =>
      rw [List.append_assoc, List.cons_append] at h
      obtain ⟨htypes, -⟩ := h.unique (hfront.not_mem_prepare none)
        (by simp [hended.not_mem_prepare])
      cases hprepare.symm.trans htypes
      cases hbound.symm.trans hbind
  | executed hprepare hbound =>
      rw [List.append_assoc, List.cons_append] at h
      obtain ⟨htypes, -⟩ := h.unique (hfront.not_mem_prepare none)
        (by simp [hended.not_mem_prepare])
      cases hprepare.symm.trans htypes
      cases hbound.symm.trans hbind

theorem not_described_of_unsaid {query : Query} (h : Unsaid (mainSql query) said) :
    ¬Described db query before said types rest :=
  fun hdescribed => h.not_mem_prepare none hdescribed.mem

theorem abandoned_of_run {settings : Session.Settings} {outcome : Except Session.Error Outcome}
    (hmain : mainSql r.compiled.query ∉ countingScript r.compiled.query settings)
    (hfront : Unsaid (mainSql r.compiled.query) front)
    (hrun : ExecutionRun db r.compiled.query settings (before ++ front) said outcome)
    (hfinished : Finished .session db (outcome.mapError .session >>= checked r)
      (before ++ front ++ said) (result, before ++ front ++ said ++ ended))
    (hended : Unsaid (mainSql r.compiled.query) ended)
    (hbind : bindFrom 1 types r.compiled.query.parameters = .error e)
    (h : Described db r.compiled.query before (front ++ said ++ ended) types rest) :
    Abandoned r e (front ++ said ++ ended) rest result := by
  cases hrun with
  | stopped _ hwithin =>
      have hunsaid := (hfront.append (unsaid_of_within hwithin hmain)).append hended
      exact absurd h (not_described_of_unsaid hunsaid)
  | reached _ hwithin hstatement =>
      have hcounted := unsaid_of_within hwithin hmain
      rw [List.append_assoc before] at hstatement
      rw [List.append_assoc before, ← List.append_assoc front, ← List.append_assoc before]
        at hfinished
      rw [← List.append_assoc front] at h ⊢
      exact abandoned_of_statement (hfront.append hcounted) hstatement hfinished hended hbind h

end Abandoned

/-! ## Refused requests -/

/-- Values that do not fit the described types are the end of the transaction, before the main
statement is executed. -/
theorem perform_abandoned {settings : Query.Settings} {context : Governance.Context}
    (hcompiled : Query.compile settings request context = .ok r.compiled)
    (session : Config.Session) (db : Database) (before : History) :
    ∃ said, (perform session (some db) r before).2 = before ++ said ∧
      ∀ types rest e, Described db r.compiled.query before said types rest →
        bindFrom 1 types r.compiled.query.parameters = .error e →
        Abandoned r e said rest (perform session (some db) r before).1 := by
  have hmain := Session.mainSql_not_mem hcompiled (.forCaller session r.caller.claims)
  rw [List.mem_append, not_or] at hmain
  obtain ⟨hsetup, hcounting⟩ := hmain
  rw [perform_eq, bodyOfTransaction_eq]
  obtain ⟨said, hsaid, hran⟩ := Session.runScoped_ran Error.session (some db)
    (.forCaller session r.caller.claims) r.caller.claims
    (Session.executeChecked_meets Error.session r.compiled.query
      (.forCaller session r.caller.claims) (checked r)) before
  refine ⟨said, hsaid, fun types rest e hdescribed hbind => ?_⟩
  cases hran with
  | unopened hopened hended =>
      have hunsaid := (unsaid_of_opening hopened hsetup).append
        (unsaid_of_ended fun x hx => .inr (hended x hx))
      exact absurd hdescribed (not_described_of_unsaid hunsaid)
  | opened hpool hpost hfinished hended =>
      cases hpool
      obtain ⟨outcome, hrun, rfl⟩ := hpost
      exact abandoned_of_run hcounting
        (unsaid_of_opening (fun _ hx => command_mem_of_accepted hx) hsetup) hrun hfinished
        (unsaid_of_ended hended) hbind hdescribed

/-- The response to a request whose values do not fit its main statement at a place. -/
structure Unfit (m : Message) (query : Query) (place : Nat) (type : String)
    (said rest : History) (response : Response) : Prop where
  unexecuted : Spares (mainSql query) said
  ending : RolledBack rest
  uncommitted : ∀ x ∈ said, x.command ≠ .commit
  status : response.status = 400
  body : response.body = some (if isHead m then "" else
    (ErrorBody.mk "invalid_parameter"
      ("parameter $" ++ Numeral.text (place + 1) ++ " is not a valid " ++ Text.lower type)
      none none none).toJson.text)

theorem Abandoned.unfit {m : Message} {method : Request.Method} {pool : Option Database}
    {type : String} (h : Abandoned r (.invalidParameter (place + 1) (Text.lower type)) said rest
      result) (hcourse : Course pool r before result said) :
    Unfit m r.compiled.query place type said rest (shown m (responseTo method r result)) := by
  obtain ⟨rfl, hunexecuted, hrest⟩ := h
  exact ⟨hunexecuted, hrest, hcourse.not_commit nofun, status_shown m _, body_shown m rfl⟩

/-- Values are bound by position. A request whose values do not fit the types that the database
described for its main statement is refused for the first one that does not, and nothing of it is
executed or committed. -/
theorem handle_bound (h : Sendable types values) :
    BoundByPosition types values (bindFrom 1 types values) ∧
      ∀ g m caller request compiled db histories, Reads m caller request →
        Query.compile g.compiler request caller.governance = .ok compiled →
        compiled.query.parameters = values → g.databases caller.projectId = some db →
        ∃ said, (handle g m histories).2 caller.projectId = histories caller.projectId ++ said ∧
          ∀ place rest, FirstMisfit types values place →
            Described db compiled.query (histories caller.projectId) said types rest →
            Unfit m compiled.query place (typeAt types place) said rest
              (handle g m histories).1.response := by
  refine ⟨Session.boundByPosition h, ?_⟩
  intro g m caller request compiled db histories hreads hcompiled hvalues hpool
  obtain ⟨said, hsaid, habandoned⟩ := perform_abandoned (r := ⟨caller, compiled⟩) hcompiled
    g.session db (histories caller.projectId)
  obtain ⟨said', hsaid', hcourse⟩ := courses_perform g.session (some db) ⟨caller, compiled⟩
    (histories caller.projectId)
  obtain rfl : said = said' := List.append_cancel_left (hsaid.symm.trans hsaid')
  rw [handle_of_reads hreads hcompiled, hpool]
  refine ⟨said, (if_pos rfl).trans hsaid, fun place rest hmisfit hdescribed => ?_⟩
  have hbind := (Session.bindFrom_one_eq_error_iff h).mpr ⟨place, hmisfit, rfl⟩
  exact (habandoned types rest _ hdescribed (hvalues ▸ hbind)).unfit hcourse

/-- The statements that return rows say of two parameters what they are, and no others do. -/
def numberedTasks : Database where
  respond _
    | .connect | .begin | .commit | .rollback => .ok ()
    | .prepare sql => .ok (if Text.startsWith "WITH" sql then ["TEXT", "Int8"] else [])
    | .execute _ _ => .ok ⟨"count", [.integer 9], 1⟩

def numberedTasksOnly : Gateway where
  compiler := ⟨none, none⟩
  session := {}
  databases := fun _ => some numberedTasks

/-- A read of tasks by a title, a number that is none, and a state. -/
def misnumberedRead : Message where
  method := "GET"
  target := "/rest/v1/tasks?title=eq.tidy&id=eq.one&done=eq.maybe"
  headers := [("x-project-id", "p"), ("prefer", "count=exact")]
  body := ""
  peer := none

def misnumberedReader : Caller where
  projectId := "p"
  claims := ⟨"", "anon", ""⟩
  role := "anon"
  sourceAddress := none
  locks := .empty
  singular := false

def misnumberedTasks : Request where
  method := .get
  table := "tasks"
  query := [("title", "eq.tidy"), ("id", "eq.one"), ("done", "eq.maybe")]
  body := none
  headers := { Request.Headers.none with prefer := ⟨true, none, none⟩ }

theorem reads_misnumberedRead : Reads misnumberedRead misnumberedReader misnumberedTasks where
  caller_eq := by decide +kernel
  table_eq := ⟨"tasks", rfl, by decide +kernel⟩
  method_eq := by decide +kernel
  query_eq := by decide +kernel
  headers_eq := by decide +kernel
  body_eq := rfl

def misnumberedValues : List Sql.Value := [.text "tidy", .text "one", .text "maybe"]

def misnumberedWhere : List Sql.Fragment :=
  [.fixed " WHERE ", .name "title", .fixed " = ", .placeholder 1, .fixed " AND ", .name "id",
    .fixed " = ", .placeholder 2, .fixed " AND ", .name "done", .fixed " = ", .placeholder 3]

def misnumberedQuery : Query where
  statement := [.fixed "SELECT ", .fixed "*", .fixed " FROM ", .name "tasks"] ++ misnumberedWhere
  parameters := misnumberedValues
  count := some ([.fixed "SELECT COUNT(*) FROM ", .name "tasks"] ++ misnumberedWhere)
  returnsRows := true

theorem sendable_misnumberedValues : Sendable ["TEXT", "Int8"] misnumberedValues := by
  rintro (_ | _ | _ | place) p ⟨v, hv, hconvert⟩
  · cases hv
    cases hconvert
    rfl
  · cases hv
    cases hconvert
  · cases hv
    cases hconvert
    rfl
  · cases hv

theorem firstMisfit_misnumberedValues : FirstMisfit ["TEXT", "Int8"] misnumberedValues 1 where
  lt_length := by decide
  misfit := by
    rintro p ⟨v, hv, hconvert⟩
    cases hv
    cases hconvert
  earlier := by
    intro other hother
    obtain rfl : other = 0 := by omega
    exact ⟨_, _, rfl, rfl⟩

/-- What is said to count the tasks, and then to prepare for their reading. -/
def misnumberedFront : List Command :=
  let settings := Session.Settings.forCaller numberedTasksOnly.session misnumberedReader.claims
  let count := Sql.render ([.fixed "SELECT COUNT(*) FROM ", .name "tasks"] ++ misnumberedWhere)
  opening settings misnumberedReader.claims ++ Session.marking settings
    ++ [.prepare count, .execute count [.ofText "tidy", .ofText "one", .ofText "maybe"]]
    ++ Session.settling settings (.ok 9)

set_option maxRecDepth 4096 in
/-- The tasks are counted, and then the number that is none is found before they are read. -/
theorem handle_bound_misnumberedRead :
    Sendable ["TEXT", "Int8"] misnumberedValues ∧
      BoundByPosition ["TEXT", "Int8"] misnumberedValues
        (bindFrom 1 ["TEXT", "Int8"] misnumberedValues) ∧
      ∃ compiled said,
        Reads misnumberedRead misnumberedReader misnumberedTasks ∧
        Query.compile numberedTasksOnly.compiler misnumberedTasks misnumberedReader.governance =
          .ok compiled ∧
        (handle numberedTasksOnly misnumberedRead nothingSaid).2 "p" = said ∧
        Described numberedTasks compiled.query [] said ["TEXT", "Int8"] [⟨.rollback, none⟩] ∧
        Unfit misnumberedRead compiled.query 1 "Int8" said [⟨.rollback, none⟩]
          (handle numberedTasksOnly misnumberedRead nothingSaid).1.response := by
  have hcompiled : Query.compile numberedTasksOnly.compiler misnumberedTasks
      misnumberedReader.governance = .ok ⟨misnumberedQuery, [], some .whole⟩ := rfl
  obtain ⟨hbound, hrequest⟩ := handle_bound sendable_misnumberedValues
  obtain ⟨said, hsaid, hunfit⟩ := hrequest numberedTasksOnly misnumberedRead misnumberedReader
    misnumberedTasks _ numberedTasks nothingSaid reads_misnumberedRead hcompiled rfl rfl
  have hperform : (perform numberedTasksOnly.session (some numberedTasks)
      ⟨misnumberedReader, ⟨misnumberedQuery, [], some .whole⟩⟩ []).2 =
        accepted misnumberedFront ++ ⟨.prepare (mainSql misnumberedQuery), none⟩ ::
          [⟨.rollback, none⟩] := rfl
  have hreturns : Text.startsWith "WITH" (mainSql misnumberedQuery) = true := by decide +kernel
  have hdescribed : Described numberedTasks misnumberedQuery [] said ["TEXT", "Int8"]
      [⟨.rollback, none⟩] := by
    rw [handle_of_reads reads_misnumberedRead hcompiled] at hsaid
    exact .intro (hsaid.symm.trans hperform) (congrArg Except.ok (if_pos hreturns))
  exact ⟨sendable_misnumberedValues, hbound, _, said, reads_misnumberedRead, hcompiled, hsaid,
    hdescribed, hunfit 1 _ firstMisfit_misnumberedValues hdescribed⟩

end TableGateway.Http
