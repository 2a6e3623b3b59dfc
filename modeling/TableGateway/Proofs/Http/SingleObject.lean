import TableGateway.Proofs.Http.Isolation
import TableGateway.Proofs.Session.Counting
import TableGateway.Proofs.Session.Opening

/-! # Single objects

A request that asks for a single object is answered with the one row that its statement returns, or
it is rolled back. All other requests are answered with all of the rows. -/

namespace TableGateway.Http

open Database
open Session (ExecutionRun Finished Outcome StatementRun countingScript executeChecked mainSql
  opening outcomeOf setupScript)
open Request (Method)

variable {g : Gateway} {m : Message} {histories : Histories} {caller : Caller} {request : Request}
  {compiled : Query.Compiled} {db : Database} {r : Ready} {before said front back rest : History}
  {result : Except Error Outcome} {rows : List Json} {sql : String}

/-! ## Callers that ask for a single object -/

/-- The first header that says what is accepted is readable, and it names the media type of a single
object. -/
inductive AsksForOne (headers : Headers) : Prop where
  | intro {front back : Headers} {name value : String}
      (hheaders : headers = front ++ (name, value) :: back)
      (hfirst : ∀ header ∈ front, Text.lower header.1 ≠ "accept")
      (hname : Text.lower name = "accept") (hreadable : isReadable value = true)
      (hasks : Text.occursIn Caller.singularMediaType (Text.trim value) = true)

theorem singular_iff {headers : Headers} {peer : Option Network.Address}
    (h : Caller.ofHeaders? headers peer = some caller) :
    caller.singular = true ↔ AsksForOne headers := by
  have hsingular : caller.singular =
      (header? headers "accept").any (Text.occursIn Caller.singularMediaType) := by
    simp only [Caller.ofHeaders?, Option.bind_eq_bind, Option.bind_eq_some_iff] at h
    obtain ⟨projectId, -, h⟩ := h
    cases h
    rfl
  rw [hsingular, Option.any_eq_true]
  constructor
  · rintro ⟨text, htext, hasks⟩
    obtain ⟨front, name, value, back, hheaders, hfirst, hname, hreadable, rfl⟩ :=
      header?_eq_some_iff.mp htext
    exact ⟨hheaders, hfirst, hname, hreadable, hasks⟩
  · rintro ⟨hheaders, hfirst, hname, hreadable, hasks⟩
    exact ⟨_, header?_eq_some_iff.mpr ⟨_, _, _, _, hheaders, hfirst, hname, hreadable, rfl⟩, hasks⟩

/-! ## Statements that are not the main one -/

/-- The statement is neither prepared nor executed. -/
def Unsaid (sql : String) (said : History) : Prop :=
  ∀ x ∈ said, x.command.statement? ≠ some sql

theorem Unsaid.append (hfront : Unsaid sql front) (hback : Unsaid sql back) :
    Unsaid sql (front ++ back) :=
  List.forall_mem_append.mpr ⟨hfront, hback⟩

theorem Unsaid.not_mem_prepare (h : Unsaid sql said) (f : Option Failure) :
    (⟨.prepare sql, f⟩ : Exchange) ∉ said :=
  fun hmem => h _ hmem rfl

theorem unsaid_of_within {script : List String} (h : Within script said) (hsql : sql ∉ script) :
    Unsaid sql said := by
  rintro ⟨c, f⟩ hx hstatement
  cases c with
  | prepare other =>
      obtain rfl : other = sql := Option.some.inj hstatement
      have hmem : other ∈ prepared said := List.mem_filterMap.mpr ⟨_, hx, rfl⟩
      exact hsql (h.prepared_sublist.subset hmem)
  | execute other arguments =>
      obtain rfl : other = sql := Option.some.inj hstatement
      have hmem : other ∈ executed said := List.mem_filterMap.mpr ⟨_, hx, rfl⟩
      exact hsql (h.executed_sublist.subset hmem)
  | _ => cases hstatement

theorem unsaid_of_opening {settings : Session.Settings} {claims : Claims}
    (h : ∀ x ∈ said, x.command ∈ opening settings claims) (hsql : sql ∉ setupScript settings) :
    Unsaid sql said :=
  fun x hx hstatement => hsql (Session.mem_setupScript (h x hx) hstatement)

theorem unsaid_of_ended (h : ∀ x ∈ rest, x.command = .commit ∨ x.command = .rollback) :
    Unsaid sql rest := by
  intro x hx
  rcases h x hx with hcommand | hcommand
  · rw [hcommand]
    nofun
  · rw [hcommand]
    nofun

/-- The statement is not executed. -/
def Spares (sql : String) (said : History) : Prop :=
  ∀ x ∈ said, x.command.executed? ≠ some sql

theorem Unsaid.spares (h : Unsaid sql said) : Spares sql said :=
  fun x hx hexecuted => h x hx (Command.statement?_of_executed? hexecuted)

theorem Spares.append (hfront : Spares sql front) (hback : Spares sql back) :
    Spares sql (front ++ back) :=
  List.forall_mem_append.mpr ⟨hfront, hback⟩

/-! ## Courses of a transaction -/

/-- The outcome, if it has the rows that the caller asks for. -/
def checked (r : Ready) (outcome : Outcome) : Except Error Outcome :=
  (checkSingular r.caller.singular r.compiled.query.returnsRows outcome).map fun _ => outcome

theorem bodyOfTransaction_eq (settings : Session.Settings) (r : Ready) :
    bodyOfTransaction settings r =
      executeChecked .session r.compiled.query settings (checked r) := by
  funext db
  unfold bodyOfTransaction executeChecked
  congr 1
  funext outcome
  unfold checked
  cases checkSingular r.caller.singular r.compiled.query.returnsRows outcome <;> rfl

/-- How the transaction of a request can go: its main statement does not succeed, or it does, and
then what comes of the answer decides how the transaction ends. -/
inductive Performed (db : Database) (r : Ready) (before : History) :
    Except Error Outcome → History → Prop where
  | unreached {result : Except Error Outcome} {said : History}
      (h : ∀ x ∈ said, x.failure = none → x.command.executed? ≠ some (mainSql r.compiled.query)) :
      Performed db r before result said
  | reached {front rest : History} {arguments : List Parameter} {reply : Reply}
      {total : Option Nat} {result : Except Error Outcome}
      (hfront : Spares (mainSql r.compiled.query) front)
      (hrest : Spares (mainSql r.compiled.query) rest)
      (hreply : db.respond (before ++ front) (.execute (mainSql r.compiled.query) arguments) =
        .ok reply)
      (hfinished : Finished .session db
        ((outcomeOf r.compiled.query total reply).mapError .session >>= checked r)
        (before ++ (front ++ [⟨.execute (mainSql r.compiled.query) arguments, none⟩]))
        (result, before ++ (front ++ [⟨.execute (mainSql r.compiled.query) arguments, none⟩]) ++
          rest)) :
      Performed db r before result
        (front ++ ⟨.execute (mainSql r.compiled.query) arguments, none⟩ :: rest)

section Performed

variable {values : List Sql.Value} {total : Option Nat}

theorem performed_of_unsucceeded (hfront : Spares (mainSql r.compiled.query) front)
    (hsaid : ∀ x ∈ said, x.failure = none →
      x.command.executed? ≠ some (mainSql r.compiled.query))
    (hrest : Spares (mainSql r.compiled.query) rest) :
    Performed db r before result (front ++ said ++ rest) := by
  refine .unreached fun x hx hfailure => ?_
  rcases List.mem_append.mp hx with hx | hx
  · rcases List.mem_append.mp hx with hx | hx
    · exact hfront x hx
    · exact hsaid x hx hfailure
  · exact hrest x hx

theorem performed_of_statement {reply : Except Session.Error Reply}
    (hfront : Spares (mainSql r.compiled.query) front)
    (hstatement : StatementRun db (mainSql r.compiled.query) values (before ++ front) said reply)
    (hfinished : Finished .session db
      ((reply >>= outcomeOf r.compiled.query total).mapError .session >>= checked r)
      (before ++ front ++ said) (result, before ++ front ++ said ++ rest))
    (hrest : Spares (mainSql r.compiled.query) rest) :
    Performed db r before result (front ++ said ++ rest) := by
  cases hstatement with
  | unprepared => exact performed_of_unsucceeded hfront (by simp [Command.executed?]) hrest
  | unbound => exact performed_of_unsucceeded hfront (by simp [Command.executed?]) hrest
  | unexecuted => exact performed_of_unsucceeded hfront (by simp [Command.executed?]) hrest
  | @executed _ arguments reply _ _ hreply =>
      have hprepared : Spares (mainSql r.compiled.query)
          [⟨.prepare (mainSql r.compiled.query), none⟩] := by
        simp [Spares, Command.executed?]
      have happend : front ++ [⟨.prepare (mainSql r.compiled.query), none⟩,
            ⟨.execute (mainSql r.compiled.query) arguments, none⟩] =
          front ++ [⟨.prepare (mainSql r.compiled.query), none⟩] ++
            [⟨.execute (mainSql r.compiled.query) arguments, none⟩] :=
        List.append_cons ..
      rw [List.append_assoc before, happend] at hfinished
      rw [List.append_assoc before] at hreply
      rw [happend, List.append_assoc _ [_] rest]
      exact .reached (hfront.append hprepared) hrest hreply hfinished

theorem performed_of_run {settings : Session.Settings} {outcome : Except Session.Error Outcome}
    (hmain : mainSql r.compiled.query ∉ countingScript r.compiled.query settings)
    (hfront : Spares (mainSql r.compiled.query) front)
    (hrun : ExecutionRun db r.compiled.query settings (before ++ front) said outcome)
    (hfinished : Finished .session db (outcome.mapError .session >>= checked r)
      (before ++ front ++ said) (result, before ++ front ++ said ++ rest))
    (hrest : Spares (mainSql r.compiled.query) rest) :
    Performed db r before result (front ++ said ++ rest) := by
  cases hrun with
  | stopped _ hwithin =>
      have hsaid := (unsaid_of_within hwithin hmain).spares
      exact performed_of_unsucceeded hfront (fun x hx _ => hsaid x hx) hrest
  | reached _ hwithin hstatement =>
      have hcounted := (unsaid_of_within hwithin hmain).spares
      rw [List.append_assoc before] at hstatement
      rw [List.append_assoc before, ← List.append_assoc front, ← List.append_assoc before]
        at hfinished
      rw [← List.append_assoc front]
      exact performed_of_statement (hfront.append hcounted) hstatement hfinished hrest

end Performed

theorem performed {settings : Query.Settings} {context : Governance.Context}
    (hcompiled : Query.compile settings request context = .ok r.compiled)
    (session : Config.Session) (db : Database) (before : History) :
    ∃ said, (perform session (some db) r before).2 = before ++ said ∧
      Performed db r before (perform session (some db) r before).1 said := by
  have hmain := Session.mainSql_not_mem hcompiled (.forCaller session r.caller.claims)
  rw [List.mem_append, not_or] at hmain
  obtain ⟨hsetup, hcounting⟩ := hmain
  rw [perform_eq, bodyOfTransaction_eq]
  obtain ⟨said, hsaid, hran⟩ := Session.runScoped_ran Error.session (some db)
    (.forCaller session r.caller.claims) r.caller.claims
    (Session.executeChecked_meets Error.session r.compiled.query
      (.forCaller session r.caller.claims) (checked r)) before
  refine ⟨said, hsaid, ?_⟩
  cases hran with
  | unopened hopened hended =>
      have hunsaid := (unsaid_of_opening hopened hsetup).append
        (unsaid_of_ended fun x hx => .inr (hended x hx))
      exact .unreached fun x hx _ => hunsaid.spares x hx
  | opened hpool hpost hfinished hended =>
      cases hpool
      obtain ⟨outcome, hrun, rfl⟩ := hpost
      exact performed_of_run hcounting
        (unsaid_of_opening (fun _ hx => command_mem_of_accepted hx) hsetup).spares hrun hfinished
        (unsaid_of_ended hended).spares

/-! ## Rows that were returned -/

/-- The main statement returned the rows, and the rest was said behind it. -/
inductive Returned (db : Database) (query : Query) (before said : History) (rows : List Json)
    (rest : History) : Prop where
  | intro {front : History} {arguments : List Parameter} {reply : Reply}
      (hsaid : said = front ++ ⟨.execute (mainSql query) arguments, none⟩ :: rest)
      (hreply : db.respond (before ++ front) (.execute (mainSql query) arguments) = .ok reply)
      (hrows : Session.rows reply = .ok rows)

/-- The transaction is rolled back, and the number of rows is reported. -/
structure Refused (m : Message) (rows : Nat) (said rest : History) (response : Response) :
    Prop where
  ending : RolledBack rest
  uncommitted : ∀ x ∈ said, x.command ≠ .commit
  status : response.status = 406
  body : response.body = some (if isHead m then "" else
    (ErrorBody.mk "not_singular"
      ("JSON object requested, " ++ Numeral.text rows ++ " rows returned")
      (some ("The result contains " ++ Numeral.text rows ++ " rows")) none none).toJson.text)

theorem body_shown (m : Message) {response : Response} {text : String}
    (h : response.body = some text) :
    (shown m response).body = some (if isHead m then "" else text) := by
  unfold shown Response.headersOnly
  split
  case isTrue => rw [h]; rfl
  case isFalse => exact h

theorem respond_of_returnsRows (hreturns : r.compiled.query.returnsRows = true) (method : Method)
    (outcome : Outcome) :
    (respond method r outcome).status = (if method = .post then 201 else 200) ∧
      (respond method r outcome).body = some
        (if r.caller.singular then outcome.rows.headD .null else .array outcome.rows).text := by
  rw [respond, if_pos hreturns]
  exact ⟨rfl, rfl⟩

section Checked

variable {outcome : Outcome}

end Checked

/-- Every statement finds two rows, which have no columns. -/
def pairs : Database where
  respond _
    | .connect | .begin | .commit | .rollback => .ok ()
    | .prepare _ => .ok []
    | .execute _ _ => .ok ⟨"row", [.json "\x7b\x7d", .json "\x7b\x7d"], 2⟩

end TableGateway.Http
