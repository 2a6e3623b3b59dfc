import TableGateway.Proofs.Query.Compilation
import TableGateway.Proofs.Session.Execution
import TableGateway.Proofs.Session.Scope
import TableGateway.Proofs.Sql.Fragment

/-! # Which statements are said

The settings of a transaction and its query lay down a script. Whatever the database answers, the
statements that are prepared and those that are executed are taken from the script in its order, so
none of them comes more often than the script has it. -/

namespace TableGateway

open Database (History Command)

namespace Database

/-! ## Scripts -/

def Command.prepared? : Command → Option String
  | prepare sql => some sql
  | _ => none

def Command.executed? : Command → Option String
  | execute sql _ => some sql
  | _ => none

/-- The statement that is prepared or executed. -/
def Command.statement? : Command → Option String
  | prepare sql => some sql
  | execute sql _ => some sql
  | _ => none

theorem Command.statement?_of_executed? {c : Command} {sql : String} (h : c.executed? = some sql) :
    c.statement? = some sql := by
  cases c with
  | execute => exact h
  | _ => cases h

theorem Command.isStatement_of_statement? {c : Command} {sql : String}
    (h : c.statement? = some sql) : c.IsStatement := by
  cases c with
  | prepare => trivial
  | execute => trivial
  | _ => cases h

/-- The statements that were prepared, in order. -/
def prepared (said : History) : List String :=
  said.filterMap fun x => x.command.prepared?

/-- The statements that were executed, in order. -/
def executed (said : History) : List String :=
  said.filterMap fun x => x.command.executed?

@[simp] theorem prepared_append (front back : History) :
    prepared (front ++ back) = prepared front ++ prepared back :=
  List.filterMap_append

@[simp] theorem executed_append (front back : History) :
    executed (front ++ back) = executed front ++ executed back :=
  List.filterMap_append

/-- What was prepared and what was executed is taken from the script in its order. -/
structure Within (script : List String) (said : History) : Prop where
  prepared_sublist : (prepared said).Sublist script
  executed_sublist : (executed said).Sublist script

namespace Within

variable {script front back : List String} {said next : History}

theorem nil (script : List String) : Within script [] :=
  ⟨List.nil_sublist script, List.nil_sublist script⟩

theorem mono {longer : List String} (h : Within script said) (hscript : script.Sublist longer) :
    Within longer said :=
  ⟨h.prepared_sublist.trans hscript, h.executed_sublist.trans hscript⟩

theorem append (hsaid : Within front said) (hnext : Within back next) :
    Within (front ++ back) (said ++ next) where
  prepared_sublist := by
    rw [prepared_append]
    exact hsaid.prepared_sublist.append hnext.prepared_sublist
  executed_sublist := by
    rw [executed_append]
    exact hsaid.executed_sublist.append hnext.executed_sublist

/-- A statement at the end of the script that stands nowhere else in it is executed once at most. -/
theorem count_executed_le {last : String} (h : Within (front ++ [last]) said)
    (hlast : last ∉ front) : (executed said).count last ≤ 1 := by
  have hcount : (front ++ [last]).count last = 1 := by
    rw [List.count_append, List.count_eq_zero_of_not_mem hlast, List.count_singleton_self]
  exact hcount ▸ h.executed_sublist.count_le last

end Within

end Database

/-! ## Conversations -/

namespace Conversation

open Database (Within)

variable {ε δ α β : Type} {m : Conversation ε α} {script front back : List String}

/-- What the conversation adds is taken from the script. -/
def Utters (m : Conversation ε α) (script : List String) : Prop :=
  m.Meets fun _ said _ => Within script said

theorem utters_of_silent {r : Except ε α} (h : ∀ before, m before = (r, before)) : m.Utters [] :=
  meets_of_silent h fun _ => .nil []

theorem Utters.mono {longer : List String} (hm : m.Utters script)
    (hscript : script.Sublist longer) : m.Utters longer :=
  Meets.mono hm fun _ _ _ h => h.mono hscript

theorem Utters.bind {f : α → Conversation ε β} (hm : m.Utters front)
    (hf : ∀ a, (f a).Utters back) : (m >>= f).Utters (front ++ back) :=
  Meets.bind hm hf (fun _ _ _ h => h.mono (List.sublist_append_left front back))
    fun _ _ _ _ _ hfront hback => hfront.append hback

theorem Utters.attempt_bind {f : Except ε α → Conversation δ β} (hm : m.Utters front)
    (hf : ∀ r, (f r).Utters back) : (m.attempt >>= f).Utters (front ++ back) :=
  Meets.attempt_bind hm hf fun _ _ _ _ _ hfront hback => hfront.append hback

theorem Utters.mapError {f : ε → δ} (hm : m.Utters script) : (m.mapError f).Utters script :=
  Meets.mapError hm fun _ _ _ h => h

end Conversation

namespace Database

variable {ε : Type} {db : Database}

theorem send_meets (db : Database) (c : Command) :
    (db.send c).Meets fun _ said _ => ∃ f, said = [⟨c, f⟩] :=
  fun _ => ⟨_, rfl, _, rfl⟩

/-- The command is neither prepared nor executed. -/
def Command.IsWordless (c : Command) : Prop :=
  c.prepared? = none ∧ c.executed? = none

theorem within_of_isWordless {c : Command} (h : c.IsWordless) (f : Option Failure) :
    Within [] [⟨c, f⟩] := by
  constructor
  · simp [prepared, h.1]
  · simp [executed, h.2]

theorem send_utters {c : Command} (h : c.IsWordless) : (db.send c).Utters [] := by
  refine (send_meets db c).mono ?_
  rintro _ _ _ ⟨f, rfl⟩
  exact within_of_isWordless h f

theorem sendAnyway_utters {c : Command} (h : c.IsWordless) :
    (db.sendAnyway c : Conversation ε Unit).Utters [] :=
  fun _ => ⟨_, rfl, within_of_isWordless h _⟩

theorem rollback_utters (db : Database) : (db.rollback : Conversation ε Unit).Utters [] := by
  have hrollback : Command.rollback.IsWordless := ⟨rfl, rfl⟩
  refine (send_utters hrollback).attempt_bind fun r => ?_
  cases r with
  | ok => exact Conversation.utters_of_silent fun _ => rfl
  | error => exact sendAnyway_utters hrollback

theorem commit_utters (db : Database) : db.commit.Utters [] := by
  refine (send_utters ⟨rfl, rfl⟩).attempt_bind fun r => ?_
  cases r with
  | ok => exact Conversation.utters_of_silent fun _ => rfl
  | error f =>
      exact (sendAnyway_utters ⟨rfl, rfl⟩).bind fun _ => Conversation.utters_of_silent fun _ => rfl

end Database

namespace Session

open Database

variable {ε α : Type} {db : Database} {settings : Settings}

/-! ## Executions -/

theorem executeSql_utters (db : Database) (sql : String) (values : List Sql.Value) :
    (executeSql db sql values).Utters [sql] := by
  refine (executeSql_meets db sql values).mono fun before said r h => ?_
  have hexecuted : ∀ sql arguments f, Within [sql]
      [⟨.prepare sql, none⟩, ⟨.execute sql arguments, f⟩] :=
    fun _ _ _ => ⟨List.Sublist.refl _, List.Sublist.refl _⟩
  have hprepared : ∀ sql f, Within [sql] [⟨.prepare sql, f⟩] :=
    fun _ _ => ⟨List.Sublist.refl _, List.nil_sublist _⟩
  cases h with
  | unprepared => exact hprepared _ _
  | unbound => exact hprepared _ _
  | unexecuted => exact hexecuted _ _ _
  | executed => exact hexecuted _ _ _

/-- The statements around a count and the count itself. A count that succeeds is released, and one
that fails is taken back. -/
def countingScript (query : Query) (settings : Settings) : List String :=
  match query.countText? with
  | none => []
  | some sql =>
      ["SAVEPOINT " ++ savepoint, timeoutSql settings.countTimeout, sql,
        "RELEASE SAVEPOINT " ++ savepoint, "ROLLBACK TO SAVEPOINT " ++ savepoint,
        timeoutSql settings.statementTimeout]

theorem resumeCount_utters (db : Database) (r : Except Error Int) :
    (resumeCount db r).Utters
      ["RELEASE SAVEPOINT " ++ savepoint, "ROLLBACK TO SAVEPOINT " ++ savepoint] := by
  have hstatement : ∀ sql (total : Option Nat),
      (executeSql db sql [] >>= fun _ => pure total).Utters [sql] := fun sql total =>
    (executeSql_utters db sql []).bind fun _ => Conversation.utters_of_silent fun _ => rfl
  unfold resumeCount
  split
  · exact (hstatement _ _).mono (by simp)
  · exact (hstatement _ _).mono (by simp)
  · exact (Conversation.utters_of_silent fun _ => rfl).mono (List.nil_sublist _)

theorem countRows_utters (db : Database) (sql : String) (values : List Sql.Value) (timeout : Nat) :
    (countRows db sql values timeout).Utters
      ["SAVEPOINT " ++ savepoint, timeoutSql timeout, sql,
        "RELEASE SAVEPOINT " ++ savepoint, "ROLLBACK TO SAVEPOINT " ++ savepoint] := by
  have hcount := (executeSql_utters db sql values).bind fun reply =>
    Conversation.utters_of_silent (m := Conversation.ofExcept (scalar reply)) fun _ => rfl
  rw [countRows_eq]
  refine (executeSql_utters db _ _).bind fun _ => ?_
  refine (executeSql_utters db _ _).bind fun _ => ?_
  exact hcount.attempt_bind (resumeCount_utters db)

theorem total_utters (db : Database) (query : Query) (settings : Settings) :
    (total db query settings).Utters (countingScript query settings) := by
  cases hcount : query.countText? with
  | none =>
      simp only [total, countingScript, hcount]
      exact Conversation.utters_of_silent fun _ => rfl
  | some sql =>
      simp only [total, countingScript, hcount]
      refine (countRows_utters db _ _ _).bind fun _ => ?_
      exact (executeSql_utters db _ _).bind fun _ => Conversation.utters_of_silent fun _ => rfl

theorem executeMain_utters (db : Database) (query : Query) (total : Option Nat) :
    (executeMain db query total).Utters [mainSql query] := by
  unfold executeMain
  split
  case isTrue hreturns =>
    rw [mainSql_of_returnsRows hreturns]
    refine (executeSql_utters db _ _).bind fun reply => ?_
    exact (Conversation.utters_of_silent fun _ => rfl).bind
      fun _ => Conversation.utters_of_silent fun _ => rfl
  case isFalse hreturns =>
    rw [mainSql_of_not_returnsRows hreturns]
    exact (executeSql_utters db _ _).bind fun _ => Conversation.utters_of_silent fun _ => rfl

theorem execute_utters (db : Database) (query : Query) (settings : Settings) :
    (execute db query settings).Utters (countingScript query settings ++ [mainSql query]) := by
  rw [execute_eq]
  exact (total_utters db query settings).bind (executeMain_utters db query)

/-! ## Transactions -/

/-- The statements that set up a transaction. -/
def setupScript (settings : Settings) : List String :=
  [timeoutSql settings.statementTimeout, settings.roleText, claimsSql]

theorem mem_setupScript {claims : Claims} {c : Command} {sql : String}
    (hc : c ∈ opening settings claims) (hsql : c.statement? = some sql) :
    sql ∈ setupScript settings := by
  simp only [opening, setup, List.cons_append, List.nil_append, List.mem_cons, List.not_mem_nil,
    or_false] at hc
  rcases hc with rfl | rfl | rfl | rfl | rfl | rfl | rfl | rfl <;> cases hsql <;>
    simp [setupScript]

theorem runStatement_sends (db : Database) (sql : String) (arguments : List Parameter) :
    (runStatement db sql arguments).Sends [.prepare sql, .execute sql arguments] :=
  (db.send_sends _).bind fun _ => db.send_sends _

theorem runStatement_utters (db : Database) (sql : String) (arguments : List Parameter) :
    (runStatement db sql arguments).Utters [sql] := by
  refine (send_meets db (.prepare sql)).bind (fun _ => send_meets db (.execute sql arguments)) ?_ ?_
  · rintro _ _ _ ⟨f, rfl⟩
    exact ⟨List.Sublist.refl _, List.nil_sublist _⟩
  · rintro _ _ _ _ _ ⟨f, rfl⟩ ⟨g, rfl⟩
    exact ⟨List.Sublist.refl _, List.Sublist.refl _⟩

theorem establish_utters (db : Database) (settings : Settings) (claims : Claims) :
    (establish db settings settings.roleText claims).Utters (setupScript settings) := by
  refine (runStatement_utters db _ _).bind fun _ => ?_
  refine (runStatement_utters db _ _).bind fun _ => ?_
  exact (runStatement_utters db _ _).bind fun _ => Conversation.utters_of_silent fun _ => rfl

theorem finish_utters (embed : Error → ε) (db : Database) (r : Except ε α) :
    (finish embed db r).Utters [] := by
  cases r with
  | error e => exact (rollback_utters db).bind fun _ => Conversation.utters_of_silent fun _ => rfl
  | ok a =>
      exact (commit_utters db).mapError.bind fun _ => Conversation.utters_of_silent fun _ => rfl

theorem runScoped_utters {embed : Error → ε} {claims : Claims}
    {body : Database → Conversation ε α} {script : List String} (pool : Option Database)
    (hbody : ∀ db, (body db).Utters script) :
    (runScoped embed pool settings claims body).Utters (setupScript settings ++ script) := by
  have hsilent : ∀ {e}, (∀ before, runScoped embed pool settings claims body before =
      (.error e, before)) →
      (runScoped embed pool settings claims body).Utters (setupScript settings ++ script) :=
    fun h => (Conversation.utters_of_silent h).mono (List.nil_sublist _)
  cases hrole : Sql.Identifier.isValid settings.role with
  | false => exact hsilent fun _ => runScoped_of_not_isValid pool hrole
  | true =>
      cases pool with
      | none => exact hsilent fun _ => runScoped_none hrole
      | some db =>
          rw [runScoped, roleSql_of_isValid hrole]
          have hconnect : (db.acquire.mapError fun f => embed (.ofConnecting f)).Utters [] :=
            (send_utters ⟨rfl, rfl⟩).mapError.mapError
          have hbegin : ((db.send .begin).mapError fun f => embed (.database f)).Utters [] :=
            (send_utters ⟨rfl, rfl⟩).mapError
          refine hconnect.bind fun _ => hbegin.bind fun _ => ?_
          refine (establish_utters db settings claims).attempt_bind fun r => ?_
          cases r with
          | error f =>
              exact (finish_utters embed db (.error _)).mono (List.nil_sublist script)
          | ok =>
              have hend := (hbody db).attempt_bind (finish_utters embed db)
              rwa [List.append_nil] at hend

/-! ## Main statements -/

variable {compiler : Query.Settings} {request : Request} {context : Governance.Context}
  {compiled : Query.Compiled}

theorem head?_text_of_not_returnsRows
    (h : Query.compile compiler request context = .ok compiled)
    (hreturns : ¬compiled.query.returnsRows = true) :
    compiled.query.text.toList.head? ∈ [some 'I', some 'U', some 'D'] := by
  cases hmethod : request.method with
  | get =>
      obtain ⟨target, columns, hread⟩ := Query.compile_get hmethod h
      exact absurd hread.returnsRows_eq hreturns
  | post =>
      obtain ⟨target, payload, rows, conflict, hinsert⟩ := Query.compile_post hmethod h
      simp [Query.text, hinsert.statement_eq, Sql.toList_render, Sql.Fragment.chars]
  | patch =>
      obtain ⟨target, attempted, row, hupdate⟩ := Query.compile_patch hmethod h
      simp [Query.text, hupdate.statement_eq, Sql.toList_render, Sql.Fragment.chars]
  | delete =>
      obtain ⟨target, hdelete⟩ := Query.compile_delete hmethod h
      simp [Query.text, hdelete.statement_eq, Sql.toList_render, Sql.Fragment.chars]

theorem head?_mainSql (h : Query.compile compiler request context = .ok compiled) :
    (mainSql compiled.query).toList.head? ∈ [some 'W', some 'I', some 'U', some 'D'] := by
  by_cases hreturns : compiled.query.returnsRows = true
  · rw [mainSql_of_returnsRows hreturns]
    simp [jsonRowsSql]
  · rw [mainSql_of_not_returnsRows hreturns]
    exact List.mem_cons_of_mem _ (head?_text_of_not_returnsRows h hreturns)

theorem head?_countText (h : Query.compile compiler request context = .ok compiled) {sql : String}
    (hcount : compiled.query.countText? = some sql) : sql.toList.head? = some 'S' := by
  obtain ⟨count, hfragments, rfl⟩ := Option.map_eq_some_iff.mp hcount
  obtain ⟨-, target, columns, hread⟩ := Query.compile_count h hfragments
  rw [hread.eq_of_count hfragments]
  simp [Sql.toList_render, Sql.Fragment.chars]

theorem head?_timeoutSql (milliseconds : Nat) :
    (timeoutSql milliseconds).toList.head? = some 'S' := by
  have hfront : ∀ back : String,
      ("SET LOCAL statement_timeout = " ++ back).toList.head? = some 'S' := by simp
  exact hfront _

theorem head?_claimsSql : claimsSql.toList.head? = some 'S' := by
  have hfront : ∀ second third fourth : String,
      ("SELECT set_config('request.jwt.claim.sub', $1, true), " ++ second ++ third
        ++ fourth).toList.head? = some 'S' := by
    intro second third fourth
    simp
  exact hfront _ _ _

theorem head?_of_mem_setupScript (settings : Settings) :
    ∀ sql ∈ setupScript settings, sql.toList.head? = some 'S' := by
  have hrole : settings.roleText.toList.head? = some 'S' := by simp [Settings.roleText]
  simp [setupScript, head?_timeoutSql, head?_claimsSql, hrole]

theorem head?_of_mem_countingScript (h : Query.compile compiler request context = .ok compiled)
    (settings : Settings) :
    ∀ sql ∈ countingScript compiled.query settings,
      sql.toList.head? = some 'S' ∨ sql.toList.head? = some 'R' := by
  unfold countingScript
  split
  case h_1 => simp
  case h_2 sql hcount => simp [head?_timeoutSql, head?_countText h hcount]

/-- The first letter of the main statement tells it from all others of its transaction. -/
theorem mainSql_not_mem (h : Query.compile compiler request context = .ok compiled)
    (settings : Settings) :
    mainSql compiled.query ∉ setupScript settings ++ countingScript compiled.query settings := by
  have hmain := head?_mainSql h
  rw [List.mem_append, not_or]
  constructor
  · intro hmem
    rw [head?_of_mem_setupScript settings _ hmem] at hmain
    exact absurd hmain (by decide)
  · intro hmem
    rcases head?_of_mem_countingScript h settings _ hmem with hhead | hhead
    all_goals
      rw [hhead] at hmain
      exact absurd hmain (by decide)

end Session

end TableGateway
