import TableGateway.Database.Script
import TableGateway.Proofs.Session.Execution
import TableGateway.Proofs.Session.Statements

/-! # Counts

A count comes before the main statement, behind a savepoint. Whether it succeeds or the database
fails it, the main statement is then executed as if nothing had been counted. -/

namespace TableGateway

/-- The query without its count. -/
def Query.uncounted (query : Query) : Query :=
  { query with count := none }

namespace Session

open Database

variable {α : Type} {db other : Database} {query : Query} {settings : Settings}
  {before before' said : History} {sql : String} {values : List Sql.Value}

/-! ## Statements without parameters -/

/-- The commands of a statement that has no parameters. -/
def stating (sql : String) : List Command :=
  [.prepare sql, .execute sql []]

theorem executeSql_bind (db : Database) (sql : String) (m : Conversation Error α) :
    (executeSql db sql [] >>= fun _ => m) =
      (db.sendAll (stating sql)).mapError .database >>= fun _ => m := by
  have hstating : db.sendAll (stating sql) =
      db.send (.prepare sql) >>= fun _ => db.send (.execute sql []) >>= fun _ => pure () := rfl
  rw [hstating, executeSql, Conversation.mapError_bind, Conversation.bind_assoc,
    Conversation.bind_assoc]
  congr 1
  funext types
  have hbind : bindFrom 1 types [] = .ok [] := rfl
  rw [hbind, Conversation.ofExcept_ok_bind, Conversation.mapError_bind, Conversation.bind_assoc]
  rfl

/-- The commands in front of a count: a savepoint, and the time of the count. -/
def marking (settings : Settings) : List Command :=
  stating ("SAVEPOINT " ++ savepoint) ++ stating (timeoutSql settings.countTimeout)

/-- The commands behind a count. One that succeeded is released and one that failed is taken back,
and then statements have their own time again. -/
def settling (settings : Settings) : Except Error Int → List Command
  | .ok _ => stating ("RELEASE SAVEPOINT " ++ savepoint)
      ++ stating (timeoutSql settings.statementTimeout)
  | .error _ => stating ("ROLLBACK TO SAVEPOINT " ++ savepoint)
      ++ stating (timeoutSql settings.statementTimeout)

/-! ## Counting -/

/-- What is said to count, and the number that comes of it. -/
inductive Counting (db : Database) (sql : String) (values : List Sql.Value) (before : History) :
    History → Except Error Int → Prop where
  | intro {said : History} {reply : Except Error Reply}
      (h : StatementRun db sql values before said reply) :
      Counting db sql values before said (reply >>= scalar)

/-- Executes a count and reads its number. -/
def runCount (db : Database) (sql : String) (values : List Sql.Value) : Conversation Error Int := do
  let reply ← executeSql db sql values
  Conversation.ofExcept (scalar reply)

theorem runCount_meets (db : Database) (sql : String) (values : List Sql.Value) :
    (runCount db sql values).Meets (Counting db sql values) :=
  (executeSql_meets db sql values).bind_silent (fun _ _ => rfl) (fun _ _ _ h => .intro h)
    fun _ _ _ h => .intro h

/-- The count is over, be it with a number or with a failure of the database. -/
def IsSettled (result : Except Error Int) : Prop :=
  ∀ e, result = .error e → ∃ f, e = .database f

theorem isSettled_or (result : Except Error Int) :
    IsSettled result ∨ ∃ e, result = .error e ∧ ∀ f, e ≠ .database f := by
  cases result with
  | ok n => exact .inl nofun
  | error e =>
      cases e with
      | database f =>
          refine .inl fun _ he => ⟨f, ?_⟩
          cases he
          rfl
      | _ => exact .inr ⟨_, rfl, nofun⟩

/-- The total that a count makes known. -/
def tally : Except Error Int → Option Nat
  | .ok n => some (max n 0).toNat
  | .error _ => none

theorem sendAll_stating_append (db : Database) (sql : String) (commands : List Command)
    (m : Conversation Error α) :
    ((db.sendAll (stating sql ++ commands)).mapError .database >>= fun _ => m) =
      executeSql db sql [] >>= fun _ =>
        (db.sendAll commands).mapError .database >>= fun _ => m := by
  rw [executeSql_bind, sendAll_append, Conversation.mapError_bind, Conversation.bind_assoc]

/-- Goes on behind a count, up to the main statement. -/
def resumeTotal (db : Database) (settings : Settings) (result : Except Error Int) :
    Conversation Error (Option Nat) := do
  let total ← resumeCount db result
  let _ ← executeSql db (timeoutSql settings.statementTimeout) []
  return total

theorem resumeTotal_of_isSettled {result : Except Error Int} (h : IsSettled result) :
    resumeTotal db settings result =
      (db.sendAll (settling settings result)).mapError .database >>= fun _ =>
        pure (tally result) := by
  have hsettle : ∀ (sql : String) (total : Option Nat),
      ((executeSql db sql [] >>= fun _ => pure total) >>= fun total =>
          executeSql db (timeoutSql settings.statementTimeout) [] >>= fun _ => pure total) =
        (db.sendAll (stating sql ++ stating (timeoutSql settings.statementTimeout))).mapError
          .database >>= fun _ => pure total := by
    intro sql total
    rw [sendAll_stating_append, ← executeSql_bind, Conversation.bind_assoc]
    rfl
  cases result with
  | ok n =>
      have htally : tally (.ok n) = some n.toNat := congrArg some (by omega)
      rw [htally]
      exact hsettle _ _
  | error e =>
      obtain ⟨f, rfl⟩ := h e rfl
      exact hsettle _ _

theorem resumeTotal_of_not_database {e : Error} (h : ∀ f, e ≠ .database f) :
    resumeTotal db settings (.error e) = Conversation.fail e := by
  cases e with
  | database f => exact absurd rfl (h f)
  | _ => rfl

theorem total_eq (hcount : query.countText? = some sql) :
    total db query settings =
      (db.sendAll (marking settings)).mapError .database >>= fun _ =>
        (runCount db sql query.parameters).attempt >>= resumeTotal db settings := by
  rw [total, hcount]
  simp only
  rw [countRows_eq, marking, sendAll_stating_append, ← executeSql_bind]
  simp only [Conversation.bind_assoc]
  rfl

/-! ## Courses of a count -/

/-- How what comes before the main statement can go: nothing is counted, the count cannot be
prepared for, its values cannot be bound, it cannot be concluded, or all is ready for the main
statement. -/
inductive Totalled (db : Database) (query : Query) (settings : Settings) (before : History) :
    History → Except Error (Option Nat) → Prop where
  | uncounted (hcount : query.countText? = none) :
      Totalled db query settings before [] (.ok none)
  | unmarked {sql : String} {front back : List Command} {c : Command} {f : Failure}
      (hcount : query.countText? = some sql) (hsplit : marking settings = front ++ c :: back)
      (hfront : db.Accepts before front)
      (hc : db.respond (before ++ accepted front) c = .error f) :
      Totalled db query settings before (accepted front ++ [⟨c, some f⟩]) (.error (.database f))
  | unbound {sql : String} {counted : History} {e : Error}
      (hcount : query.countText? = some sql) (hmarked : db.Accepts before (marking settings))
      (hcounting : Counting db sql query.parameters (before ++ accepted (marking settings)) counted
        (.error e))
      (he : ∀ f, e ≠ .database f) :
      Totalled db query settings before (accepted (marking settings) ++ counted) (.error e)
  | unsettled {sql : String} {counted : History} {result : Except Error Int}
      {front back : List Command} {c : Command} {f : Failure}
      (hcount : query.countText? = some sql) (hmarked : db.Accepts before (marking settings))
      (hcounting : Counting db sql query.parameters (before ++ accepted (marking settings)) counted
        result)
      (hresult : IsSettled result) (hsplit : settling settings result = front ++ c :: back)
      (hfront : db.Accepts (before ++ accepted (marking settings) ++ counted) front)
      (hc : db.respond (before ++ accepted (marking settings) ++ counted ++ accepted front) c =
        .error f) :
      Totalled db query settings before
        (accepted (marking settings) ++ counted ++ (accepted front ++ [⟨c, some f⟩]))
        (.error (.database f))
  | settled {sql : String} {counted : History} {result : Except Error Int}
      (hcount : query.countText? = some sql) (hmarked : db.Accepts before (marking settings))
      (hcounting : Counting db sql query.parameters (before ++ accepted (marking settings)) counted
        result)
      (hresult : IsSettled result)
      (hsettled : db.Accepts (before ++ accepted (marking settings) ++ counted)
        (settling settings result)) :
      Totalled db query settings before
        (accepted (marking settings) ++ counted ++ accepted (settling settings result))
        (.ok (tally result))

theorem sendAll_database_bind_of_accepts {commands : List Command}
    (h : db.Accepts before commands) (m : Conversation Error α) :
    ((db.sendAll commands).mapError .database >>= fun _ => m) before =
      m (before ++ accepted commands) :=
  Conversation.bind_of_ok (Conversation.mapError_of_ok (sendAll_of_accepts h) _) _

theorem sendAll_database_bind_of_stopped {front back : List Command} {c : Command} {f : Failure}
    (hfront : db.Accepts before front) (hc : db.respond (before ++ accepted front) c = .error f)
    (m : Conversation Error α) :
    ((db.sendAll (front ++ c :: back)).mapError .database >>= fun _ => m) before =
      (.error (.database f), before ++ (accepted front ++ [⟨c, some f⟩])) := by
  rw [← List.append_assoc]
  exact Conversation.bind_of_error
    (Conversation.mapError_of_error (sendAll_of_stopped hfront hc) _) _

theorem total_of_marked (hcount : query.countText? = some sql)
    (hmarked : db.Accepts before (marking settings)) {result : Except Error Int} {after : History}
    (hrun : runCount db sql query.parameters (before ++ accepted (marking settings)) =
      (result, after)) :
    total db query settings before = resumeTotal db settings result after := by
  rw [total_eq hcount, sendAll_database_bind_of_accepts hmarked, Conversation.attempt_bind_apply,
    hrun]

theorem total_meets (db : Database) (query : Query) (settings : Settings) :
    (total db query settings).Meets (Totalled db query settings) := by
  intro before
  cases hcount : query.countText? with
  | none =>
      rw [total, hcount]
      exact ⟨[], (List.append_nil before).symm, .uncounted hcount⟩
  | some sql =>
      rcases db.accepts_or_stopped before (marking settings) with
        hmarked | ⟨front, c, back, f, hsplit, hfront, hc⟩
      · rcases hrun : runCount db sql query.parameters (before ++ accepted (marking settings)) with
          ⟨result, after⟩
        obtain ⟨counted, rfl, hcounting⟩ := (runCount_meets db sql query.parameters).run hrun
        rw [total_of_marked hcount hmarked hrun]
        rcases isSettled_or result with hresult | ⟨e, rfl, he⟩
        · rw [resumeTotal_of_isSettled hresult]
          rcases db.accepts_or_stopped (before ++ accepted (marking settings) ++ counted)
              (settling settings result) with hsettled | ⟨front, c, back, f, hsplit, hfront, hc⟩
          · rw [sendAll_database_bind_of_accepts hsettled]
            refine ⟨_, ?_, .settled hcount hmarked hcounting hresult hsettled⟩
            simp only [List.append_assoc]
            rfl
          · rw [hsplit, sendAll_database_bind_of_stopped hfront hc]
            refine ⟨_, ?_, .unsettled hcount hmarked hcounting hresult hsplit hfront hc⟩
            simp only [List.append_assoc]
        · rw [resumeTotal_of_not_database he]
          exact ⟨_, List.append_assoc .., .unbound hcount hmarked hcounting he⟩
      · rw [total_eq hcount, hsplit, sendAll_database_bind_of_stopped hfront hc]
        exact ⟨_, rfl, .unmarked hcount hsplit hfront hc⟩

/-! ## Main statements -/

/-- What comes of the answer to the main statement of a query whose total is known. -/
def outcomeOf (query : Query) (total : Option Nat) (reply : Reply) : Except Error Outcome :=
  if query.returnsRows then (rows reply).map fun rows => ⟨rows, rows.length, total⟩
  else .ok ⟨[], reply.affected, total⟩

theorem executeMain_eq (db : Database) (query : Query) (total : Option Nat) :
    executeMain db query total =
      executeSql db (mainSql query) query.parameters >>= fun reply =>
        Conversation.ofExcept (outcomeOf query total reply) := by
  unfold executeMain outcomeOf mainSql
  split
  case isTrue =>
    congr 1
    funext reply
    cases rows reply <;> rfl
  case isFalse => rfl

theorem total_of_outcomeOf {total : Option Nat} {reply : Reply} {outcome : Outcome}
    (h : outcomeOf query total reply = .ok outcome) : outcome.total = total := by
  unfold outcomeOf at h
  split at h
  case isTrue =>
    cases hrows : rows reply with
    | error e => simp [hrows, Except.map] at h
    | ok rs =>
        rw [hrows] at h
        cases h
        rfl
  case isFalse =>
    cases h
    rfl

theorem StatementRun.statement_eq {reply : Except Error Reply}
    (h : StatementRun db sql values before said reply) :
    ∀ x ∈ said, x.command.statement? = some sql := by
  cases h <;> simp [Command.statement?]

theorem StatementRun.executeSql_eq {reply : Except Error Reply}
    (h : StatementRun db sql values before said reply) :
    executeSql db sql values before = (reply, before ++ said) := by
  cases h with
  | unprepared h =>
      rw [executeSql, Conversation.bind_of_error
        (Conversation.mapError_of_error (send_of_error h) _)]
  | unbound h hbind =>
      rw [executeSql, Conversation.bind_of_ok (Conversation.mapError_of_ok (send_of_ok h) _), hbind]
      rfl
  | unexecuted h hbind hfailed =>
      rw [executeSql, Conversation.bind_of_ok (Conversation.mapError_of_ok (send_of_ok h) _), hbind,
        Conversation.ofExcept_ok_bind,
        Conversation.mapError_of_error (send_of_error hfailed), List.append_assoc]
      rfl
  | executed h hbind hreply =>
      rw [executeSql, Conversation.bind_of_ok (Conversation.mapError_of_ok (send_of_ok h) _), hbind,
        Conversation.ofExcept_ok_bind,
        Conversation.mapError_of_ok (send_of_ok hreply), List.append_assoc]
      rfl

theorem Counting.runCount_eq {result : Except Error Int}
    (h : Counting db sql values before said result) :
    runCount db sql values before = (result, before ++ said) := by
  obtain ⟨hrun⟩ := h
  rename_i reply
  cases reply with
  | error e => exact Conversation.bind_of_error hrun.executeSql_eq _
  | ok reply => exact Conversation.bind_of_ok hrun.executeSql_eq _

theorem StatementRun.executeMain_eq {reply : Except Error Reply}
    (h : StatementRun db (mainSql query) query.parameters before said reply) (total : Option Nat) :
    executeMain db query total before = (reply >>= outcomeOf query total, before ++ said) := by
  rw [Session.executeMain_eq]
  cases reply with
  | error e => exact Conversation.bind_of_error h.executeSql_eq _
  | ok reply => exact Conversation.bind_of_ok h.executeSql_eq _

/-- How the execution of a query can go: it stops before the main statement, or it ends with it. -/
inductive ExecutionRun (db : Database) (query : Query) (settings : Settings) (before : History) :
    History → Except Error Outcome → Prop where
  | stopped {said : History} {e : Error} (h : Totalled db query settings before said (.error e))
      (hwithin : Within (countingScript query settings) said) :
      ExecutionRun db query settings before said (.error e)
  | reached {front back : History} {total : Option Nat} {reply : Except Error Reply}
      (htotal : Totalled db query settings before front (.ok total))
      (hwithin : Within (countingScript query settings) front)
      (hmain : StatementRun db (mainSql query) query.parameters (before ++ front) back reply) :
      ExecutionRun db query settings before (front ++ back) (reply >>= outcomeOf query total)

theorem execute_run (db : Database) (query : Query) (settings : Settings) :
    (execute db query settings).Meets (ExecutionRun db query settings) := by
  have hmain : ∀ total, (executeMain db query total).Meets fun before said r =>
      ∃ reply, StatementRun db (mainSql query) query.parameters before said reply ∧
        r = reply >>= outcomeOf query total := by
    intro total
    rw [executeMain_eq]
    exact (executeSql_meets db _ _).bind_silent (fun _ _ => rfl) (fun _ _ _ h => ⟨_, h, rfl⟩)
      fun _ _ _ h => ⟨_, h, rfl⟩
  have htotal := (total_meets db query settings).and (total_utters db query settings)
  rw [execute_eq]
  refine htotal.bind hmain (fun _ _ _ ⟨h, hwithin⟩ => .stopped h hwithin) ?_
  rintro before front back total _ ⟨htotal, hwithin⟩ ⟨reply, hrun, rfl⟩
  exact .reached htotal hwithin hrun

/-- Executes a query and checks its outcome. -/
def executeChecked {ε : Type} (embed : Error → ε) (query : Query) (settings : Settings)
    (check : Outcome → Except ε α) (db : Database) : Conversation ε α :=
  (execute db query settings).mapError embed >>= fun outcome =>
    Conversation.ofExcept (check outcome)

theorem executeChecked_meets {ε : Type} (embed : Error → ε) (query : Query) (settings : Settings)
    (check : Outcome → Except ε α) (db : Database) :
    (executeChecked embed query settings check db).Meets fun before said result =>
      ∃ outcome, ExecutionRun db query settings before said outcome ∧
        result = outcome.mapError embed >>= check := by
  have hexecute : ((execute db query settings).mapError embed).Meets fun before said result =>
      ∃ outcome, ExecutionRun db query settings before said outcome ∧
        result = outcome.mapError embed :=
    (execute_run db query settings).mapError fun _ _ outcome h => ⟨outcome, h, rfl⟩
  refine hexecute.bind_silent (fun _ _ => rfl) ?_ ?_
  · rintro before said e ⟨outcome, hrun, hresult⟩
    exact ⟨outcome, hrun, by rw [← hresult]; rfl⟩
  · rintro before said a ⟨outcome, hrun, hresult⟩
    exact ⟨outcome, hrun, by rw [← hresult]; rfl⟩

/-! ## Counts that leave no trace -/

/-- The count of a query is over with a result, and all of the statements around it succeeded. -/
inductive CountOver (db : Database) (query : Query) (settings : Settings) (before : History) :
    Except Error Int → History → Prop where
  | intro {sql : String} {counted : History} {result : Except Error Int}
      (hcount : query.countText? = some sql) (hmarked : db.Accepts before (marking settings))
      (hcounting : Counting db sql query.parameters (before ++ accepted (marking settings)) counted
        result)
      (hresult : IsSettled result)
      (hsettled : db.Accepts (before ++ accepted (marking settings) ++ counted)
        (settling settings result)) :
      CountOver db query settings before result
        (before ++ accepted (marking settings) ++ counted ++ accepted (settling settings result))

theorem CountOver.total_eq {result : Except Error Int} {after : History}
    (h : CountOver db query settings before result after) :
    total db query settings before = (.ok (tally result), after) := by
  obtain ⟨hcount, hmarked, hcounting, hresult, hsettled⟩ := h
  rw [total_of_marked hcount hmarked hcounting.runCount_eq, resumeTotal_of_isSettled hresult,
    sendAll_database_bind_of_accepts hsettled]
  rfl

end Session

end TableGateway
