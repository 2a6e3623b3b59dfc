import TableGateway.Proofs.Database.Conversation
import TableGateway.Session.Execution

/-! # How statements are executed

The execution of a query is made of statements only. If it has no result, the exchange that was
said last is the reason, and if it has one, the main statement was said last. -/

namespace TableGateway.Session

open Database

variable {db : Database} {before said front back : History} {sql : String}
  {values : List Sql.Value} {e : Error}

/-! ## One statement -/

-- Unsealed, the conversion runs on the unknown type of the parameter before the two sides compare.
seal argument? in
theorem bindFrom_cons {index : Nat} {types : List String} {v : Sql.Value} {vs : List Sql.Value} :
    bindFrom index types (v :: vs) =
      match argument? (types.headD defaultType) v with
      | none => .error (.invalidParameter index (Text.lower (types.headD defaultType)))
      | some p => (bindFrom (index + 1) types.tail vs).map (p :: ·) := rfl

/-- Values are bound unless one of them does not fit its type. -/
theorem exists_invalidParameter {index : Nat} {types : List String}
    (h : bindFrom index types values = .error e) :
    ∃ place type, e = .invalidParameter place type := by
  induction values generalizing index types with
  | nil => cases h
  | cons v vs ih =>
      rw [bindFrom_cons] at h
      split at h
      case h_1 =>
        cases h
        exact ⟨_, _, rfl⟩
      case h_2 p hp =>
        cases hrest : bindFrom (index + 1) types.tail vs with
        | ok ps =>
            rw [hrest] at h
            cases h
        | error e' =>
            rw [hrest] at h
            cases h
            exact ih hrest

/-- What is said to execute a statement, and what comes of it. -/
inductive StatementRun (db : Database) (sql : String) (values : List Sql.Value)
    (before : History) : History → Except Error Reply → Prop where
  | unprepared {f : Failure} (hprepare : db.respond before (.prepare sql) = .error f) :
      StatementRun db sql values before [⟨.prepare sql, some f⟩] (.error (.database f))
  | unbound {types : List String} {e : Error}
      (hprepare : db.respond before (.prepare sql) = .ok types)
      (hbind : bindFrom 1 types values = .error e) :
      StatementRun db sql values before [⟨.prepare sql, none⟩] (.error e)
  | unexecuted {types : List String} {arguments : List Parameter} {f : Failure}
      (hprepare : db.respond before (.prepare sql) = .ok types)
      (hbind : bindFrom 1 types values = .ok arguments)
      (hexecute : db.respond (before ++ [⟨.prepare sql, none⟩]) (.execute sql arguments) =
        .error f) :
      StatementRun db sql values before
        [⟨.prepare sql, none⟩, ⟨.execute sql arguments, some f⟩] (.error (.database f))
  | executed {types : List String} {arguments : List Parameter} {reply : Reply}
      (hprepare : db.respond before (.prepare sql) = .ok types)
      (hbind : bindFrom 1 types values = .ok arguments)
      (hexecute : db.respond (before ++ [⟨.prepare sql, none⟩]) (.execute sql arguments) =
        .ok reply) :
      StatementRun db sql values before
        [⟨.prepare sql, none⟩, ⟨.execute sql arguments, none⟩] (.ok reply)

theorem executeSql_meets (db : Database) (sql : String) (values : List Sql.Value) :
    (executeSql db sql values).Meets (StatementRun db sql values) := by
  intro before
  cases hprepare : db.respond before (.prepare sql) with
  | error f =>
      rw [executeSql, Conversation.bind_of_error
        (Conversation.mapError_of_error (send_of_error hprepare) _)]
      exact ⟨_, rfl, .unprepared hprepare⟩
  | ok types =>
      rw [executeSql, Conversation.bind_of_ok
        (Conversation.mapError_of_ok (send_of_ok hprepare) _)]
      cases hbind : bindFrom 1 types values with
      | error e => exact ⟨_, rfl, .unbound hprepare hbind⟩
      | ok arguments =>
          rw [Conversation.ofExcept_ok_bind]
          cases hexecute : db.respond (before ++ [⟨.prepare sql, none⟩])
              (.execute sql arguments) with
          | error f =>
              rw [Conversation.mapError_of_error (send_of_error hexecute), List.append_assoc]
              exact ⟨_, rfl, .unexecuted hprepare hbind hexecute⟩
          | ok reply =>
              rw [Conversation.mapError_of_ok (send_of_ok hexecute), List.append_assoc]
              exact ⟨_, rfl, .executed hprepare hbind hexecute⟩

/-! ## Faults -/

/-- Why an execution has no result. The exchange that was said last is the reason: the database
reported a failure, or its answer does not fit the values to be bound or the rows to be read. -/
inductive Fault (db : Database) (before : History) : History → Error → Prop where
  | reported {front : History} {c : Command} {f : Failure}
      (h : db.respond (before ++ front) c = .error f) :
      Fault db before (front ++ [⟨c, some f⟩]) (.database f)
  | unbound {front : History} {sql : String} {types : List String} {values : List Sql.Value}
      {e : Error} (hprepare : db.respond (before ++ front) (.prepare sql) = .ok types)
      (hbind : bindFrom 1 types values = .error e) :
      Fault db before (front ++ [⟨.prepare sql, none⟩]) e
  | unreadable {front : History} {sql : String} {arguments : List Parameter} {reply : Reply}
      {e : Error} (hexecute : db.respond (before ++ front) (.execute sql arguments) = .ok reply)
      (hrows : rows reply = .error e) :
      Fault db before (front ++ [⟨.execute sql arguments, none⟩]) e

theorem Fault.append (h : Fault db (before ++ front) back e) :
    Fault db before (front ++ back) e := by
  cases h with
  | reported h =>
      rw [← List.append_assoc]
      exact .reported (by rwa [← List.append_assoc])
  | unbound hprepare hbind =>
      rw [← List.append_assoc]
      exact .unbound (by rwa [← List.append_assoc]) hbind
  | unreadable hexecute hrows =>
      rw [← List.append_assoc]
      exact .unreadable (by rwa [← List.append_assoc]) hrows

/-! ## Statements only -/

/-- Only statements were said, and without a result the last exchange is to blame. -/
structure Stated {α : Type} (db : Database) (before said : History) (r : Except Error α) :
    Prop where
  statements : ∀ x ∈ said, x.command.IsStatement
  fault : ∀ e, r = .error e → Fault db before said e

section Stated

variable {α β : Type} {a : α}

theorem stated_nil (db : Database) (before : History) (a : α) : Stated db before [] (.ok a) where
  statements := by simp
  fault _ h := by cases h

theorem Stated.of_error (h : Stated db before said (.error e : Except Error α)) :
    Stated db before said (.error e : Except Error β) where
  statements := h.statements
  fault e' he := h.fault e' (by cases he; rfl)

theorem Stated.append {r : Except Error β} (hfront : Stated db before front (.ok a))
    (hback : Stated db (before ++ front) back r) : Stated db before (front ++ back) r where
  statements := by
    intro x hx
    rcases List.mem_append.mp hx with hx | hx
    · exact hfront.statements x hx
    · exact hback.statements x hx
  fault e he := (hback.fault e he).append

theorem stated_pure (db : Database) (a : α) : (pure a : Conversation Error α).Meets (Stated db) :=
  Conversation.meets_pure a fun before => stated_nil db before a

theorem stated_bind {m : Conversation Error α} {f : α → Conversation Error β}
    (hm : m.Meets (Stated db)) (hf : ∀ a, (f a).Meets (Stated db)) : (m >>= f).Meets (Stated db) :=
  hm.bind hf (fun _ _ _ h => h.of_error) fun _ _ _ _ _ hfront hback => hfront.append hback

end Stated

theorem StatementRun.stated {r : Except Error Reply}
    (h : StatementRun db sql values before said r) : Stated db before said r where
  statements := by cases h <;> simp [Command.IsStatement]
  fault e he := by
    cases h with
    | unprepared hprepare =>
        cases he
        rw [← List.append_nil before] at hprepare
        exact Fault.reported hprepare
    | unbound hprepare hbind =>
        cases he
        rw [← List.append_nil before] at hprepare
        exact Fault.unbound hprepare hbind
    | unexecuted hprepare hbind hexecute =>
        cases he
        exact Fault.reported hexecute
    | executed => cases he

theorem executeSql_stated (db : Database) (sql : String) (values : List Sql.Value) :
    (executeSql db sql values).Meets (Stated db) :=
  (executeSql_meets db sql values).mono fun _ _ _ h => h.stated

/-! ## Counting -/

/-- Only statements were said, and a failure is one of the database or the last exchange is to
blame. -/
structure Counted (db : Database) (before said : History) (r : Except Error Int) : Prop where
  statements : ∀ x ∈ said, x.command.IsStatement
  fault : ∀ e, r = .error e → (∃ f, e = .database f) ∨ Fault db before said e

theorem scalar_eq_error {reply : Reply} (h : scalar reply = .error e) : ∃ f, e = .database f := by
  unfold scalar at h
  split at h <;> cases h
  · exact ⟨_, rfl⟩
  · exact ⟨_, rfl⟩

theorem counted_meets (db : Database) (sql : String) (values : List Sql.Value) :
    (executeSql db sql values >>= fun reply => Conversation.ofExcept (scalar reply)).Meets
      (Counted db) := by
  refine (executeSql_stated db sql values).bind_silent (fun _ _ => rfl) ?_ ?_
  · intro before said e h
    exact ⟨h.statements, fun e' he => .inr (h.fault e' (by cases he; rfl))⟩
  · intro before said reply h
    exact ⟨h.statements, fun e he => .inl (scalar_eq_error he)⟩

/-- What follows a count that is over: one that failed is taken back. -/
def resumeCount (db : Database) : Except Error Int → Conversation Error (Option Nat)
  | .ok n => do
      let _ ← executeSql db ("RELEASE SAVEPOINT " ++ savepoint) []
      return some n.toNat
  | .error (.database _) => do
      let _ ← executeSql db ("ROLLBACK TO SAVEPOINT " ++ savepoint) []
      return none
  | .error e => Conversation.fail e

theorem countRows_eq (db : Database) (sql : String) (values : List Sql.Value) (timeout : Nat) :
    countRows db sql values timeout =
      (executeSql db ("SAVEPOINT " ++ savepoint) [] >>= fun _ =>
        executeSql db (timeoutSql timeout) [] >>= fun _ =>
          (executeSql db sql values >>= fun reply =>
            Conversation.ofExcept (scalar reply)).attempt >>= resumeCount db) := rfl

/-- A count whose failure is none of the database ends the execution without a further word. -/
theorem resumeCount_meets (db : Database) (r : Except Error Int) :
    (resumeCount db r).Meets fun before said s => Stated db before said s ∨
      ∃ e, r = .error e ∧ (∀ f, e ≠ .database f) ∧ said = [] ∧ s = .error e := by
  have hstated : ∀ sql (total : Option Nat),
      (executeSql db sql [] >>= fun _ => pure total).Meets (Stated db) := fun sql total =>
    stated_bind (executeSql_stated db sql []) fun _ => stated_pure db total
  match r with
  | .ok n => exact (hstated _ _).mono fun _ _ _ h => .inl h
  | .error (.database f) => exact (hstated _ _).mono fun _ _ _ h => .inl h
  | .error .projectUnreachable | .error .projectNotFound | .error .invalidRole
  | .error (.invalidParameter _ _) | .error (.config _) =>
      exact Conversation.meets_fail _ fun _ => .inr ⟨_, rfl, nofun, rfl, rfl⟩

theorem countRows_stated (db : Database) (sql : String) (values : List Sql.Value) (timeout : Nat) :
    (countRows db sql values timeout).Meets (Stated db) := by
  rw [countRows_eq]
  refine stated_bind (executeSql_stated db _ _) fun _ => ?_
  refine stated_bind (executeSql_stated db _ _) fun _ => ?_
  refine (counted_meets db sql values).attempt_bind (resumeCount_meets db) ?_
  rintro before front back r s hcounted (hstated | ⟨e, rfl, hne, rfl, rfl⟩)
  · refine ⟨fun x hx => ?_, fun e he => (hstated.fault e he).append⟩
    rcases List.mem_append.mp hx with hx | hx
    · exact hcounted.statements x hx
    · exact hstated.statements x hx
  · rw [List.append_nil]
    refine ⟨hcounted.statements, fun e' he => ?_⟩
    cases he
    exact (hcounted.fault e rfl).resolve_left fun ⟨f, hf⟩ => hne f hf

theorem total_stated (db : Database) (query : Query) (settings : Settings) :
    (total db query settings).Meets (Stated db) := by
  unfold total
  split
  · exact stated_pure db none
  · refine stated_bind (countRows_stated db _ _ _) fun total => ?_
    exact stated_bind (executeSql_stated db _ _) fun _ => stated_pure db total

/-! ## Main statements -/

/-- The main statement of a query as it is executed. -/
def mainSql (query : Query) : String :=
  if query.returnsRows then jsonRowsSql query.text else query.text

theorem mainSql_of_returnsRows {query : Query} (h : query.returnsRows = true) :
    mainSql query = jsonRowsSql query.text :=
  if_pos h

theorem mainSql_of_not_returnsRows {query : Query} (h : ¬query.returnsRows = true) :
    mainSql query = query.text :=
  if_neg h

/-- The main statement was executed last, and the outcome is what the database answered. -/
inductive Answered (db : Database) (query : Query) (before : History) :
    History → Outcome → Prop where
  | intro {front : History} {arguments : List Parameter} {reply : Reply} {outcome : Outcome}
      (hreply : db.respond (before ++ front) (.execute (mainSql query) arguments) = .ok reply)
      (hrows : query.returnsRows = true → rows reply = .ok outcome.rows) :
      Answered db query before (front ++ [⟨.execute (mainSql query) arguments, none⟩]) outcome

theorem Answered.append {query : Query} {outcome : Outcome}
    (h : Answered db query (before ++ front) back outcome) :
    Answered db query before (front ++ back) outcome := by
  cases h with
  | intro hreply hrows =>
      rw [← List.append_assoc]
      exact .intro (by rwa [← List.append_assoc]) hrows

/-- Only statements were said. Without a result the last exchange is to blame, and with one the
main statement was executed last. -/
structure Executed (db : Database) (query : Query) (before said : History)
    (r : Except Error Outcome) : Prop extends Stated db before said r where
  answered : ∀ outcome, r = .ok outcome → Answered db query before said outcome

/-- Executes the main statement of a query whose total is known. -/
def executeMain (db : Database) (query : Query) (total : Option Nat) :
    Conversation Error Outcome :=
  if query.returnsRows then do
    let reply ← executeSql db (jsonRowsSql query.text) query.parameters
    let rows ← Conversation.ofExcept (rows reply)
    return ⟨rows, rows.length, total⟩
  else do
    let reply ← executeSql db query.text query.parameters
    return ⟨[], reply.affected, total⟩

theorem execute_eq (db : Database) (query : Query) (settings : Settings) :
    execute db query settings = total db query settings >>= executeMain db query := rfl

/-- A statement without a result ends the execution. -/
theorem Stated.executed {α : Type} {query : Query}
    (h : Stated db before said (.error e : Except Error α)) :
    Executed db query before said (.error e) where
  toStated := h.of_error
  answered _ ho := by cases ho

/-- What is made of the answer to the main statement says how the execution ends. -/
theorem StatementRun.executed_main {query : Query} {reply : Reply} {r : Except Error Outcome}
    (h : StatementRun db (mainSql query) values before said (.ok reply))
    (herror : ∀ e, r = .error e → rows reply = .error e)
    (hok : ∀ outcome, r = .ok outcome → query.returnsRows = true → rows reply = .ok outcome.rows) :
    Executed db query before said r where
  statements := h.stated.statements
  fault e he := by
    cases h with
    | executed hprepare hbind hexecute => exact Fault.unreadable hexecute (herror e he)
  answered outcome ho := by
    cases h with
    | executed hprepare hbind hexecute => exact Answered.intro hexecute (hok outcome ho)

theorem executeMain_meets (db : Database) (query : Query) (total : Option Nat) :
    (executeMain db query total).Meets (Executed db query) := by
  have hmain := executeSql_meets db (mainSql query) query.parameters
  unfold executeMain
  split
  case isTrue hreturns =>
    rw [← mainSql_of_returnsRows hreturns]
    have hsilent : ∀ reply before, (Conversation.ofExcept (rows reply) >>= fun rows =>
        (pure ⟨rows, rows.length, total⟩ : Conversation Error Outcome)) before =
          ((rows reply).map fun rows => ⟨rows, rows.length, total⟩, before) := by
      intro reply before
      cases rows reply <;> rfl
    refine hmain.bind_silent hsilent (fun _ _ _ h => h.stated.executed) ?_
    intro before said reply hrun
    cases hreply : rows reply with
    | error e => exact hrun.executed_main (fun e he => by cases he; exact hreply) nofun
    | ok rows => exact hrun.executed_main nofun fun outcome ho _ => by cases ho; exact hreply
  case isFalse hreturns =>
    rw [← mainSql_of_not_returnsRows hreturns]
    refine hmain.bind_silent (fun _ _ => rfl) (fun _ _ _ h => h.stated.executed) ?_
    intro before said reply hrun
    exact hrun.executed_main nofun fun _ _ h => absurd h hreturns

theorem execute_meets (db : Database) (query : Query) (settings : Settings) :
    (execute db query settings).Meets (Executed db query) := by
  rw [execute_eq]
  refine (total_stated db query settings).bind (executeMain_meets db query)
    (fun _ _ _ h => h.executed) ?_
  intro before front back total r hfront hback
  exact ⟨hfront.append hback.toStated, fun outcome ho => (hback.answered outcome ho).append⟩

theorem length_of_rows {reply : Reply} {rs : List Json} (h : rows reply = .ok rs) :
    rs.length = reply.cells.length := by
  have hmapM : ∀ (cells : List Cell) (rs : List Json),
      cells.mapM rowOfCell? = some rs → rs.length = cells.length := by
    intro cells
    induction cells with
    | nil => simp
    | cons cell cells ih =>
        intro rs h
        simp only [List.mapM_cons, Option.bind_eq_bind, Option.bind_eq_some_iff] at h
        obtain ⟨row, -, rest, hrest, h⟩ := h
        cases h
        rw [List.length_cons, List.length_cons, ih rest hrest]
  unfold rows at h
  split at h
  case h_1 hcells =>
    cases h
    rw [hcells]
    rfl
  case h_2 =>
    split at h
    case h_1 hrows =>
      cases h
      split at hrows
      · exact hmapM _ _ hrows
      · cases hrows
    case h_2 => cases h

end TableGateway.Session
