import TableGateway.Proofs.Database.Savepoints
import TableGateway.Proofs.Session.Counting
import TableGateway.Proofs.Session.Opening
import TableGateway.Proofs.Text.Occurrence

/-! # Timeouts

The count runs under a timeout of its own, behind a savepoint. Whatever comes of it, the main
statement runs under the timeout that was set when the transaction was opened, and no failed
statement is outstanding. -/

namespace TableGateway.Session

open Database

variable {ε α : Type} {embed : Error → ε} {db : Database} {query : Query} {settings : Settings}
  {claims : Claims} {before said front back : History} {sql : String} {values : List Sql.Value}
  {result : Except Error Int} {x : Exchange}

/-! ## Directives -/

theorem ofText?_timeoutSql (milliseconds : Nat) :
    Directive.ofText? (timeoutSql milliseconds) = some (.timeout milliseconds) :=
  Directive.ofText?_timeout milliseconds

theorem ofText?_savepoint :
    Directive.ofText? ("SAVEPOINT " ++ savepoint) = some (.savepoint savepoint) := by decide

theorem ofText?_release :
    Directive.ofText? ("RELEASE SAVEPOINT " ++ savepoint) = some (.release savepoint) := by decide

theorem ofText?_rollbackTo :
    Directive.ofText? ("ROLLBACK TO SAVEPOINT " ++ savepoint) = some (.rollbackTo savepoint) := by
  decide

theorem ofText?_roleText (settings : Settings) : Directive.ofText? settings.roleText = none := by
  have hfront : ∀ back : String, Directive.ofText? ("SET LOCAL ROLE " ++ back) = none := by
    simp [Directive.ofText?, Text.afterFront?, List.isPrefixOf?]
  exact hfront _

theorem ofText?_claimsSql : Directive.ofText? claimsSql = none := by
  have hfront : ∀ second third fourth : String, Directive.ofText?
      ("SELECT set_config('request.jwt.claim.sub', $1, true), " ++ second ++ third ++ fourth) =
        none := by
    simp [Directive.ofText?, Text.afterFront?, List.isPrefixOf?]
  exact hfront _ _ _

/-! ## States of a transaction -/

theorem foldl_stating (s : InForce) (sql : String) :
    (accepted (stating sql)).foldl InForce.step s =
      ((Directive.ofText? sql).map s.obey).getD s := rfl

theorem after_opening (before : History) (settings : Settings) (claims : Claims) :
    InForce.after (before ++ accepted (opening settings claims)) =
      ⟨some settings.statementTimeout, [], false⟩ := by
  rw [InForce.after_append]
  simp only [opening, setup, accepted, List.map_cons, List.map_nil, List.cons_append,
    List.nil_append, List.foldl_cons, List.foldl_nil, InForce.step, ofText?_timeoutSql,
    ofText?_roleText, ofText?_claimsSql]
  rfl

theorem after_marking (before : History) (settings : Settings) :
    InForce.after (before ++ accepted (marking settings)) =
      { InForce.after before with
        timeout := some settings.countTimeout
        savepoints := ⟨savepoint, (InForce.after before).timeout⟩ ::
          (InForce.after before).savepoints } := by
  rw [InForce.after_append, marking, accepted_append, List.foldl_append, foldl_stating,
    foldl_stating, ofText?_savepoint, ofText?_timeoutSql]
  rfl

theorem StatementRun.said_eq {reply : Except Error Reply}
    (h : StatementRun db sql values before said reply) :
    (∃ f, said = [⟨.prepare sql, f⟩]) ∨
      ∃ arguments f, said = [⟨.prepare sql, none⟩, ⟨.execute sql arguments, f⟩] := by
  cases h with
  | unprepared => exact .inl ⟨_, rfl⟩
  | unbound => exact .inl ⟨_, rfl⟩
  | unexecuted => exact .inr ⟨_, _, rfl⟩
  | executed => exact .inr ⟨_, _, rfl⟩

/-- A statement is prepared and executed in one state of the transaction. -/
theorem StatementRun.after_front {reply : Except Error Reply}
    (h : StatementRun db sql values before said reply) (hsaid : said = front ++ x :: back) :
    InForce.after (before ++ front) = InForce.after before := by
  have hfront : front = [] ∨ front = [⟨.prepare sql, none⟩] := by
    rcases h.said_eq with ⟨f, rfl⟩ | ⟨arguments, f, rfl⟩
    · rcases front with _ | ⟨y, front⟩
      · exact .inl rfl
      · simp at hsaid
    · rcases front with _ | ⟨y, _ | ⟨z, front⟩⟩
      · exact .inl rfl
      · rw [List.cons_append, List.cons.injEq] at hsaid
        rw [← hsaid.1]
        exact .inr rfl
      · simp at hsaid
  rcases hfront with rfl | rfl
  · rw [List.append_nil]
  · rw [InForce.after_append]
    rfl

/-- A count that is over leaves the transaction as it was or as the statement says, or it has failed
there. -/
theorem Counting.after_cases (h : Counting db sql values before said result)
    (hresult : IsSettled result) :
    InForce.after (before ++ said) =
        ((Directive.ofText? sql).map (InForce.after before).obey).getD (InForce.after before) ∨
      (∃ e, result = .error e) ∧
        InForce.after (before ++ said) = { InForce.after before with failed := true } := by
  rw [InForce.after_append]
  obtain ⟨hrun⟩ := h
  cases hrun with
  | unprepared => exact .inr ⟨⟨_, rfl⟩, rfl⟩
  | unbound hprepare hbind =>
      obtain ⟨f, rfl⟩ := hresult _ rfl
      obtain ⟨_, _, hf⟩ := exists_invalidParameter hbind
      cases hf
  | unexecuted => exact .inr ⟨⟨_, rfl⟩, rfl⟩
  | executed => exact .inl rfl

/-- How the statements behind a count conclude it. -/
def conclusion : Except Error Int → Directive
  | .ok _ => .release savepoint
  | .error _ => .rollbackTo savepoint

/-- The savepoints that are left behind a count. -/
def kept (settings : Settings) : Except Error Int → List Savepoint
  | .ok _ => []
  | .error _ => [⟨savepoint, some settings.statementTimeout⟩]

theorem after_settling (before : History) (settings : Settings) (result : Except Error Int) :
    InForce.after (before ++ accepted (settling settings result)) =
      ((InForce.after before).obey (conclusion result)).obey
        (.timeout settings.statementTimeout) := by
  rw [InForce.after_append]
  cases result with
  | ok =>
      rw [settling, accepted_append, List.foldl_append, foldl_stating, foldl_stating,
        ofText?_release, ofText?_timeoutSql]
      rfl
  | error =>
      rw [settling, accepted_append, List.foldl_append, foldl_stating, foldl_stating,
        ofText?_rollbackTo, ofText?_timeoutSql]
      rfl

/-- A count runs under its own timeout, and there is a way back to the timeout from before. -/
def whileCounting (settings : Settings) : InForce :=
  ⟨some settings.countTimeout, [⟨savepoint, some settings.statementTimeout⟩], false⟩

/-- A count that is over leaves the timeout of statements in force and no failure outstanding. -/
theorem Counting.after_settled (h : Counting db sql values before said result)
    (hbefore : InForce.after before = whileCounting settings) (hresult : IsSettled result) :
    ∃ savepoints, InForce.after (before ++ said ++ accepted (settling settings result)) =
        ⟨some settings.statementTimeout, savepoints, false⟩ ∧
      (Directive.ofText? sql = none → savepoints = kept settings result) := by
  rw [after_settling]
  rcases hbefore ▸ h.after_cases hresult with hafter | ⟨⟨e, rfl⟩, hafter⟩
  · rw [hafter]
    cases hsql : Directive.ofText? sql with
    | none =>
        refine ⟨kept settings result, ?_, fun _ => rfl⟩
        cases result with
        | ok => rfl
        | error => rfl
    | some d =>
        have hcounted : ((whileCounting settings).obey d).failed = false :=
          InForce.failed_obey rfl d
        have hfailed := InForce.failed_obey hcounted (conclusion result)
        exact ⟨_, InForce.obey_timeout hfailed _, nofun⟩
  · rw [hafter]
    exact ⟨kept settings (.error e), rfl, fun _ => rfl⟩

/-! ## Asides -/

/-- The commands of a transaction that are none of its query: they open the transaction and end it,
or they stand around a count. -/
inductive IsAside (settings : Settings) (claims : Claims) : Command → Prop where
  | opening {c : Command} (h : c ∈ opening settings claims) : IsAside settings claims c
  | marking {c : Command} (h : c ∈ marking settings) : IsAside settings claims c
  | settling {c : Command} (result : Except Error Int) (h : c ∈ settling settings result) :
      IsAside settings claims c
  | commit : IsAside settings claims .commit
  | rollback : IsAside settings claims .rollback

/-- The statements of these commands. -/
def asideScript (settings : Settings) : List String :=
  setupScript settings ++
    ["SAVEPOINT " ++ savepoint, timeoutSql settings.countTimeout,
      "RELEASE SAVEPOINT " ++ savepoint, "ROLLBACK TO SAVEPOINT " ++ savepoint,
      timeoutSql settings.statementTimeout]

theorem IsAside.mem_asideScript {c : Command} (h : IsAside settings claims c)
    (hsql : c.statement? = some sql) : sql ∈ asideScript settings := by
  have hstating : ∀ other, c ∈ stating other → sql = other := by
    intro other hc
    simp only [stating, List.mem_cons, List.not_mem_nil, or_false] at hc
    rcases hc with rfl | rfl
    · exact (Option.some.inj hsql).symm
    · exact (Option.some.inj hsql).symm
  cases h with
  | opening h => exact List.mem_append_left _ (mem_setupScript h hsql)
  | marking h =>
      rcases List.mem_append.mp h with h | h <;> simp [hstating _ h, asideScript]
  | settling result h =>
      cases result with
      | ok => rcases List.mem_append.mp h with h | h <;> simp [hstating _ h, asideScript]
      | error => rcases List.mem_append.mp h with h | h <;> simp [hstating _ h, asideScript]
  | commit => cases hsql
  | rollback => cases hsql

section Compiled

variable {compiler : Query.Settings} {request : Request} {context : Governance.Context}
  {compiled : Query.Compiled}

theorem head?_of_mem_asideScript (settings : Settings) :
    ∀ sql ∈ asideScript settings, sql.toList.head? = some 'S' ∨ sql.toList.head? = some 'R' := by
  intro sql hsql
  rcases List.mem_append.mp hsql with hsql | hsql
  · exact .inl (head?_of_mem_setupScript settings sql hsql)
  · simp only [List.mem_cons, List.not_mem_nil, or_false] at hsql
    rcases hsql with rfl | rfl | rfl | rfl | rfl <;> simp [head?_timeoutSql]

theorem mainSql_not_mem_asideScript (h : Query.compile compiler request context = .ok compiled)
    (settings : Settings) : mainSql compiled.query ∉ asideScript settings := by
  intro hmem
  have hmain := head?_mainSql h
  rcases head?_of_mem_asideScript settings _ hmem with hhead | hhead
  all_goals
    rw [hhead] at hmain
    exact absurd hmain (by decide)

theorem not_startsWith_of_mem_asideScript (settings : Settings) :
    ∀ sql ∈ asideScript settings, Text.startsWith "SELECT COUNT" sql = false := by
  have hfront : ∀ front back : String, "SELECT COUNT".length ≤ front.length →
      Text.startsWith "SELECT COUNT" front = false →
      Text.startsWith "SELECT COUNT" (front ++ back) = false := by
    intro front back hlength hfront
    rw [← Bool.not_eq_true] at hfront ⊢
    exact mt (fun h => Text.startsWith_append h hlength) hfront
  have htimeout : ∀ milliseconds,
      Text.startsWith "SELECT COUNT" (timeoutSql milliseconds) = false :=
    fun _ => hfront "SET LOCAL statement_timeout = " _ (by decide) (by decide)
  have hrole : Text.startsWith "SELECT COUNT" settings.roleText = false :=
    hfront "SET LOCAL ROLE " _ (by decide) (by decide)
  have hclaims : Text.startsWith "SELECT COUNT" claimsSql = false := by
    have hsecond : ∀ second third fourth : String, Text.startsWith "SELECT COUNT"
        ("SELECT set_config('request.jwt.claim.sub', $1, true), " ++ second ++ third ++ fourth) =
          false := by
      simp [Text.startsWith, List.isPrefixOf]
    exact hsecond _ _ _
  intro sql hsql
  simp only [asideScript, setupScript, List.cons_append, List.nil_append, List.mem_cons,
    List.not_mem_nil, or_false] at hsql
  rcases hsql with rfl | rfl | rfl | rfl | rfl | rfl | rfl | rfl
  · exact htimeout _
  · exact hrole
  · exact hclaims
  · decide
  · exact htimeout _
  · decide
  · decide
  · exact htimeout _

theorem startsWith_countText (h : Query.compile compiler request context = .ok compiled)
    (hcount : compiled.query.countText? = some sql) :
    Text.startsWith "SELECT COUNT" sql = true := by
  obtain ⟨count, hfragments, rfl⟩ := Option.map_eq_some_iff.mp hcount
  obtain ⟨-, target, columns, hread⟩ := Query.compile_count h hfragments
  rw [hread.eq_of_count hfragments, Sql.render_fixed_cons]
  simp [Text.startsWith]

theorem ofText?_countText (h : Query.compile compiler request context = .ok compiled)
    (hcount : compiled.query.countText? = some sql) : Directive.ofText? sql = none := by
  have hfront : ∀ back : String, Directive.ofText? ("SELECT COUNT(*) FROM " ++ back) = none := by
    simp [Directive.ofText?, Text.afterFront?, List.isPrefixOf?]
  obtain ⟨count, hfragments, rfl⟩ := Option.map_eq_some_iff.mp hcount
  obtain ⟨-, target, columns, hread⟩ := Query.compile_count h hfragments
  rw [hread.eq_of_count hfragments, Sql.render_fixed_cons]
  exact hfront _

end Compiled

/-! ## Statements under their timeouts -/

/-- Why the main statement may follow: nothing was counted, or a count is over and was concluded. -/
inductive Cleared (db : Database) (query : Query) (settings : Settings) (before : History) :
    History → History → Prop where
  | uncounted (hcount : query.countText? = none) : Cleared db query settings before [] []
  | settled {sql : String} {counted : History} {result : Except Error Int}
      (hcount : query.countText? = some sql)
      (hcounting : Counting db sql query.parameters before counted result)
      (hresult : IsSettled result)
      (hkept : Directive.ofText? sql = none →
        (InForce.after (before ++ counted ++ accepted (settling settings result))).savepoints =
          kept settings result) :
      Cleared db query settings before counted (accepted (settling settings result))

/-- The parts of what is said in a transaction: it is opened and a count is prepared for, the count,
its conclusion, the main statement, and the end. The count and the main statement run under
the timeouts that are meant for them. -/
structure Timely (db : Database) (query : Query) (settings : Settings) (claims : Claims)
    (before opened counted settled main ended : History) : Prop where
  asides : ∀ x ∈ opened ++ settled ++ ended, IsAside settings claims x.command
  count_timeout : ∀ front x back, counted = front ++ x :: back →
    (∃ sql, query.countText? = some sql ∧ x.command.statement? = some sql) ∧
      InForce.after (before ++ opened ++ front) = whileCounting settings
  main_timeout : ∀ front x back, main = front ++ x :: back →
    x.command.statement? = some (mainSql query) ∧
      ∃ savepoints, InForce.after (before ++ opened ++ counted ++ settled ++ front) =
        ⟨some settings.statementTimeout, savepoints, false⟩
  cleared : main ≠ [] → Cleared db query settings (before ++ opened) counted settled
  halted : ∀ x ∈ opened ++ settled, x.failure ≠ none → main = []

/-- Of a query that was compiled, the main statement and the count stand in their own parts only,
and the count is no directive. -/
theorem Timely.apart {compiler : Query.Settings} {request : Request}
    {context : Governance.Context} {compiled : Query.Compiled}
    {opened counted settled main ended : History}
    (h : Timely db compiled.query settings claims before opened counted settled main ended)
    (hcompiled : Query.compile compiler request context = .ok compiled) :
    (∀ x ∈ opened ++ settled ++ ended ++ counted,
        x.command.statement? ≠ some (mainSql compiled.query)) ∧
      ∀ sql, compiled.query.countText? = some sql →
        Directive.ofText? sql = none ∧
          ∀ x ∈ opened ++ settled ++ ended ++ main, x.command.statement? ≠ some sql := by
  have hne : ∀ sql, compiled.query.countText? = some sql → sql ≠ mainSql compiled.query := by
    rintro sql hcount rfl
    have hmain := head?_mainSql hcompiled
    rw [head?_countText hcompiled hcount] at hmain
    exact absurd hmain (by decide)
  refine ⟨fun x hx hmain => ?_, fun sql hcount =>
    ⟨ofText?_countText hcompiled hcount, fun x hx hsql => ?_⟩⟩
  · rcases List.mem_append.mp hx with hx | hx
    · exact mainSql_not_mem_asideScript hcompiled settings
        ((h.asides x hx).mem_asideScript hmain)
    · obtain ⟨front, back, hcounted⟩ := List.append_of_mem hx
      obtain ⟨⟨sql, hcount, hsql⟩, -⟩ := h.count_timeout front x back hcounted
      exact hne sql hcount (Option.some.inj (hsql.symm.trans hmain))
  · rcases List.mem_append.mp hx with hx | hx
    · have hother := not_startsWith_of_mem_asideScript settings sql
        ((h.asides x hx).mem_asideScript hsql)
      rw [startsWith_countText hcompiled hcount] at hother
      cases hother
    · obtain ⟨front, back, hmain⟩ := List.append_of_mem hx
      have hstatement := (h.main_timeout front x back hmain).1
      exact hne sql hcount (Option.some.inj (hsql.symm.trans hstatement))

theorem isAside_of_accepted {commands : List Command}
    (h : ∀ c ∈ commands, IsAside settings claims c) :
    ∀ x ∈ accepted commands, IsAside settings claims x.command :=
  fun _ hx => h _ (command_mem_of_accepted hx)

theorem isAside_of_stopped {commands front back : List Command} {c : Command} {f : Failure}
    (hsplit : commands = front ++ c :: back) (h : ∀ c ∈ commands, IsAside settings claims c) :
    ∀ x ∈ accepted front ++ [⟨c, some f⟩], IsAside settings claims x.command :=
  fun _ hx => h _ (hsplit ▸ command_mem_of_stopped hx)

theorem after_marked (before : History) (settings : Settings) (claims : Claims) :
    InForce.after (before ++ (accepted (opening settings claims) ++ accepted (marking settings))) =
      whileCounting settings := by
  rw [← List.append_assoc, after_marking, after_opening]
  rfl

/-- The count is prepared and executed under what is in force in front of it. -/
theorem Counting.under (h : Counting db sql values before said result)
    (hcount : query.countText? = some sql)
    (hbefore : InForce.after before = whileCounting settings) (hsaid : said = front ++ x :: back) :
    (∃ sql, query.countText? = some sql ∧ x.command.statement? = some sql) ∧
      InForce.after (before ++ front) = whileCounting settings := by
  obtain ⟨hrun⟩ := h
  have hmem : x ∈ said := by
    rw [hsaid]
    exact List.mem_append_right _ List.mem_cons_self
  exact ⟨⟨sql, hcount, hrun.statement_eq x hmem⟩, (hrun.after_front hsaid).trans hbefore⟩

/-- The main statement is prepared and executed under what is in force in front of it. -/
theorem StatementRun.under {reply : Except Error Reply} {savepoints : List Savepoint}
    (h : StatementRun db (mainSql query) values before said reply)
    (hbefore : InForce.after before = ⟨some settings.statementTimeout, savepoints, false⟩)
    (hsaid : said = front ++ x :: back) :
    x.command.statement? = some (mainSql query) ∧
      ∃ savepoints, InForce.after (before ++ front) =
        ⟨some settings.statementTimeout, savepoints, false⟩ := by
  have hmem : x ∈ said := by
    rw [hsaid]
    exact List.mem_append_right _ List.mem_cons_self
  exact ⟨h.statement_eq x hmem, savepoints, (h.after_front hsaid).trans hbefore⟩

section Parts

variable {opened counted settled main ended : History} {reply : Except Error Reply}

/-- Without a main statement, only the count has to be on time. -/
theorem timely_of_unreached
    (hasides : ∀ x ∈ opened ++ settled ++ ended, IsAside settings claims x.command)
    (hcounted : ∀ front x back, counted = front ++ x :: back →
      (∃ sql, query.countText? = some sql ∧ x.command.statement? = some sql) ∧
        InForce.after (before ++ opened ++ front) = whileCounting settings) :
    Timely db query settings claims before opened counted settled [] ended where
  asides := hasides
  count_timeout := hcounted
  main_timeout _ _ _ h := by simp at h
  cleared h := absurd rfl h
  halted _ _ _ := rfl

/-- Without a count, the main statement follows the opening. -/
theorem timely_of_uncounted (hcount : query.countText? = none)
    (hasides : ∀ x ∈ accepted (opening settings claims) ++ ended, IsAside settings claims x.command)
    (hmain : StatementRun db (mainSql query) query.parameters
      (before ++ accepted (opening settings claims)) main reply) :
    Timely db query settings claims before (accepted (opening settings claims)) [] [] main
      ended where
  asides := by rwa [List.append_nil]
  count_timeout _ _ _ h := by simp at h
  main_timeout front x back h := by
    simp only [List.append_nil]
    exact hmain.under (after_opening before settings claims) h
  cleared _ := .uncounted hcount
  halted x hx hfailure := by
    rw [List.append_nil] at hx
    exact absurd (failure_of_accepted hx) hfailure

/-- Behind a count that is over, the main statement follows its conclusion. -/
theorem timely_of_settled (hcount : query.countText? = some sql)
    (hopened : opened = accepted (opening settings claims) ++ accepted (marking settings))
    (hasides : ∀ x ∈ opened ++ accepted (settling settings result) ++ ended,
      IsAside settings claims x.command)
    (hcounting : Counting db sql query.parameters (before ++ opened) counted result)
    (hresult : IsSettled result)
    (hmain : StatementRun db (mainSql query) query.parameters
      (before ++ opened ++ counted ++ accepted (settling settings result)) main reply) :
    Timely db query settings claims before opened counted (accepted (settling settings result))
      main ended := by
  have hbefore : InForce.after (before ++ opened) = whileCounting settings := by
    rw [hopened, after_marked]
  obtain ⟨savepoints, hafter, hkept⟩ := hcounting.after_settled hbefore hresult
  refine ⟨hasides, fun _ _ _ h => hcounting.under hcount hbefore h,
    fun _ _ _ h => hmain.under hafter h, fun _ => ?_, fun x hx hfailure => ?_⟩
  · refine .settled hcount hcounting hresult fun hsql => ?_
    rw [hafter]
    exact hkept hsql
  · rw [hopened, ← accepted_append, ← accepted_append] at hx
    exact absurd (failure_of_accepted hx) hfailure

end Parts

/-- A transaction that has been opened is timely, however the execution of its query goes. -/
theorem ExecutionRun.timely {ended : History} {outcome : Except Error Outcome}
    (h : ExecutionRun db query settings (before ++ accepted (opening settings claims)) said outcome)
    (hended : ∀ x ∈ ended, IsAside settings claims x.command) :
    ∃ opened counted settled main,
      accepted (opening settings claims) ++ said = opened ++ counted ++ settled ++ main ∧
        Timely db query settings claims before opened counted settled main ended := by
  have hopening : ∀ x ∈ accepted (opening settings claims), IsAside settings claims x.command :=
    isAside_of_accepted fun _ hc => .opening hc
  have hmarked : ∀ x ∈ accepted (opening settings claims) ++ accepted (marking settings),
      IsAside settings claims x.command :=
    List.forall_mem_append.mpr ⟨hopening, isAside_of_accepted fun _ hc => .marking hc⟩
  have hbefore := after_marked before settings claims
  cases h with
  | stopped h _ =>
      cases h with
      | @unmarked _ front back c f hcount hsplit hfront hc =>
          have hstopped := List.forall_mem_append.mpr
            ⟨hopening, isAside_of_stopped (f := f) hsplit fun _ hc => .marking hc⟩
          refine ⟨accepted (opening settings claims) ++ (accepted front ++ [⟨c, some f⟩]), [], [],
            [], by simp only [List.append_nil], timely_of_unreached ?_ (by simp)⟩
          rw [List.append_nil]
          exact List.forall_mem_append.mpr ⟨hstopped, hended⟩
      | @unbound _ counted _ hcount _ hcounted he =>
          rw [List.append_assoc] at hcounted
          refine ⟨accepted (opening settings claims) ++ accepted (marking settings), counted, [],
            [], by simp only [List.append_nil, List.append_assoc],
            timely_of_unreached ?_ fun _ _ _ h => hcounted.under hcount hbefore h⟩
          rw [List.append_nil]
          exact List.forall_mem_append.mpr ⟨hmarked, hended⟩
      | @unsettled _ counted result front back c f hcount _ hcounted hresult hsplit hfront hc =>
          rw [List.append_assoc] at hcounted
          have hstopped := List.forall_mem_append.mpr
            ⟨hmarked, isAside_of_stopped (f := f) hsplit fun _ hc => .settling result hc⟩
          exact ⟨accepted (opening settings claims) ++ accepted (marking settings), counted,
            accepted front ++ [⟨c, some f⟩], [], by simp only [List.append_nil, List.append_assoc],
            timely_of_unreached (List.forall_mem_append.mpr ⟨hstopped, hended⟩)
              fun _ _ _ h => hcounted.under hcount hbefore h⟩
  | @reached front back total reply htotal _ hmain =>
      cases htotal with
      | uncounted hcount =>
          rw [List.append_nil] at hmain
          exact ⟨accepted (opening settings claims), [], [], back,
            by simp only [List.append_nil, List.nil_append],
            timely_of_uncounted hcount (List.forall_mem_append.mpr ⟨hopening, hended⟩) hmain⟩
      | @settled _ counted result hcount _ hcounted hresult hsettled =>
          have hsettling := List.forall_mem_append.mpr
            ⟨hmarked, isAside_of_accepted fun _ hc => IsAside.settling result hc⟩
          rw [List.append_assoc] at hcounted
          have hmain : StatementRun db (mainSql query) query.parameters
              (before ++ (accepted (opening settings claims) ++ accepted (marking settings)) ++
                counted ++ accepted (settling settings result)) back reply := by
            simpa only [List.append_assoc] using hmain
          exact ⟨accepted (opening settings claims) ++ accepted (marking settings), counted,
            accepted (settling settings result), back, by simp only [List.append_assoc],
            timely_of_settled hcount rfl (List.forall_mem_append.mpr ⟨hsettling, hended⟩) hcounted
              hresult hmain⟩

/-- Whatever the database answers, the count of a query runs under the timeout of counts, and its
main statement under the timeout of statements and with no failed statement outstanding. -/
theorem runScoped_timely (embed : Error → ε) (db : Database) (query : Query) (settings : Settings)
    (claims : Claims) (check : Outcome → Except ε α) (before : History) :
    ∃ opened counted settled main ended,
      (runScoped embed (some db) settings claims (executeChecked embed query settings check)
          before).2 = before ++ (opened ++ counted ++ settled ++ main ++ ended) ∧
        Timely db query settings claims before opened counted settled main ended := by
  obtain ⟨said, hafter, hran⟩ := runScoped_ran embed (some db) settings claims
    (executeChecked_meets embed query settings check) before
  rw [hafter]
  cases hran with
  | @unopened opened ended _ hopened hended =>
      refine ⟨opened, [], [], [], ended, by simp only [List.append_nil],
        timely_of_unreached ?_ (by simp)⟩
      rw [List.append_nil]
      exact List.forall_mem_append.mpr
        ⟨fun x hx => .opening (hopened x hx), fun x hx => hended x hx ▸ .rollback⟩
  | @opened _ executed ended _ _ hpool hpost _ hended =>
      cases hpool
      obtain ⟨outcome, hrun, -⟩ := hpost
      have hasides : ∀ x ∈ ended, IsAside settings claims x.command := by
        intro x hx
        rcases hended x hx with hcommand | hcommand
        · exact hcommand ▸ .commit
        · exact hcommand ▸ .rollback
      obtain ⟨opened, counted, settled, main, hparts, htimely⟩ := hrun.timely hasides
      exact ⟨opened, counted, settled, main, ended, by rw [hparts], htimely⟩

end TableGateway.Session
