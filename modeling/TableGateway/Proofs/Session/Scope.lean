import TableGateway.Proofs.Database.Conversation
import TableGateway.Session.Basic

/-! # Transactions fail closed

The body of a transaction is run once, after every command of the opening has succeeded, or not at
all. -/

namespace TableGateway.Session

open Database

variable {ε α : Type} {embed : Error → ε} {db : Database} {settings : Settings} {claims : Claims}
  {body : Database → Conversation ε α} {before : History}

/-! ## Openings -/

/-- The statement that takes on the role of the settings. -/
def Settings.roleText (settings : Settings) : String :=
  "SET LOCAL ROLE " ++ Sql.Identifier.quoted settings.role

/-- The commands that set up a transaction, in order: the time of its statements, the role, the
claims. -/
def setup (settings : Settings) (claims : Claims) : List Command :=
  [.prepare (timeoutSql settings.statementTimeout),
    .execute (timeoutSql settings.statementTimeout) [],
    .prepare settings.roleText, .execute settings.roleText [],
    .prepare claimsSql, .execute claimsSql (claimsArguments claims)]

/-- The commands that come before the body of a transaction, in order. -/
def opening (settings : Settings) (claims : Claims) : List Command :=
  [.connect, .begin] ++ setup settings claims

theorem isStatement_of_mem_setup {c : Command} (h : c ∈ setup settings claims) :
    c.IsStatement := by
  simp only [setup, List.mem_cons, List.not_mem_nil, or_false] at h
  rcases h with rfl | rfl | rfl | rfl | rfl | rfl <;> trivial

theorem establish_eq_sendAll (db : Database) (settings : Settings) (claims : Claims) :
    establish db settings settings.roleText claims = db.sendAll (setup settings claims) := by
  simp only [establish, runStatement, setup, Database.sendAll, Conversation.bind_assoc]

theorem roleSql_of_isValid (h : Sql.Identifier.isValid settings.role = true) :
    roleSql settings.role = .ok settings.roleText :=
  if_pos h

theorem roleSql_of_not_isValid (h : Sql.Identifier.isValid settings.role = false) :
    roleSql settings.role = .error .invalidRole :=
  if_neg (by simp [h])

/-! ## Ends -/

/-- How a transaction ends whose body is over: it is committed if the body has a result, and rolled
back if it has none or cannot be committed. -/
inductive Finished (embed : Error → ε) (db : Database) :
    Except ε α → History → Except ε α × History → Prop where
  | committed {a : α} {after : History} {u : Unit} (h : db.respond after .commit = .ok u) :
      Finished embed db (.ok a) after (.ok a, after ++ [⟨.commit, none⟩])
  | uncommitted {a : α} {after : History} {f : Failure} (g : Option Failure)
      (h : db.respond after .commit = .error f) :
      Finished embed db (.ok a) after
        (.error (embed (.database f)), after ++ [⟨.commit, some f⟩, ⟨.rollback, g⟩])
  | failed {e : ε} {after said : History} (h : RolledBack said) :
      Finished embed db (.error e) after (.error e, after ++ said)

/-- What is left of a transaction whose body is over. -/
def finish (embed : Error → ε) (db : Database) : Except ε α → Conversation ε α
  | .error e => do
      db.rollback
      Conversation.fail e
  | .ok a => do
      (db.commit).mapError fun f => embed (.database f)
      return a

theorem finished (embed : Error → ε) (db : Database) (outcome : Except ε α) (after : History) :
    Finished embed db outcome after (finish embed db outcome after) := by
  cases outcome with
  | error e =>
      obtain ⟨said, hsaid, hrun⟩ := db.rollback_run (ε := ε) after
      rw [finish, Conversation.bind_of_ok hrun]
      exact .failed hsaid
  | ok a =>
      rw [finish]
      cases h : db.respond after .commit with
      | ok u =>
          rw [Conversation.bind_of_ok (Conversation.mapError_of_ok (commit_of_ok h) _)]
          exact .committed h
      | error f =>
          obtain ⟨g, hrun⟩ := commit_of_error h
          rw [Conversation.bind_of_error (Conversation.mapError_of_error hrun _)]
          exact .uncommitted g h

theorem Finished.exists_rest {outcome : Except ε α} {run : Except ε α × History}
    (h : Finished embed db outcome before run) :
    ∃ rest, run.2 = before ++ rest ∧ ∀ x ∈ rest, x.command = .commit ∨ x.command = .rollback := by
  cases h with
  | committed => exact ⟨_, rfl, by simp⟩
  | uncommitted => exact ⟨_, rfl, by simp⟩
  | failed h => exact ⟨_, rfl, fun x hx => .inr (h.command_eq hx)⟩

/-- A transaction has the result of its body or none. -/
theorem Finished.eq_ok {outcome : Except ε α} {a : α} {after : History}
    (h : Finished embed db outcome before (.ok a, after)) : outcome = .ok a := by
  cases h with
  | committed => rfl

/-! ## Transactions -/

theorem runScoped_of_not_isValid (pool : Option Database)
    (h : Sql.Identifier.isValid settings.role = false) :
    runScoped embed pool settings claims body before = (.error (embed .invalidRole), before) := by
  rw [runScoped, roleSql_of_not_isValid h]
  rfl

theorem runScoped_none (h : Sql.Identifier.isValid settings.role = true) :
    runScoped embed none settings claims body before =
      (.error (embed .projectUnreachable), before) := by
  rw [runScoped, roleSql_of_isValid h]
  rfl

theorem runScoped_of_not_connected (hrole : Sql.Identifier.isValid settings.role = true)
    {f : Failure} (h : db.respond before .connect = .error f) :
    runScoped embed (some db) settings claims body before =
      (.error (embed (.ofConnecting f.ofConnecting)), before ++ [⟨.connect, some f⟩]) := by
  have hacquire : db.acquire before = (.error f.ofConnecting, before ++ [⟨.connect, some f⟩]) :=
    Conversation.mapError_of_error (Database.send_of_error h) _
  rw [runScoped, roleSql_of_isValid hrole]
  exact Conversation.bind_of_error (Conversation.mapError_of_error hacquire _) _

theorem runScoped_of_not_begun (hrole : Sql.Identifier.isValid settings.role = true)
    {f : Failure} (hconnect : db.Accepts before [.connect])
    (h : db.respond (before ++ accepted [.connect]) .begin = .error f) :
    runScoped embed (some db) settings claims body before =
      (.error (embed (.database f)), before ++ accepted [.connect] ++ [⟨.begin, some f⟩]) := by
  obtain ⟨⟨a, ha⟩, -⟩ := hconnect
  have hacquire : db.acquire before = (.ok a, before ++ accepted [.connect]) :=
    Conversation.mapError_of_ok (Database.send_of_ok ha) _
  rw [runScoped, roleSql_of_isValid hrole]
  refine (Conversation.bind_of_ok (Conversation.mapError_of_ok hacquire _) _).trans ?_
  exact Conversation.bind_of_error (Conversation.mapError_of_error (Database.send_of_error h) _) _

/-- With a connection and a transaction, what is left is to set up and to run the body. -/
theorem runScoped_of_begun (hrole : Sql.Identifier.isValid settings.role = true)
    (hbegin : db.Accepts before [.connect, .begin]) :
    runScoped embed (some db) settings claims body before =
      ((db.sendAll (setup settings claims)).attempt >>= fun
        | .error f => finish embed db (.error (embed (.database f)))
        | .ok () => (body db).attempt >>= finish embed db)
        (before ++ accepted [.connect, .begin]) := by
  obtain ⟨⟨a, ha⟩, ⟨b, hb⟩, -⟩ := hbegin
  have hacquire : db.acquire before = (.ok a, before ++ [⟨.connect, none⟩]) :=
    Conversation.mapError_of_ok (Database.send_of_ok ha) _
  have happend : before ++ accepted [.connect, .begin] =
      before ++ [⟨.connect, none⟩] ++ [⟨.begin, none⟩] := by
    rw [List.append_assoc]
    rfl
  rw [runScoped, roleSql_of_isValid hrole, happend, ← establish_eq_sendAll]
  refine (Conversation.bind_of_ok (Conversation.mapError_of_ok hacquire _) _).trans ?_
  exact Conversation.bind_of_ok (Conversation.mapError_of_ok (Database.send_of_ok hb) _) _

theorem runScoped_of_not_established (hrole : Sql.Identifier.isValid settings.role = true)
    {front back : List Command} {c : Command} {f : Failure}
    (hsetup : setup settings claims = front ++ c :: back)
    (hfront : db.Accepts before ([.connect, .begin] ++ front))
    (hc : db.respond (before ++ accepted ([.connect, .begin] ++ front)) c = .error f) :
    runScoped embed (some db) settings claims body before =
      finish embed db (.error (embed (.database f)))
        (before ++ accepted ([.connect, .begin] ++ front) ++ [⟨c, some f⟩]) := by
  obtain ⟨hbegin, hfront⟩ := accepts_append.mp hfront
  rw [accepted_append, ← List.append_assoc] at hc ⊢
  rw [runScoped_of_begun hrole hbegin, Conversation.attempt_bind_apply, hsetup,
    sendAll_of_stopped hfront hc]

theorem runScoped_of_accepts (hrole : Sql.Identifier.isValid settings.role = true)
    (h : db.Accepts before (opening settings claims)) :
    runScoped embed (some db) settings claims body before =
      finish embed db (body db (before ++ accepted (opening settings claims))).1
        (body db (before ++ accepted (opening settings claims))).2 := by
  obtain ⟨hbegin, hsetup⟩ := accepts_append.mp h
  rw [opening, accepted_append, ← List.append_assoc, runScoped_of_begun hrole hbegin,
    Conversation.attempt_bind_apply, sendAll_of_accepts hsetup]
  exact Conversation.attempt_bind_apply ..

/-- An opening that does not succeed as a whole stops at the connection, at the start of the
transaction, or while the transaction is set up. -/
theorem opening_cases (db : Database) (settings : Settings) (claims : Claims) (before : History) :
    db.Accepts before (opening settings claims) ∨
    (∃ f, db.respond before .connect = .error f) ∨
    (∃ f, db.Accepts before [.connect] ∧
      db.respond (before ++ accepted [.connect]) .begin = .error f) ∨
    ∃ front c back f, setup settings claims = front ++ c :: back ∧
      db.Accepts before ([.connect, .begin] ++ front) ∧
      db.respond (before ++ accepted ([.connect, .begin] ++ front)) c = .error f := by
  rcases db.accepts_or_stopped before (opening settings claims) with
    hall | ⟨front, c, back, f, hsplit, hfront, hc⟩
  · exact .inl hall
  -- how many commands stand in front says which one failed
  rcases front with _ | ⟨_, _ | ⟨_, front⟩⟩ <;>
    simp only [opening, List.cons_append, List.nil_append, List.cons.injEq] at hsplit
  · obtain ⟨rfl, -⟩ := hsplit
    rw [accepted_nil, List.append_nil] at hc
    exact .inr (.inl ⟨f, hc⟩)
  · obtain ⟨rfl, rfl, -⟩ := hsplit
    exact .inr (.inr (.inl ⟨f, hfront, hc⟩))
  · obtain ⟨rfl, rfl, hsetup⟩ := hsplit
    exact .inr (.inr (.inr ⟨front, c, back, f, hsetup, hfront, hc⟩))

/-! ## Failing closed -/

/-- A transaction, as a function of its body, fails closed. Whatever stops it before the body has a
result of its own that no body changes, and a body that is run is run once, on a history to which
the opening was added as a whole. -/
structure FailsClosed (embed : Error → ε) (pool : Option Database) (settings : Settings)
    (claims : Claims) (before : History)
    (run : (Database → Conversation ε α) → Except ε α × History) : Prop where
  invalidRole : Sql.Identifier.isValid settings.role = false →
    ∀ body, run body = (.error (embed .invalidRole), before)
  unreachable : Sql.Identifier.isValid settings.role = true → pool = none →
    ∀ body, run body = (.error (embed .projectUnreachable), before)
  notAcquired : Sql.Identifier.isValid settings.role = true → ∀ db f, pool = some db →
    db.respond before .connect = .error f →
    ∀ body, run body =
      (.error (embed (.ofConnecting f.ofConnecting)), before ++ [⟨.connect, some f⟩])
  notBegun : Sql.Identifier.isValid settings.role = true → ∀ db f, pool = some db →
    db.Accepts before [.connect] → db.respond (before ++ accepted [.connect]) .begin = .error f →
    ∀ body, run body =
      (.error (embed (.database f)), before ++ accepted [.connect] ++ [⟨.begin, some f⟩])
  notEstablished : Sql.Identifier.isValid settings.role = true → ∀ db front c back f,
    pool = some db → setup settings claims = front ++ c :: back →
    db.Accepts before ([.connect, .begin] ++ front) →
    db.respond (before ++ accepted ([.connect, .begin] ++ front)) c = .error f →
    ∃ said, RolledBack said ∧ ∀ body, run body =
      (.error (embed (.database f)),
        before ++ accepted ([.connect, .begin] ++ front) ++ ⟨c, some f⟩ :: said)
  entered : Sql.Identifier.isValid settings.role = true → ∀ db, pool = some db →
    db.Accepts before (opening settings claims) → ∀ body outcome after,
    body db (before ++ accepted (opening settings claims)) = (outcome, after) →
    Finished embed db outcome after (run body)
  guarded : ∀ body other, run body ≠ run other → Sql.Identifier.isValid settings.role = true ∧
    ∃ db, pool = some db ∧ db.Accepts before (opening settings claims)

theorem runScoped_eq_or_accepts (embed : Error → ε) (pool : Option Database) (settings : Settings)
    (claims : Claims) (before : History) (body other : Database → Conversation ε α) :
    runScoped embed pool settings claims body before =
        runScoped embed pool settings claims other before ∨
      Sql.Identifier.isValid settings.role = true ∧
        ∃ db, pool = some db ∧ db.Accepts before (opening settings claims) := by
  cases hrole : Sql.Identifier.isValid settings.role with
  | false =>
      rw [runScoped_of_not_isValid pool hrole, runScoped_of_not_isValid pool hrole]
      exact .inl rfl
  | true =>
      cases pool with
      | none =>
          rw [runScoped_none hrole, runScoped_none hrole]
          exact .inl rfl
      | some db =>
          rcases opening_cases db settings claims before with
            hall | ⟨f, hf⟩ | ⟨f, hconnect, hf⟩ | ⟨front, c, back, f, hsetup, hfront, hf⟩
          · exact .inr ⟨rfl, db, rfl, hall⟩
          · rw [runScoped_of_not_connected hrole hf, runScoped_of_not_connected hrole hf]
            exact .inl rfl
          · rw [runScoped_of_not_begun hrole hconnect hf, runScoped_of_not_begun hrole hconnect hf]
            exact .inl rfl
          · rw [runScoped_of_not_established hrole hsetup hfront hf,
              runScoped_of_not_established hrole hsetup hfront hf]
            exact .inl rfl

theorem runScoped_failsClosed (embed : Error → ε) (pool : Option Database) (settings : Settings)
    (claims : Claims) (before : History) :
    FailsClosed (α := α) embed pool settings claims before fun body =>
      runScoped embed pool settings claims body before where
  invalidRole hrole _ := runScoped_of_not_isValid pool hrole
  unreachable hrole hpool _ := hpool ▸ runScoped_none hrole
  notAcquired hrole db f hpool hf _ := hpool ▸ runScoped_of_not_connected hrole hf
  notBegun hrole db f hpool hconnect hf _ := hpool ▸ runScoped_of_not_begun hrole hconnect hf
  notEstablished hrole db front c back f hpool hsetup hfront hf := by
    obtain ⟨said, hsaid, hrun⟩ := db.rollback_run (ε := ε)
      (before ++ accepted ([.connect, .begin] ++ front) ++ [⟨c, some f⟩])
    refine ⟨said, hsaid, fun body => ?_⟩
    rw [hpool, runScoped_of_not_established hrole hsetup hfront hf, finish,
      Conversation.bind_of_ok hrun, List.append_assoc _ [_] said]
    rfl
  entered hrole db hpool hopening body outcome after hbody := by
    rw [hpool, runScoped_of_accepts hrole hopening, hbody]
    exact finished embed db outcome after
  guarded body other h :=
    (runScoped_eq_or_accepts embed pool settings claims before body other).resolve_left h

/-- Why the claims are not set. -/
def claimsRefusal : Failure :=
  .server ⟨"42501", "permission denied", none, none, none⟩

/-- A database that sets no claims. -/
def claimless : Database where
  respond _
    | .connect => .ok ()
    | .begin => .ok ()
    | .commit => .ok ()
    | .rollback => .ok ()
    | .prepare _ => .ok []
    | .execute sql _ => if sql = claimsSql then .error claimsRefusal else .ok ⟨"row", [], 0⟩

/-- What sets up the transaction of a reader before its claims are set. -/
def readerSetup : List Command :=
  [.prepare "SET LOCAL statement_timeout = 5000",
    .execute "SET LOCAL statement_timeout = 5000" [],
    .prepare "SET LOCAL ROLE \"reader\"", .execute "SET LOCAL ROLE \"reader\"" [],
    .prepare claimsSql]

/-- After the claims are refused nothing is said but that the transaction is rolled back. -/
theorem runScoped_failsClosed_claimless :
    claimsSql = "SELECT set_config('request.jwt.claim.sub', $1, true), "
      ++ "set_config('request.jwt.claim.role', $2, true), "
      ++ "set_config('request.jwt.claim.email', $3, true), "
      ++ "set_config('request.jwt.claims', $4, true)" ∧
    ∃ said, RolledBack said ∧ ∀ body : Database → Conversation Error Unit,
      runScoped id (some claimless) ⟨"reader", 5000, 100⟩ ⟨"u", "reader", "u@x"⟩ body [] =
        (.error (.database claimsRefusal), accepted ([.connect, .begin] ++ readerSetup) ++
          ⟨.execute claimsSql [.ofText "u", .ofText "reader", .ofText "u@x",
            .ofText "\x7b\"sub\":\"u\",\"role\":\"reader\",\"email\":\"u@x\"\x7d"],
            some claimsRefusal⟩ :: said) := by
  have htimeout : timeoutSql 5000 = "SET LOCAL statement_timeout = 5000" := by decide +kernel
  have hrole : (Settings.mk "reader" 5000 100).roleText = "SET LOCAL ROLE \"reader\"" := by
    decide +kernel
  have hclaims : (Claims.mk "u" "reader" "u@x").toJson.text =
      "\x7b\"sub\":\"u\",\"role\":\"reader\",\"email\":\"u@x\"\x7d" := by decide +kernel
  have hsetup : setup ⟨"reader", 5000, 100⟩ ⟨"u", "reader", "u@x"⟩ = readerSetup ++
      [.execute claimsSql [.ofText "u", .ofText "reader", .ofText "u@x",
        .ofText "\x7b\"sub\":\"u\",\"role\":\"reader\",\"email\":\"u@x\"\x7d"]] := by
    simp only [setup, htimeout, hrole, claimsArguments, hclaims]
    rfl
  have htexts : "SET LOCAL statement_timeout = 5000" ≠ claimsSql ∧
      "SET LOCAL ROLE \"reader\"" ≠ claimsSql := by decide +kernel
  have hother {sql : String} (h : sql ≠ claimsSql) (before : History) :
      ∃ a, claimless.respond before (.execute sql []) = .ok a := ⟨⟨"row", [], 0⟩, if_neg h⟩
  have hrefused (arguments : List Parameter) (before : History) :
      claimless.respond before (.execute claimsSql arguments) = .error claimsRefusal := by
    simp [claimless]
  have haccepts : claimless.Accepts [] ([.connect, .begin] ++ readerSetup) :=
    ⟨⟨_, rfl⟩, ⟨_, rfl⟩, ⟨_, rfl⟩, hother htexts.1 _, ⟨_, rfl⟩, hother htexts.2 _, ⟨_, rfl⟩,
      trivial⟩
  have hclosed := runScoped_failsClosed (α := Unit) id (some claimless) ⟨"reader", 5000, 100⟩
    ⟨"u", "reader", "u@x"⟩ []
  obtain ⟨said, hsaid, hrun⟩ := hclosed.notEstablished (by decide) claimless readerSetup _ []
    claimsRefusal rfl hsetup haccepts (hrefused _ _)
  exact ⟨by decide +kernel, said, hsaid, hrun⟩

end TableGateway.Session
