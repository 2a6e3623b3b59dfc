import TableGateway.Proofs.Result
import TableGateway.Proofs.Session.Execution
import TableGateway.Proofs.Session.Scope

/-! # How transactions open

With a plain role, the opening of a transaction hangs on the settings, the claims and the database
alone, and no failure says that the role is invalid. -/

namespace TableGateway.Session

open Database

variable {ε α : Type} {embed : Error → ε} {db : Database} {pool : Option Database}
  {settings : Settings} {claims : Claims} {body : Database → Conversation ε α}
  {before said other : History}

/-! ## Invalid roles -/

theorem bindFrom_ne_invalidRole {index : Nat} {types : List String} {values : List Sql.Value} :
    bindFrom index types values ≠ .error .invalidRole := by
  intro h
  obtain ⟨_, _, he⟩ := exists_invalidParameter h
  cases he

theorem rows_ne_invalidRole {reply : Reply} : rows reply ≠ .error .invalidRole := by
  intro h
  unfold rows at h
  split at h
  case h_1 => cases h
  case h_2 =>
    split at h
    case h_1 => cases h
    case h_2 => cases h

/-- What ends an execution says nothing of the role. -/
theorem Fault.ne_invalidRole {e : Error} (h : Fault db before said e) : e ≠ .invalidRole := by
  rintro rfl
  cases h with
  | unbound _ hbind => exact bindFrom_ne_invalidRole hbind
  | unreadable _ hrows => exact rows_ne_invalidRole hrows

theorem Error.ofConnecting_ne_invalidRole (f : Failure) : Error.ofConnecting f ≠ .invalidRole := by
  unfold ofConnecting
  split
  case isTrue => nofun
  case isFalse => nofun

theorem Finished.ne_error {outcome : Except ε α} {run : Except ε α × History} {e : ε}
    (h : Finished embed db outcome before run) (houtcome : outcome ≠ .error e)
    (hembed : ∀ f, embed (.database f) ≠ e) : run.1 ≠ .error e := by
  cases h with
  | committed => nofun
  | uncommitted =>
      intro he
      exact hembed _ (Except.error.inj he)
  | failed => exact houtcome

theorem runScoped_ne_invalidRole (hrole : Sql.Identifier.isValid settings.role = true)
    (hembed : ∀ cause, embed cause = embed .invalidRole → cause = .invalidRole)
    (hbody : ∀ db before, (body db before).1 ≠ .error (embed .invalidRole))
    (pool : Option Database) (before : History) :
    (runScoped embed pool settings claims body before).1 ≠ .error (embed .invalidRole) := by
  have hother : ∀ cause, cause ≠ .invalidRole →
      (.error (embed cause) : Except ε α) ≠ .error (embed .invalidRole) :=
    fun cause hcause h => hcause (hembed cause (Except.error.inj h))
  have hdatabase : ∀ f, embed (.database f) ≠ embed .invalidRole := by
    intro f h
    cases hembed _ h
  cases pool with
  | none =>
      rw [runScoped_none hrole]
      exact hother _ nofun
  | some db =>
      rcases opening_cases db settings claims before with
        hall | ⟨f, hf⟩ | ⟨f, hconnect, hf⟩ | ⟨front, c, back, f, hsetup, hfront, hf⟩
      · rw [runScoped_of_accepts hrole hall]
        exact (finished embed db _ _).ne_error (hbody db _) hdatabase
      · rw [runScoped_of_not_connected hrole hf]
        exact hother _ (Error.ofConnecting_ne_invalidRole _)
      · rw [runScoped_of_not_begun hrole hconnect hf]
        exact hother _ nofun
      · rw [runScoped_of_not_established hrole hsetup hfront hf]
        exact (finished embed db _ _).ne_error (hother _ nofun) hdatabase

/-! ## Openings -/

/-- What is said of the opening of a transaction: nothing without a database, and otherwise all of
its commands, or those up to the first one that fails. -/
inductive Opened (pool : Option Database) (settings : Settings) (claims : Claims)
    (before : History) : History → Prop where
  | unreachable (hpool : pool = none) : Opened pool settings claims before []
  | whole {db : Database} (hpool : pool = some db)
      (h : db.Accepts before (opening settings claims)) :
      Opened pool settings claims before (accepted (opening settings claims))
  | stopped {db : Database} {front back : List Command} {c : Command} {f : Failure}
      (hpool : pool = some db) (hsplit : opening settings claims = front ++ c :: back)
      (hfront : db.Accepts before front)
      (hc : db.respond (before ++ accepted front) c = .error f) :
      Opened pool settings claims before (accepted front ++ [⟨c, some f⟩])

/-- The opening is what the database makes of its commands, sent one after the other. -/
theorem Opened.sendAll_eq (h : Opened (some db) settings claims before said) :
    (db.sendAll (opening settings claims) before).2 = before ++ said := by
  cases h with
  | unreachable hpool => cases hpool
  | whole hpool hall =>
      cases hpool
      rw [sendAll_of_accepts hall]
  | stopped hpool hsplit hfront hc =>
      cases hpool
      rw [hsplit, sendAll_of_stopped hfront hc, List.append_assoc]

theorem Opened.unique (h : Opened pool settings claims before said)
    (hother : Opened pool settings claims before other) : other = said := by
  cases pool with
  | none =>
      cases h with
      | unreachable =>
          cases hother with
          | unreachable => rfl
          | whole hpool => cases hpool
          | stopped hpool => cases hpool
      | whole hpool => cases hpool
      | stopped hpool => cases hpool
  | some db =>
      have hsame := hother.sendAll_eq.symm.trans h.sendAll_eq
      exact List.append_cancel_left hsame

theorem Finished.exists_rolledBack {e : ε} {run : Except ε α × History}
    (h : Finished embed db (.error e) before run) :
    ∃ rest, run.2 = before ++ rest ∧ RolledBack rest := by
  cases h with
  | failed h => exact ⟨_, rfl, h⟩

/-- A transaction begins with its opening. Behind one that stopped it is rolled back at most. -/
theorem runScoped_opened (hrole : Sql.Identifier.isValid settings.role = true)
    (hbody : ∀ db, (body db).Meets fun _ _ _ => True) (pool : Option Database)
    (before : History) :
    ∃ opened rest, Opened pool settings claims before opened ∧
      (runScoped embed pool settings claims body before).2 = before ++ opened ++ rest ∧
      (opened = accepted (opening settings claims) ∨ rest = [] ∨ RolledBack rest) := by
  cases pool with
  | none =>
      refine ⟨[], [], .unreachable rfl, ?_, .inr (.inl rfl)⟩
      rw [runScoped_none hrole, List.append_nil, List.append_nil]
  | some db =>
      rcases opening_cases db settings claims before with
        hall | ⟨f, hf⟩ | ⟨f, hconnect, hf⟩ | ⟨front, c, back, f, hsetup, hfront, hf⟩
      · obtain ⟨said, hsaid, -⟩ := hbody db (before ++ accepted (opening settings claims))
        obtain ⟨rest, hrest, -⟩ := (finished embed db
          (body db (before ++ accepted (opening settings claims))).1
          (body db (before ++ accepted (opening settings claims))).2).exists_rest
        refine ⟨_, said ++ rest, .whole rfl hall, ?_, .inl rfl⟩
        rw [runScoped_of_accepts hrole hall, hrest, hsaid, List.append_assoc]
      · have hstopped : Opened (some db) settings claims before [⟨.connect, some f⟩] := by
          rw [← List.append_nil before] at hf
          exact .stopped rfl (List.nil_append _).symm trivial hf
        refine ⟨_, [], hstopped, ?_, .inr (.inl rfl)⟩
        rw [runScoped_of_not_connected hrole hf, List.append_nil]
      · have hstopped : Opened (some db) settings claims before
            (accepted [.connect] ++ [⟨.begin, some f⟩]) :=
          .stopped rfl (List.singleton_append).symm hconnect hf
        refine ⟨_, [], hstopped, ?_, .inr (.inl rfl)⟩
        rw [runScoped_of_not_begun hrole hconnect hf, List.append_nil, List.append_assoc]
      · have hsplit : opening settings claims = [.connect, .begin] ++ front ++ c :: back := by
          rw [opening, hsetup, List.append_assoc]
        obtain ⟨rest, hrest, hback⟩ := (finished embed db (.error (embed (.database f)))
          (before ++ accepted ([.connect, .begin] ++ front) ++ [⟨c, some f⟩])).exists_rolledBack
            (α := α)
        refine ⟨_, rest, .stopped rfl hsplit hfront hf, ?_, .inr (.inr hback)⟩
        rw [runScoped_of_not_established hrole hsetup hfront hf, hrest, List.append_assoc before]

/-- How a transaction can go whose body is as the postcondition says: it is not opened, and what was
begun is rolled back, or it is opened as a whole and ends as the outcome of the body says. -/
inductive Ran (embed : Error → ε) (pool : Option Database) (settings : Settings) (claims : Claims)
    (post : Database → History → History → Except ε α → Prop) (before : History) :
    Except ε α → History → Prop where
  | unopened {opened ended : History} {r : Except ε α}
      (hopened : ∀ x ∈ opened, x.command ∈ opening settings claims)
      (hended : ∀ x ∈ ended, x.command = .rollback) :
      Ran embed pool settings claims post before r (opened ++ ended)
  | opened {db : Database} {said ended : History} {outcome r : Except ε α} (hpool : pool = some db)
      (hpost : post db (before ++ accepted (opening settings claims)) said outcome)
      (hfinished : Finished embed db outcome (before ++ accepted (opening settings claims) ++ said)
        (r, before ++ accepted (opening settings claims) ++ said ++ ended))
      (hended : ∀ x ∈ ended, x.command = .commit ∨ x.command = .rollback) :
      Ran embed pool settings claims post before r
        (accepted (opening settings claims) ++ said ++ ended)

theorem runScoped_ran (embed : Error → ε) (pool : Option Database) (settings : Settings)
    (claims : Claims) {post : Database → History → History → Except ε α → Prop}
    (hbody : ∀ db, (body db).Meets (post db)) (before : History) :
    ∃ said, (runScoped embed pool settings claims body before).2 = before ++ said ∧
      Ran embed pool settings claims post before
        (runScoped embed pool settings claims body before).1 said := by
  cases hrole : Sql.Identifier.isValid settings.role with
  | false =>
      rw [runScoped_of_not_isValid pool hrole]
      exact ⟨[] ++ [], (List.append_nil before).symm, .unopened (by simp) (by simp)⟩
  | true =>
      have hmeets : ∀ db, (body db).Meets fun _ _ _ => True :=
        fun db => (hbody db).mono fun _ _ _ _ => trivial
      have hopened : ∃ opened rest, Opened pool settings claims before opened ∧
          (runScoped embed pool settings claims body before).2 = before ++ opened ++ rest ∧
          (opened = accepted (opening settings claims) ∨ rest = [] ∨ RolledBack rest) :=
        runScoped_opened hrole hmeets pool before
      obtain ⟨opened, rest, hopened, hafter, hrest⟩ := hopened
      cases hopened with
      | unreachable hpool =>
          rw [hpool, runScoped_none hrole]
          exact ⟨[] ++ [], (List.append_nil before).symm, .unopened (by simp) (by simp)⟩
      | @whole db hpool hall =>
          subst hpool
          obtain ⟨said, hsaid, hpost⟩ := hbody db (before ++ accepted (opening settings claims))
          have hfinished := finished embed db
            (body db (before ++ accepted (opening settings claims))).1
            (body db (before ++ accepted (opening settings claims))).2
          obtain ⟨ended, hrun, hended⟩ := hfinished.exists_rest
          rw [← runScoped_of_accepts hrole hall, hsaid] at hfinished hrun
          refine ⟨accepted (opening settings claims) ++ said ++ ended, ?_,
            .opened rfl hpost ?_ hended⟩
          · rw [hrun]
            simp only [List.append_assoc]
          · rw [← hrun]
            exact hfinished
      | @stopped _ front back c f hpool hsplit hfront hc =>
          refine ⟨accepted front ++ [⟨c, some f⟩] ++ rest, ?_, .unopened ?_ ?_⟩
          · rw [hafter, List.append_assoc before]
          · exact fun x hx => hsplit ▸ command_mem_of_stopped hx
          · intro x hx
            rcases hrest with hwhole | rfl | hrest
            · have hmem : (⟨c, some f⟩ : Exchange) ∈ accepted (opening settings claims) := by
                rw [← hwhole]
                simp
              cases failure_of_accepted hmem
            · cases hx
            · exact hrest.command_eq hx

end TableGateway.Session
