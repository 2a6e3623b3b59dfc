import TableGateway.Audit.Table
import TableGateway.Database.Script
import TableGateway.Proofs.Session.Statements

/-! # The table of events

A sink creates its table before it inserts into it, and does so once. Each batch has a transaction
of its own, of which the table gets all events or none. -/

namespace TableGateway

open Database (Closing Command Exchange Failure History accepted accepted_append
  command_mem_of_accepted failure_of_accepted)

namespace Audit.Table

open Conversation (Sent)

variable {name : String} {ready ready' : Bool} {events : List Event} {said earlier : History}
  {outcome : Except Failure Unit}

/-! ## Fields -/

/-- What the table has of an event, by column. -/
def fields (e : Event) : List (String × Parameter) :=
  [("event_id", .scalar .uuid (some (.uuid e.id))),
    ("occurred_at", .scalar .timestamptz (some (.time e.occurredAt))),
    ("project_id", .ofText e.incident.projectId),
    ("table_name", .ofText e.incident.tableName),
    ("column_name", .ofText e.incident.columnName),
    ("attempted_value", .ofText e.incident.attemptedValue),
    ("source_ip", .scalar .text (e.incident.sourceAddress.map .text)),
    ("operation", .ofText e.incident.operation.text),
    ("lock_level", .ofText e.incident.lockLevel.text),
    ("caller_role", .ofText e.incident.callerRole)]

/-- The row of an event. -/
def row (e : Event) : List Parameter :=
  (fields e).map Prod.snd

/-- The statement that inserts an event. Its columns and their placeholders are in one order. -/
def insertion (name : String) (e : Event) : String :=
  "INSERT INTO " ++ name ++ " (" ++ Text.joined ", " ((fields e).map Prod.fst) ++ ") VALUES ("
    ++ Text.joined ", " ((fields e).mapIdx fun i _ => "$" ++ Numeral.text (i + 1)) ++ ")"

theorem insertSql_eq (name : String) (e : Event) : insertSql name = insertion name e := by
  have hplaces : ") VALUES ($1, $2, $3, $4, $5, $6, $7, $8, $9, $10)" = ") VALUES ("
      ++ Text.joined ", " ((fields e).mapIdx fun i _ => "$" ++ Numeral.text (i + 1)) ++ ")" := by
    simp only [fields, List.mapIdx_cons, List.mapIdx_nil]
    decide +kernel
  unfold insertSql insertion
  rw [hplaces]
  simp only [String.append_assoc]
  rfl

/-! ## Rounds -/

/-- What creates the table. -/
def creating (name : String) : List Command :=
  [.connect, .prepare (createSql name), .execute (createSql name) []]

/-- What inserts an event with all its fields. -/
def inserting (name : String) (e : Event) : List Command :=
  [.prepare (insertion name e), .execute (insertion name e) (row e)]

/-- The sink sends a row for each event under a statement that is the same for all of them. -/
theorem inserting_eq (name : String) (e : Event) :
    inserting name e = [.prepare (insertSql name), .execute (insertSql name) (arguments e)] := by
  rw [inserting, insertSql_eq name e]
  rfl

/-- What stores a batch. -/
def storing (name : String) (events : List Event) : List Command :=
  [.connect, .begin] ++ events.flatMap (inserting name) ++ [.commit]

/-- What is said in a transaction, and how it ends. -/
inductive Ended (name : String) (events : List Event) : History → Except Failure Unit → Prop where
  | intro {front back : History} {r outcome : Except Failure Unit}
      (hsent : Sent (events.flatMap (inserting name)) front r) (hclosing : Closing r back outcome) :
      Ended name events (front ++ back) outcome

/-- What is said to store a batch. -/
inductive Stored (name : String) (events : List Event) :
    History → Except Failure Unit → Prop where
  | unbegun {said : History} {e : Failure}
      (h : Sent [.connect, .begin] said (.error e : Except Failure Unit)) :
      Stored name events said (.error e)
  | begun {said : History} {outcome : Except Failure Unit} (h : Ended name events said outcome) :
      Stored name events (accepted [.connect, .begin] ++ said) outcome

/-- What is said to put a batch on record, and whether the table is known to be there then. -/
inductive Recorded (name : String) (events : List Event) :
    Bool → History → Except Failure Unit → Bool → Prop where
  | uncreated {said : History} {e : Failure}
      (h : Sent (creating name) said (.error e : Except Failure Unit)) :
      Recorded name events false said (.error e) false
  | created {said : History} {outcome : Except Failure Unit} (h : Stored name events said outcome) :
      Recorded name events false (accepted (creating name) ++ said) outcome true
  | ready {said : History} {outcome : Except Failure Unit} (h : Stored name events said outcome) :
      Recorded name events true said outcome true

theorem create_sends (t : Table) (db : Database) : (t.create db).Sends (creating t.name) :=
  (db.acquire_sends).bind fun _ =>
    (Session.runStatement_sends db _ _).bind fun _ => Conversation.sends_pure ()

theorem insertAll_sends (t : Table) (db : Database) (events : List Event) :
    (t.insertAll db events).Sends (events.flatMap (inserting t.name)) := by
  induction events with
  | nil => exact Conversation.sends_pure ()
  | cons e events ih =>
      rw [List.flatMap_cons, inserting_eq]
      exact (Session.runStatement_sends db _ _).bind fun _ => ih

theorem insert_eq (t : Table) (db : Database) (events : List Event) :
    t.insert db events =
      (db.acquire >>= fun _ => db.send .begin) >>= fun _ =>
        (t.insertAll db events).attempt >>= db.conclude := by
  rw [insert, Conversation.bind_assoc]
  refine congrArg (db.acquire >>= ·) (funext fun _ => ?_)
  refine congrArg (db.send .begin >>= ·) (funext fun _ => ?_)
  refine congrArg ((t.insertAll db events).attempt >>= ·) (funext fun r => ?_)
  cases r <;> rfl

theorem insert_meets (t : Table) (db : Database) (events : List Event) :
    (t.insert db events).Meets fun _ said r => Stored t.name events said r := by
  have hopening : (db.acquire >>= fun _ => db.send .begin).Sends [.connect, .begin] :=
    db.acquire_sends.bind fun _ => db.send_sends .begin
  have hended : ((t.insertAll db events).attempt >>= db.conclude).Meets
      fun _ said r => Ended t.name events said r :=
    Conversation.Meets.attempt_bind (t.insertAll_sends db events) db.conclude_meets
      fun _ _ _ _ _ hsent hclosing => .intro hsent hclosing
  rw [insert_eq]
  refine Conversation.Meets.bind hopening (fun _ => hended) (fun _ _ _ hsent => .unbegun hsent) ?_
  intro _ _ _ _ _ hsent h
  rw [hsent.said_eq]
  exact .begun h

section Record

variable {ε : Type}

theorem store_meets (t : Table) (db : Database) (events : List Event) :
    ((t.insert db events).attempt >>= fun outcome => pure (outcome, t) :
      Conversation ε (Except Failure Unit × Table)).Meets
        fun _ said r => ∃ outcome, r = .ok (outcome, t) ∧ Stored t.name events said outcome := by
  intro before
  obtain ⟨said, hsaid, hstored⟩ := t.insert_meets db events before
  exact ⟨said, hsaid, _, rfl, hstored⟩

theorem record_meets (t : Table) (db : Database) (events : List Event) :
    (t.record db events : Conversation ε (Except Failure Unit × Table)).Meets fun _ said r =>
      ∃ outcome ready, r = .ok (outcome, ⟨t.name, ready⟩) ∧
        Recorded t.name events t.ready said outcome ready := by
  obtain ⟨name, ready⟩ := t
  cases ready with
  | true =>
      refine Conversation.Meets.mono (store_meets ⟨name, true⟩ db events) ?_
      rintro _ _ _ ⟨outcome, rfl, h⟩
      exact ⟨outcome, true, rfl, .ready h⟩
  | false =>
      intro before
      obtain ⟨front, hfront, hsent⟩ := create_sends ⟨name, false⟩ db before
      rw [record, if_neg Bool.false_ne_true, Conversation.attempt_bind_apply, hfront]
      generalize (create ⟨name, false⟩ db before).1 = created at hsent
      cases created with
      | error e => exact ⟨front, rfl, .error e, false, rfl, .uncreated hsent⟩
      | ok a =>
          obtain rfl := hsent.said_eq
          obtain ⟨said, hsaid, outcome, hr, h⟩ := store_meets ⟨name, true⟩ db events
            (before ++ accepted (creating name))
          exact ⟨_, hsaid.trans (List.append_assoc ..), outcome, true, hr, .created h⟩

/-- A batch, what is said to put it on record, and what comes of it. -/
structure Round where
  events : List Event
  said : History
  outcome : Except Failure Unit

/-- Rounds one after the other, of which each leaves to the next whether the table is there. -/
inductive Rounds (name : String) : Bool → List Round → Prop where
  | done (ready : Bool) : Rounds name ready []
  | next {r : Round} {rounds : List Round} {ready ready' : Bool}
      (h : Recorded name r.events ready r.said r.outcome ready')
      (hrest : Rounds name ready' rounds) : Rounds name ready (r :: rounds)

theorem recordAll_meets (name : String) (ready : Bool) (db : Database)
    (batches : List (List Event)) :
    (recordAll db ⟨name, ready⟩ batches : Conversation ε (List (Except Failure Unit))).Meets
      fun _ said r => ∃ rounds : List Round, rounds.map Round.events = batches ∧
        said = rounds.flatMap Round.said ∧ r = .ok (rounds.map Round.outcome) ∧
        Rounds name ready rounds := by
  induction batches generalizing ready with
  | nil => exact Conversation.meets_pure _ fun _ => ⟨[], rfl, rfl, rfl, .done ready⟩
  | cons events batches ih =>
      intro before
      rcases hrun : (record ⟨name, ready⟩ db events : Conversation ε _) before with ⟨_, _⟩
      obtain ⟨said, rfl, outcome, ready', rfl, hrecorded⟩ :=
        (record_meets ⟨name, ready⟩ db events).run hrun
      rcases hnext : (recordAll db ⟨name, ready'⟩ batches : Conversation ε _) (before ++ said)
        with ⟨_, _⟩
      obtain ⟨_, rfl, rounds, rfl, rfl, rfl, hrounds⟩ := (ih ready').run hnext
      have hall : (recordAll db ⟨name, ready⟩ (events :: rounds.map Round.events) :
          Conversation ε _) before = (.ok (outcome :: rounds.map Round.outcome),
            before ++ (said ++ rounds.flatMap Round.said)) := by
        refine (Conversation.bind_of_ok hrun _).trans ((Conversation.bind_of_ok hnext _).trans ?_)
        rw [List.append_assoc]
        rfl
      rw [hall]
      exact ⟨_, rfl, ⟨events, said, outcome⟩ :: rounds, rfl, rfl, rfl, .next hrecorded hrounds⟩

end Record

/-! ## The order of statements -/

/-- The table was created in what was said. -/
def Created (name : String) (said : History) : Prop :=
  (⟨.execute (createSql name) [], none⟩ : Exchange) ∈ said

theorem created_append {front back : History} :
    Created name (front ++ back) ↔ Created name front ∨ Created name back :=
  List.mem_append

/-- Whatever inserts into the table comes after its creation, and whatever creates it before. -/
def Ordered (name : String) (earlier said : History) : Prop :=
  ∀ front x back, said = front ++ x :: back →
    (x.command.statement? = some (insertSql name) → Created name (earlier ++ front)) ∧
      (x.command.statement? = some (createSql name) → ¬Created name (earlier ++ front))

theorem Ordered.append {next : History} (hsaid : Ordered name earlier said)
    (hnext : Ordered name (earlier ++ said) next) : Ordered name earlier (said ++ next) := by
  intro front x back h
  rcases List.append_eq_append_iff.mp h with ⟨more, rfl, hmore⟩ | ⟨more, hsplit, hmore⟩
  · rw [← List.append_assoc]
    exact hnext more x back hmore
  · cases more with
    | nil =>
        rw [List.append_nil] at hsplit
        subst hsplit
        have hfirst := hnext [] x back hmore.symm
        rwa [List.append_nil] at hfirst
    | cons y more =>
        obtain ⟨rfl, rfl⟩ := List.cons.inj hmore
        exact hsaid front x more hsplit

theorem head?_createSql (name : String) : (createSql name).toList.head? = some 'C' := by
  unfold createSql
  simp only [String.toList_append, List.append_assoc]
  rfl

theorem head?_insertSql (name : String) : (insertSql name).toList.head? = some 'I' := by
  unfold insertSql
  simp only [String.toList_append, List.append_assoc]
  rfl

theorem createSql_ne_insertSql (name : String) : createSql name ≠ insertSql name := by
  intro h
  have hhead := congrArg (fun s => s.toList.head?) h
  have hletter : some 'C' = some 'I' :=
    (head?_createSql name).symm.trans (hhead.trans (head?_insertSql name))
  exact absurd hletter (by decide)

theorem command_mem_of_created (h : Created name said) :
    .execute (createSql name) [] ∈ said.map Exchange.command :=
  List.mem_map_of_mem (f := Exchange.command) h

/-- The table is created by the last command of those that create it. -/
theorem execute_not_mem {front back : List Command} {c : Command}
    (h : creating name = front ++ c :: back) : .execute (createSql name) [] ∉ front := by
  have hprefix : front <+: [.connect, .prepare (createSql name)] := by
    have hlength := congrArg List.length h
    simp only [creating, List.length_append, List.length_cons, List.length_nil] at hlength
    refine List.prefix_of_prefix_length_le
      (show front <+: creating name from h ▸ List.prefix_append front (c :: back))
      (List.prefix_append _ [Command.execute (createSql name) []]) ?_
    simp only [List.length_cons, List.length_nil]
    omega
  intro hmem
  simpa using hprefix.subset hmem

theorem statement?_of_mem_creating {c : Command} {sql : String} (hc : c ∈ creating name)
    (hsql : c.statement? = some sql) : sql = createSql name := by
  simp only [creating, List.mem_cons, List.not_mem_nil, or_false] at hc
  rcases hc with rfl | rfl | rfl
  · cases hsql
  · exact (Option.some.inj hsql).symm
  · exact (Option.some.inj hsql).symm

theorem ordered_creating {r : Except Failure Unit} (h : Sent (creating name) said r)
    (hearlier : ¬Created name earlier) : Ordered name earlier said := by
  intro front x back hsaid
  obtain ⟨rest, hrest⟩ := h.commands_prefix
  rw [hsaid, List.map_append, List.map_cons, List.append_assoc, List.cons_append] at hrest
  have hx : x.command ∈ creating name := by
    rw [← hrest]
    exact List.mem_append_right _ List.mem_cons_self
  refine ⟨fun hinsert => ?_, fun _ => ?_⟩
  · exact absurd (statement?_of_mem_creating hx hinsert).symm (createSql_ne_insertSql name)
  · rw [created_append, not_or]
    exact ⟨hearlier, fun hfront => execute_not_mem hrest.symm (command_mem_of_created hfront)⟩

theorem not_created_of_error {e : Failure}
    (h : Sent (creating name) said (.error e : Except Failure Unit)) : ¬Created name said := by
  intro hcreated
  cases h with
  | @stopped front back c h f =>
      rcases List.mem_append.mp hcreated with hmem | hmem
      · exact execute_not_mem h (command_mem_of_accepted hmem)
      · exact Option.some_ne_none f (congrArg Exchange.failure (List.mem_singleton.mp hmem)).symm

theorem created_creating (name : String) : Created name (accepted (creating name)) := by
  have hmem : .execute (createSql name) [] ∈ creating name := by simp [creating]
  exact List.mem_map_of_mem (f := fun c => (⟨c, none⟩ : Exchange)) hmem

theorem statement?_of_mem_inserting {e : Event} {c : Command} (hc : c ∈ inserting name e) :
    c.statement? = some (insertSql name) := by
  simp only [inserting_eq, List.mem_cons, List.not_mem_nil, or_false] at hc
  rcases hc with rfl | rfl <;> rfl

theorem Ended.statement? (h : Ended name events said outcome) {x : Exchange} (hx : x ∈ said)
    {sql : String} (hsql : x.command.statement? = some sql) : sql = insertSql name := by
  obtain ⟨hsent, hclosing⟩ := h
  rcases List.mem_append.mp hx with hx | hx
  · obtain ⟨e, -, hinserting⟩ := List.mem_flatMap.mp (hsent.command_mem hx)
    exact Option.some.inj (hsql.symm.trans (statement?_of_mem_inserting hinserting))
  · rcases hclosing.command_eq hx with hc | hc <;> (rw [hc] at hsql; cases hsql)

/-- Nothing but the insertion is prepared or executed to store a batch. -/
theorem Stored.statement? (h : Stored name events said outcome) {x : Exchange} (hx : x ∈ said)
    {sql : String} (hsql : x.command.statement? = some sql) : sql = insertSql name := by
  have hopening : x.command ∉ [.connect, .begin] := by
    intro hmem
    simp only [List.mem_cons, List.not_mem_nil, or_false] at hmem
    rcases hmem with hc | hc <;> (rw [hc] at hsql; cases hsql)
  cases h with
  | unbegun hsent => exact absurd (hsent.command_mem hx) hopening
  | begun hended =>
      rcases List.mem_append.mp hx with hx | hx
      · exact absurd (command_mem_of_accepted hx) hopening
      · exact hended.statement? hx hsql

theorem Stored.ordered (h : Stored name events said outcome) (hearlier : Created name earlier) :
    Ordered name earlier said := by
  intro front x back hsaid
  have hx : x ∈ said := hsaid ▸ List.mem_append_right _ List.mem_cons_self
  exact ⟨fun _ => created_append.mpr (.inl hearlier),
    fun hsql => absurd (h.statement? hx hsql) (createSql_ne_insertSql name)⟩

/-- The sink knows that its table is there if and only if it has created it. -/
theorem Recorded.ordered (h : Recorded name events ready said outcome ready')
    (hready : ready = true ↔ Created name earlier) :
    Ordered name earlier said ∧ (ready' = true ↔ Created name (earlier ++ said)) := by
  cases h with
  | uncreated h =>
      have hearlier : ¬Created name earlier :=
        fun hcreated => Bool.false_ne_true (hready.mpr hcreated)
      refine ⟨ordered_creating h hearlier, ?_⟩
      rw [created_append, or_iff_right hearlier, iff_false_left Bool.false_ne_true]
      exact not_created_of_error h
  | created h =>
      have hearlier : ¬Created name earlier :=
        fun hcreated => Bool.false_ne_true (hready.mpr hcreated)
      have hcreated : Created name (earlier ++ accepted (creating name)) :=
        created_append.mpr (.inr (created_creating name))
      refine ⟨(ordered_creating (.all () : Sent _ _ _) hearlier).append (h.ordered hcreated), ?_⟩
      rw [← List.append_assoc, created_append]
      exact iff_of_true rfl (.inl hcreated)
  | ready h =>
      have hearlier := hready.mp rfl
      exact ⟨h.ordered hearlier, iff_of_true rfl (created_append.mpr (.inl hearlier))⟩

/-! ## The rows of the table -/

/-- The rows that the table has, and those that it gets when the open transaction is committed. -/
structure Ledger where
  stored : List (List Parameter)
  pending : Option (List (List Parameter))

namespace Ledger

variable {rows pending : List (List Parameter)}

/-- Outside of a transaction the table gets a row at once. -/
def insert (l : Ledger) (row : List Parameter) : Ledger :=
  match l.pending with
  | none => { l with stored := l.stored ++ [row] }
  | some rows => { l with pending := some (rows ++ [row]) }

/-- What becomes of the rows. A commitment that fails and a transaction that is rolled back leave
nothing behind, even if rolling back fails, since the connection is gone then. -/
def step (name : String) (l : Ledger) (x : Exchange) : Ledger :=
  match x.command, x.failure with
  | .begin, none => { l with pending := some [] }
  | .execute sql row, none => if sql = insertSql name then l.insert row else l
  | .commit, none => ⟨l.stored ++ l.pending.getD [], none⟩
  | .commit, some _ => ⟨l.stored, none⟩
  | .rollback, _ => ⟨l.stored, none⟩
  | _, _ => l

def after (name : String) (l : Ledger) (said : History) : Ledger :=
  said.foldl (step name) l

theorem after_append (name : String) (l : Ledger) (front back : History) :
    l.after name (front ++ back) = (l.after name front).after name back :=
  List.foldl_append

theorem step_creating {l : Ledger} {x : Exchange} (hx : x.command ∈ creating name) :
    l.step name x = l := by
  obtain ⟨c, f⟩ := x
  simp only [creating, List.mem_cons, List.not_mem_nil, or_false] at hx
  rcases hx with rfl | rfl | rfl
  · rfl
  · rfl
  · cases f with
    | none =>
        show (if createSql name = insertSql name then l.insert [] else l) = l
        exact if_neg (createSql_ne_insertSql name)
    | some => rfl

theorem after_creating {l : Ledger} (h : ∀ x ∈ said, x.command ∈ creating name) :
    l.after name said = l := by
  induction said with
  | nil => rfl
  | cons x said ih =>
      have hx : l.step name x = l := step_creating (h x List.mem_cons_self)
      show after name (step name l x) said = l
      rw [hx]
      exact ih fun y hy => h y (List.mem_cons_of_mem x hy)

/-- The rows of a batch are pending once they are inserted in a transaction. -/
theorem after_inserting (name : String) (rows pending : List (List Parameter))
    (events : List Event) :
    (Ledger.mk rows (some pending)).after name (accepted (events.flatMap (inserting name))) =
      ⟨rows, some (pending ++ events.map row)⟩ := by
  induction events generalizing pending with
  | nil => rw [List.map_nil, List.append_nil]; rfl
  | cons e events ih =>
      have hfirst : (Ledger.mk rows (some pending)).after name (accepted (inserting name e)) =
          ⟨rows, some (pending ++ [row e])⟩ := by
        rw [inserting_eq]
        exact if_pos rfl
      rw [List.flatMap_cons, accepted_append, after_append, hfirst, ih,
        List.append_assoc]
      rfl

/-- Whatever statements a transaction consists of, the table has no row of it so far. -/
theorem stored_after_statements (h : ∀ x ∈ said, x.command.IsStatement) :
    ∃ more, (Ledger.mk rows (some pending)).after name said = ⟨rows, some more⟩ := by
  induction said generalizing pending with
  | nil => exact ⟨pending, rfl⟩
  | cons x said ih =>
      have hx : ∃ more, (Ledger.mk rows (some pending)).step name x = ⟨rows, some more⟩ := by
        obtain ⟨c, f⟩ := x
        have hc : c.IsStatement := h _ List.mem_cons_self
        cases c with
        | prepare sql => exact ⟨pending, rfl⟩
        | execute sql row =>
            cases f with
            | some f => exact ⟨pending, rfl⟩
            | none =>
                by_cases hsql : sql = insertSql name
                · exact ⟨pending ++ [row], if_pos hsql⟩
                · exact ⟨pending, if_neg hsql⟩
        | _ => cases hc
      obtain ⟨more, hx⟩ := hx
      show ∃ more, after name (step name _ x) said = _
      rw [hx]
      exact ih fun y hy => h y (List.mem_cons_of_mem x hy)

end Ledger

/-- The rows that a batch adds to the table: all of them if it is on record, and none if not. -/
def rowsKept (events : List Event) : Except Failure Unit → List (List Parameter)
  | .ok _ => events.map row
  | .error _ => []

theorem Ended.after (h : Ended name events said outcome) (rows : List (List Parameter)) :
    (Ledger.mk rows (some [])).after name said = ⟨rows ++ rowsKept events outcome, none⟩ := by
  obtain @⟨front, _, _, _, hsent, hclosing⟩ := h
  rw [Ledger.after_append]
  cases hclosing with
  | committed =>
      rw [hsent.said_eq, Ledger.after_inserting]
      rfl
  | uncommitted f g =>
      rw [hsent.said_eq, Ledger.after_inserting, rowsKept, List.append_nil]
      rfl
  | abandoned f g =>
      have hstatements : ∀ x ∈ front, x.command.IsStatement := by
        intro x hx
        obtain ⟨e, -, hinserting⟩ := List.mem_flatMap.mp (hsent.command_mem hx)
        exact Command.isStatement_of_statement? (statement?_of_mem_inserting hinserting)
      obtain ⟨more, hmore⟩ := Ledger.stored_after_statements hstatements
      rw [hmore, rowsKept, List.append_nil]
      rfl

theorem Stored.after (h : Stored name events said outcome) (rows : List (List Parameter)) :
    (Ledger.mk rows none).after name said = ⟨rows ++ rowsKept events outcome, none⟩ := by
  cases h with
  | unbegun hsent =>
      rw [rowsKept, List.append_nil]
      cases hsent with
      | @stopped front back c h f e =>
          match front, h with
          | [], h =>
              obtain ⟨rfl, -⟩ := List.cons.inj h
              rfl
          | [_], h =>
              obtain ⟨rfl, hrest⟩ := List.cons.inj h
              obtain ⟨rfl, -⟩ := List.cons.inj hrest
              rfl
          | _ :: _ :: _, h => simp at h
  | begun h =>
      rw [Ledger.after_append]
      exact h.after rows

theorem Recorded.after (h : Recorded name events ready said outcome ready')
    (rows : List (List Parameter)) :
    (Ledger.mk rows none).after name said = ⟨rows ++ rowsKept events outcome, none⟩ := by
  cases h with
  | uncreated h =>
      rw [rowsKept, List.append_nil]
      exact Ledger.after_creating fun x hx => h.command_mem hx
  | created h =>
      rw [Ledger.after_append, Ledger.after_creating fun x hx => command_mem_of_accepted hx]
      exact h.after rows
  | ready h => exact h.after rows

/-! ## Batches one after the other -/

theorem Ended.failed {e : Failure} (h : Ended name events said (.error e)) :
    ∃ x ∈ said, x.failure ≠ none := by
  obtain ⟨hsent, hclosing⟩ := h
  cases hclosing with
  | uncommitted _ g =>
      exact ⟨⟨.commit, some e⟩, List.mem_append_right _ List.mem_cons_self, Option.some_ne_none e⟩
  | abandoned _ g =>
      obtain ⟨x, hx, hfailure⟩ := hsent.failed
      exact ⟨x, List.mem_append_left _ hx, hfailure⟩

theorem Stored.failed {e : Failure} (h : Stored name events said (.error e)) :
    ∃ x ∈ said, x.failure ≠ none := by
  cases h with
  | unbegun hsent => exact hsent.failed
  | begun h =>
      obtain ⟨x, hx, hfailure⟩ := h.failed
      exact ⟨x, List.mem_append_right _ hx, hfailure⟩

theorem Recorded.failed {e : Failure} (h : Recorded name events ready said (.error e) ready') :
    ∃ x ∈ said, x.failure ≠ none := by
  cases h with
  | uncreated h => exact h.failed
  | created h =>
      obtain ⟨x, hx, hfailure⟩ := h.failed
      exact ⟨x, List.mem_append_right _ hx, hfailure⟩
  | ready h => exact h.failed

theorem Stored.said_eq (h : Stored name events said (.ok ())) :
    said = accepted (storing name events) := by
  cases h with
  | begun h =>
      obtain ⟨hsent, hclosing⟩ := h
      cases hclosing with
      | committed =>
          rw [hsent.said_eq, storing, accepted_append, accepted_append, List.append_assoc]
          rfl

/-- A batch is on record if and only if a transaction stored each of its events and was committed,
behind nothing but the creation of the table. -/
theorem Recorded.ok_iff (h : Recorded name events ready said outcome ready') :
    outcome = .ok () ↔
      ∃ front ∈ [[], creating name], said = accepted (front ++ storing name events) := by
  refine ⟨?_, ?_⟩
  · rintro rfl
    cases h with
    | created h =>
        refine ⟨creating name, by simp, ?_⟩
        rw [h.said_eq, accepted_append]
    | ready h => exact ⟨[], List.mem_cons_self, h.said_eq⟩
  · rintro ⟨front, -, hsaid⟩
    cases outcome with
    | ok => rfl
    | error e =>
        obtain ⟨x, hx, hfailure⟩ := h.failed
        exact absurd (failure_of_accepted (hsaid ▸ hx)) hfailure

/-- A round after what was said earlier. -/
structure Round.Sound (name : String) (earlier : History) (r : Round) : Prop where
  creates : ¬Created name earlier → accepted (creating name) <+: r.said ∨
    ∃ e, r.outcome = .error e ∧ Sent (creating name) r.said (.error e : Except Failure Unit)
  ok_iff : r.outcome = .ok () ↔
    ∃ front ∈ [[], creating name], r.said = accepted (front ++ storing name r.events)
  failed : ∀ e, r.outcome = .error e → ∃ x ∈ r.said, x.failure ≠ none
  rows : ∀ rows, (Ledger.mk rows none).after name r.said =
    ⟨rows ++ rowsKept r.events r.outcome, none⟩

theorem Recorded.sound {r : Round} (h : Recorded name r.events ready r.said r.outcome ready')
    (hready : ready = true ↔ Created name earlier) : r.Sound name earlier where
  creates hearlier := by
    obtain ⟨events, said, outcome⟩ := r
    cases h with
    | uncreated h => exact .inr ⟨_, rfl, h⟩
    | created h => exact .inl (List.prefix_append _ _)
    | ready h => exact absurd (hready.mp rfl) hearlier
  ok_iff := h.ok_iff
  failed _ houtcome := (houtcome ▸ h).failed
  rows := h.after

section Rounds

variable {rounds : List Round}

theorem Rounds.ordered (h : Rounds name ready rounds)
    (hready : ready = true ↔ Created name earlier) :
    Ordered name earlier (rounds.flatMap Round.said) := by
  induction h generalizing earlier with
  | done => exact fun front x back h => absurd h.symm (by simp)
  | next h _ ih =>
      obtain ⟨hordered, hnext⟩ := h.ordered hready
      exact hordered.append (ih hnext)

theorem Rounds.sound (h : Rounds name ready rounds)
    (hready : ready = true ↔ Created name earlier) {front back : List Round} {r : Round}
    (hr : rounds = front ++ r :: back) : r.Sound name (earlier ++ front.flatMap Round.said) := by
  induction h generalizing earlier front with
  | done => exact absurd hr.symm (by simp)
  | @next first rounds _ _ h _ ih =>
      cases front with
      | nil =>
          obtain ⟨rfl, -⟩ := List.cons.inj hr
          rw [List.flatMap_nil, List.append_nil]
          exact h.sound hready
      | cons _ front =>
          obtain ⟨rfl, hrest⟩ := List.cons.inj hr
          rw [List.flatMap_cons, ← List.append_assoc]
          exact ih (h.ordered hready).2 hrest

theorem Rounds.after (h : Rounds name ready rounds) (rows : List (List Parameter)) :
    (Ledger.mk rows none).after name (rounds.flatMap Round.said) =
      ⟨rows ++ rounds.flatMap fun r => rowsKept r.events r.outcome, none⟩ := by
  induction h generalizing rows with
  | done => rw [List.flatMap_nil, List.flatMap_nil, List.append_nil]; rfl
  | next h _ ih =>
      rw [List.flatMap_cons, Ledger.after_append, h.after, ih, List.flatMap_cons,
        List.append_assoc]

end Rounds

/-- Whatever the database answers to a new sink, the table is created before something is inserted
and not again after that, and the table gets all events of a batch or none, which leaves the batches
before it as they are. -/
theorem recordAll_rounds {ε : Type} (db : Database) (name : String) (batches : List (List Event))
    (before : History) :
    ∃ rounds : List Round, rounds.map Round.events = batches ∧
      (recordAll db ⟨name, false⟩ batches : Conversation ε (List (Except Failure Unit))) before =
        (.ok (rounds.map Round.outcome), before ++ rounds.flatMap Round.said) ∧
      Ordered name [] (rounds.flatMap Round.said) ∧
      (∀ front r back, rounds = front ++ r :: back →
        r.Sound name (front.flatMap Round.said)) ∧
      ∀ rows, (Ledger.mk rows none).after name (rounds.flatMap Round.said) =
        ⟨rows ++ rounds.flatMap fun r => rowsKept r.events r.outcome, none⟩ := by
  rcases hrun : (recordAll db ⟨name, false⟩ batches : Conversation ε _) before with ⟨_, _⟩
  obtain ⟨_, rfl, rounds, hevents, rfl, rfl, hrounds⟩ :=
    (recordAll_meets name false db batches).run hrun
  have hready : false = true ↔ Created name [] := by
    rw [iff_false_left Bool.false_ne_true]
    exact List.not_mem_nil
  exact ⟨rounds, hevents, rfl, hrounds.ordered hready,
    fun front r back hr => hrounds.sound hready hr, hrounds.after⟩

/-- An event without a source address. -/
def deniedEvent : Event where
  id := ⟨List.replicate 32 ⟨11, by decide⟩, List.length_replicate⟩
  occurredAt := ⟨⟨2028, 2, 29, by decide, by decide⟩, ⟨23, 59, 59, 5⟩⟩
  incident :=
    { projectId := "p", tableName := "todos", columnName := "secret", attemptedValue := "x'); --"
      sourceAddress := none, operation := .update, lockLevel := .insertOnly, callerRole := "anon" }

/-- A database that does whatever it is told. -/
def obedient : Database :=
  Database.Script.database ⟨[], none⟩

/-- What creates a table that is called `events`. -/
def eventsCreation : String :=
  "CREATE TABLE IF NOT EXISTS \"events\" (\n"
    ++ "                event_id uuid PRIMARY KEY,\n"
    ++ "                occurred_at timestamptz NOT NULL,\n"
    ++ "                project_id text NOT NULL,\n"
    ++ "                table_name text NOT NULL,\n"
    ++ "                column_name text NOT NULL,\n"
    ++ "                attempted_value text NOT NULL,\n"
    ++ "                source_ip text,\n"
    ++ "                operation text NOT NULL,\n"
    ++ "                lock_level text NOT NULL,\n"
    ++ "                caller_role text NOT NULL\n"
    ++ "            )"

/-- What inserts into it. -/
def eventsInsertion : String :=
  "INSERT INTO \"events\" (event_id, occurred_at, project_id, table_name, column_name, "
    ++ "attempted_value, source_ip, operation, lock_level, caller_role) "
    ++ "VALUES ($1, $2, $3, $4, $5, $6, $7, $8, $9, $10)"

/-- What the table has of the event. -/
def deniedRow : List Parameter :=
  [.scalar .uuid (some (.uuid deniedEvent.id)),
    .scalar .timestamptz (some (.time deniedEvent.occurredAt)),
    .scalar .text (some (.text "p")), .scalar .text (some (.text "todos")),
    .scalar .text (some (.text "secret")), .scalar .text (some (.text "x'); --")),
    .scalar .text none, .scalar .text (some (.text "update")),
    .scalar .text (some (.text "insert_only")), .scalar .text (some (.text "anon"))]

/-- The table is created for the first of two batches, and has the row of its event then. -/
theorem recordAll_rounds_deniedEvent :
    ∃ rounds : List Round, rounds.map Round.events = [[deniedEvent], []] ∧
      rounds.flatMap Round.said = accepted
        [.connect, .prepare eventsCreation, .execute eventsCreation [],
          .connect, .begin, .prepare eventsInsertion, .execute eventsInsertion deniedRow, .commit,
          .connect, .begin, .commit] ∧
      Ordered "\"events\"" [] (rounds.flatMap Round.said) ∧
      (Ledger.mk [] none).after "\"events\"" (rounds.flatMap Round.said) =
        ⟨[deniedRow], none⟩ := by
  have hcreation : createSql "\"events\"" = eventsCreation := by decide +kernel
  have hinsertion : insertSql "\"events\"" = eventsInsertion := by decide +kernel
  obtain ⟨rounds, hevents, hrun, hordered, -, hrows⟩ :=
    recordAll_rounds (ε := Empty) obedient "\"events\"" [[deniedEvent], []] []
  have hcomputed : (recordAll obedient ⟨"\"events\"", false⟩ [[deniedEvent], []] :
      Conversation Empty _) [] = (.ok [.ok (), .ok ()], accepted
        [.connect, .prepare eventsCreation, .execute eventsCreation [],
          .connect, .begin, .prepare eventsInsertion, .execute eventsInsertion deniedRow, .commit,
          .connect, .begin, .commit]) := by
    rw [← hcreation, ← hinsertion]
    rfl
  rw [hcomputed, Prod.mk.injEq, Except.ok.injEq, List.nil_append] at hrun
  refine ⟨rounds, hevents, hrun.2.symm, hordered, ?_⟩
  obtain ⟨first, second, rfl⟩ : ∃ first second, rounds = [first, second] :=
    List.length_eq_two.mp (by simpa using congrArg List.length hevents)
  simp only [List.map_cons, List.map_nil, List.cons.injEq, and_true] at hevents hrun
  rw [hrows, List.flatMap_cons, List.flatMap_singleton, hevents.1, hevents.2, ← hrun.1.1,
    ← hrun.1.2]
  rfl

end Audit.Table

end TableGateway
