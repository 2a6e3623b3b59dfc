import TableGateway.Database.Basic

/-! # What conversations say

A conversation adds exchanges to what was said before. A postcondition speaks of these exchanges
and of the outcome, and there is one rule for each way to put conversations together. -/

namespace TableGateway

open Database (History Exchange Command Failure)

namespace Conversation

variable {ε δ α β γ : Type}

/-! ## Steps -/

theorem bind_of_ok {m : Conversation ε α} {before after : History} {a : α}
    (h : m before = (.ok a, after)) (f : α → Conversation ε β) :
    (m >>= f) before = f a after := by
  rw [bind_apply, h]

theorem bind_of_error {m : Conversation ε α} {before after : History} {e : ε}
    (h : m before = (.error e, after)) (f : α → Conversation ε β) :
    (m >>= f) before = (.error e, after) := by
  rw [bind_apply, h]

theorem bind_assoc (m : Conversation ε α) (f : α → Conversation ε β) (g : β → Conversation ε γ) :
    m >>= f >>= g = m >>= fun a => f a >>= g := by
  funext before
  rcases hm : m before with ⟨_ | _, _⟩
  case error => rw [bind_of_error (bind_of_error hm f), bind_of_error hm]
  case ok => rw [bind_apply, bind_of_ok hm, bind_of_ok hm, bind_apply]

theorem ofExcept_ok_bind (a : α) (f : α → Conversation ε β) :
    ofExcept (.ok a) >>= f = f a := rfl

theorem attempt_bind_apply (m : Conversation ε α) (f : Except ε α → Conversation δ β)
    (before : History) : (m.attempt >>= f) before = f (m before).1 (m before).2 := rfl

theorem mapError_of_ok {m : Conversation ε α} {before after : History} {a : α}
    (h : m before = (.ok a, after)) (f : ε → δ) : m.mapError f before = (.ok a, after) := by
  rw [mapError, h]
  rfl

theorem mapError_of_error {m : Conversation ε α} {before after : History} {e : ε}
    (h : m before = (.error e, after)) (f : ε → δ) :
    m.mapError f before = (.error (f e), after) := by
  rw [mapError, h]
  rfl

theorem mapError_bind (m : Conversation ε α) (f : α → Conversation ε β) (g : ε → δ) :
    (m >>= f).mapError g = m.mapError g >>= fun a => (f a).mapError g := by
  funext before
  rcases hm : m before with ⟨e | a, after⟩
  case error =>
      rw [mapError_of_error (bind_of_error hm f), bind_of_error (mapError_of_error hm g)]
  case ok =>
      rw [bind_of_ok (mapError_of_ok hm g), mapError, mapError, bind_of_ok hm]

/-! ## Postconditions -/

/-- Whatever was said before, the conversation adds to it, and what it adds and its outcome are as
the postcondition says. -/
def Meets (m : Conversation ε α) (post : History → History → Except ε α → Prop) : Prop :=
  ∀ before, ∃ said, (m before).2 = before ++ said ∧ post before said (m before).1

variable {m : Conversation ε α} {post : History → History → Except ε α → Prop}

theorem Meets.run (hm : m.Meets post) {before after : History} {r : Except ε α}
    (h : m before = (r, after)) : ∃ said, after = before ++ said ∧ post before said r := by
  simpa only [h] using hm before

theorem Meets.mono {weaker : History → History → Except ε α → Prop} (hm : m.Meets post)
    (h : ∀ before said r, post before said r → weaker before said r) : m.Meets weaker := by
  intro before
  obtain ⟨said, hsaid, hpost⟩ := hm before
  exact ⟨said, hsaid, h _ _ _ hpost⟩

theorem Meets.and {other : History → History → Except ε α → Prop} (hm : m.Meets post)
    (hother : m.Meets other) :
    m.Meets fun before said r => post before said r ∧ other before said r := by
  intro before
  obtain ⟨said, hsaid, hpost⟩ := hm before
  obtain ⟨said', hsaid', hpost'⟩ := hother before
  obtain rfl : said = said' := List.append_cancel_left (hsaid.symm.trans hsaid')
  exact ⟨said, hsaid, hpost, hpost'⟩

theorem meets_of_silent {r : Except ε α} (h : ∀ before, m before = (r, before))
    (hpost : ∀ before, post before [] r) : m.Meets post := by
  intro before
  rw [h before]
  exact ⟨[], (List.append_nil before).symm, hpost before⟩

theorem meets_pure (a : α) (h : ∀ before, post before [] (.ok a)) :
    (pure a : Conversation ε α).Meets post :=
  meets_of_silent (fun _ => rfl) h

theorem meets_fail (e : ε) (h : ∀ before, post before [] (.error e)) :
    (fail e : Conversation ε α).Meets post :=
  meets_of_silent (fun _ => rfl) h

theorem Meets.bind {f : α → Conversation ε β}
    {next : α → History → History → Except ε β → Prop}
    {post' : History → History → Except ε β → Prop} (hm : m.Meets post)
    (hf : ∀ a, (f a).Meets (next a))
    (hfail : ∀ before said e, post before said (.error e) → post' before said (.error e))
    (hnext : ∀ before front back a r, post before front (.ok a) →
      next a (before ++ front) back r → post' before (front ++ back) r) :
    (m >>= f).Meets post' := by
  intro before
  rcases hrun : m before with ⟨e | a, after⟩
  case error =>
      obtain ⟨said, rfl, hpost⟩ := hm.run hrun
      rw [bind_of_error hrun]
      exact ⟨said, rfl, hfail _ _ _ hpost⟩
  case ok =>
      obtain ⟨front, rfl, hpost⟩ := hm.run hrun
      obtain ⟨back, hback, hlast⟩ := hf a (before ++ front)
      rw [bind_of_ok hrun, hback, List.append_assoc]
      exact ⟨front ++ back, rfl, hnext _ _ _ _ _ hpost hlast⟩

/-- What is made of a result without a further word changes the outcome only. -/
theorem Meets.bind_silent {f : α → Conversation ε β} {r : α → Except ε β}
    {post' : History → History → Except ε β → Prop} (hm : m.Meets post)
    (hf : ∀ a before, f a before = (r a, before))
    (hfail : ∀ before said e, post before said (.error e) → post' before said (.error e))
    (hok : ∀ before said a, post before said (.ok a) → post' before said (r a)) :
    (m >>= f).Meets post' := by
  have hsilent : ∀ a, (f a).Meets fun _ said s => said = [] ∧ s = r a :=
    fun a => meets_of_silent (hf a) fun _ => ⟨rfl, rfl⟩
  refine hm.bind hsilent hfail ?_
  rintro before front _ a _ hpost ⟨rfl, rfl⟩
  rw [List.append_nil]
  exact hok before front a hpost

theorem Meets.attempt_bind {f : Except ε α → Conversation δ β}
    {next : Except ε α → History → History → Except δ β → Prop}
    {post' : History → History → Except δ β → Prop} (hm : m.Meets post)
    (hf : ∀ r, (f r).Meets (next r))
    (hnext : ∀ before front back r s, post before front r → next r (before ++ front) back s →
      post' before (front ++ back) s) : (m.attempt >>= f).Meets post' := by
  intro before
  obtain ⟨front, hfront, hpost⟩ := hm before
  obtain ⟨back, hback, hlast⟩ := hf (m before).1 (m before).2
  rw [attempt_bind_apply, hback, hfront, List.append_assoc]
  rw [hfront] at hlast
  exact ⟨front ++ back, rfl, hnext _ _ _ _ _ hpost hlast⟩

theorem Meets.mapError {f : ε → δ} {post' : History → History → Except δ α → Prop}
    (hm : m.Meets post)
    (hpost : ∀ before said r, post before said r → post' before said (r.mapError f)) :
    (m.mapError f).Meets post' := by
  intro before
  obtain ⟨said, hsaid, h⟩ := hm before
  exact ⟨said, hsaid, hpost _ _ _ h⟩

end Conversation

/-! ## Commands -/

namespace Database

/-- The command prepares or executes a statement, and does not begin or end a transaction. -/
def Command.IsStatement : Command → Prop
  | prepare _ => True
  | execute _ _ => True
  | _ => False

variable {db : Database}

theorem send_of_ok {c : Command} {before : History} {a : c.Result}
    (h : db.respond before c = .ok a) :
    db.send c before = (.ok a, before ++ [⟨c, none⟩]) := by
  simp only [send, h, failure?]

theorem send_of_error {c : Command} {before : History} {f : Failure}
    (h : db.respond before c = .error f) :
    db.send c before = (.error f, before ++ [⟨c, some f⟩]) := by
  simp only [send, h, failure?]

/-! ## Commands one after the other -/

/-- The exchanges of commands that succeed. -/
def accepted (commands : List Command) : History :=
  commands.map fun c => ⟨c, none⟩

@[simp] theorem accepted_nil : accepted [] = [] := rfl

@[simp] theorem accepted_cons (c : Command) (commands : List Command) :
    accepted (c :: commands) = ⟨c, none⟩ :: accepted commands := rfl

theorem accepted_append (front back : List Command) :
    accepted (front ++ back) = accepted front ++ accepted back :=
  List.map_append

theorem map_command_accepted (commands : List Command) :
    (accepted commands).map Exchange.command = commands := by
  rw [accepted, List.map_map]
  exact List.map_id commands

theorem command_mem_of_accepted {commands : List Command} {x : Exchange}
    (h : x ∈ accepted commands) : x.command ∈ commands := by
  obtain ⟨c, hc, rfl⟩ := List.mem_map.mp h
  exact hc

theorem failure_of_accepted {commands : List Command} {x : Exchange}
    (h : x ∈ accepted commands) : x.failure = none := by
  obtain ⟨c, -, rfl⟩ := List.mem_map.mp h
  rfl

theorem command_mem_of_stopped {front back : List Command} {c : Command} {f : Option Failure}
    {x : Exchange} (h : x ∈ accepted front ++ [⟨c, f⟩]) : x.command ∈ front ++ c :: back := by
  rcases List.mem_append.mp h with h | h
  · exact List.mem_append_left _ (command_mem_of_accepted h)
  · rw [List.mem_singleton.mp h]
    exact List.mem_append_right _ List.mem_cons_self

/-- All of the commands succeed when they are sent one after the other. -/
def Accepts (db : Database) : History → List Command → Prop
  | _, [] => True
  | before, c :: commands =>
      (∃ a, db.respond before c = .ok a) ∧ db.Accepts (before ++ [⟨c, none⟩]) commands

theorem accepts_append {before : History} {front back : List Command} :
    db.Accepts before (front ++ back) ↔
      db.Accepts before front ∧ db.Accepts (before ++ accepted front) back := by
  induction front generalizing before with
  | nil => simp [Accepts]
  | cons c front ih => simp [Accepts, ih, and_assoc]

/-- Sends commands one after the other, until one fails. -/
def sendAll (db : Database) : List Command → Conversation Failure Unit
  | [] => pure ()
  | c :: commands => do
      let _ ← db.send c
      db.sendAll commands

theorem sendAll_append (db : Database) (front back : List Command) :
    db.sendAll (front ++ back) = db.sendAll front >>= fun _ => db.sendAll back := by
  induction front with
  | nil => rfl
  | cons c front ih =>
      rw [List.cons_append, sendAll, sendAll, Conversation.bind_assoc]
      simp only [ih]

theorem sendAll_of_accepts {before : History} {commands : List Command}
    (h : db.Accepts before commands) :
    db.sendAll commands before = (.ok (), before ++ accepted commands) := by
  induction commands generalizing before with
  | nil => rw [accepted_nil, List.append_nil]; rfl
  | cons c commands ih =>
      obtain ⟨⟨a, ha⟩, hrest⟩ := h
      rw [sendAll, Conversation.bind_of_ok (send_of_ok ha), ih hrest, accepted_cons,
        List.append_assoc]
      rfl

/-- None of the commands behind the first one that fails is sent. -/
theorem sendAll_of_stopped {before : History} {front back : List Command} {c : Command}
    {f : Failure} (hfront : db.Accepts before front)
    (hc : db.respond (before ++ accepted front) c = .error f) :
    db.sendAll (front ++ c :: back) before =
      (.error f, before ++ accepted front ++ [⟨c, some f⟩]) := by
  induction front generalizing before with
  | nil =>
      rw [accepted_nil, List.append_nil] at hc ⊢
      rw [List.nil_append, sendAll, Conversation.bind_of_error (send_of_error hc)]
  | cons d front ih =>
      obtain ⟨⟨a, ha⟩, hrest⟩ := hfront
      have happend : before ++ accepted (d :: front) =
          before ++ [⟨d, none⟩] ++ accepted front := by
        rw [accepted_cons, List.append_assoc]
        rfl
      rw [happend] at hc ⊢
      rw [List.cons_append, sendAll, Conversation.bind_of_ok (send_of_ok ha), ih hrest hc]

theorem accepts_or_stopped (db : Database) (before : History) (commands : List Command) :
    db.Accepts before commands ∨
      ∃ front c back f, commands = front ++ c :: back ∧ db.Accepts before front ∧
        db.respond (before ++ accepted front) c = .error f := by
  induction commands generalizing before with
  | nil => exact .inl trivial
  | cons c commands ih =>
      cases hc : db.respond before c with
      | error f =>
          rw [← List.append_nil before] at hc
          exact .inr ⟨[], c, commands, f, rfl, trivial, hc⟩
      | ok a =>
          rcases ih (before ++ [⟨c, none⟩]) with hall | ⟨front, d, back, f, rfl, hfront, hd⟩
          · exact .inl ⟨⟨a, hc⟩, hall⟩
          · refine .inr ⟨c :: front, d, back, f, rfl, ⟨⟨a, hc⟩, hfront⟩, ?_⟩
            rw [← hd, accepted_cons, List.append_assoc]
            rfl

/-! ## Ends of a transaction -/

/-- What is said to roll back: a second attempt follows the first one if that fails. -/
inductive RolledBack : History → Prop where
  | once : RolledBack [⟨.rollback, none⟩]
  | twice (f : Failure) (g : Option Failure) : RolledBack [⟨.rollback, some f⟩, ⟨.rollback, g⟩]

theorem RolledBack.command_eq {said : History} {x : Exchange} (h : RolledBack said)
    (hx : x ∈ said) : x.command = .rollback := by
  cases h with
  | once => rw [List.mem_singleton.mp hx]
  | twice f g =>
      simp only [List.mem_cons, List.not_mem_nil, or_false] at hx
      rcases hx with rfl | rfl <;> rfl

theorem rollback_run {ε : Type} (db : Database) (before : History) :
    ∃ said, RolledBack said ∧
      (db.rollback : Conversation ε Unit) before = (.ok (), before ++ said) := by
  cases h : db.respond before .rollback with
  | ok a =>
      refine ⟨_, .once, ?_⟩
      rw [rollback, Conversation.attempt_bind_apply, send_of_ok h]
      rfl
  | error f =>
      refine ⟨_, .twice f (failure? (db.respond (before ++ [⟨.rollback, some f⟩]) .rollback)), ?_⟩
      rw [rollback, Conversation.attempt_bind_apply, send_of_error h]
      simp [sendAnyway, send]

theorem commit_of_ok {before : History} {a : Unit} (h : db.respond before .commit = .ok a) :
    db.commit before = (.ok (), before ++ [⟨.commit, none⟩]) := by
  rw [commit, Conversation.attempt_bind_apply, send_of_ok h]
  rfl

theorem commit_of_error {before : History} {f : Failure}
    (h : db.respond before .commit = .error f) :
    ∃ g, db.commit before = (.error f, before ++ [⟨.commit, some f⟩, ⟨.rollback, g⟩]) := by
  refine ⟨failure? (db.respond (before ++ [⟨.commit, some f⟩]) .rollback), ?_⟩
  rw [commit, Conversation.attempt_bind_apply, send_of_error h]
  simp [sendAnyway, send, Conversation.bind_apply, Conversation.fail]

/-- How a transaction ends: it is committed if all went well, and rolled back if it cannot be. -/
inductive Closing : Except Failure Unit → History → Except Failure Unit → Prop where
  | committed : Closing (.ok ()) [⟨.commit, none⟩] (.ok ())
  | uncommitted (f : Failure) (g : Option Failure) :
      Closing (.ok ()) [⟨.commit, some f⟩, ⟨.rollback, g⟩] (.error f)
  | abandoned (f : Failure) (g : Option Failure) :
      Closing (.error f) [⟨.rollback, g⟩] (.error f)

theorem Closing.command_eq {r s : Except Failure Unit} {said : History} {x : Exchange}
    (h : Closing r said s) (hx : x ∈ said) : x.command = .commit ∨ x.command = .rollback := by
  cases h with
  | committed => exact .inl (congrArg Exchange.command (List.mem_singleton.mp hx))
  | uncommitted f g =>
      rcases List.mem_cons.mp hx with rfl | hx
      · exact .inl rfl
      · exact .inr (congrArg Exchange.command (List.mem_singleton.mp hx))
  | abandoned f g => exact .inr (congrArg Exchange.command (List.mem_singleton.mp hx))

theorem commit_meets (db : Database) : db.commit.Meets fun _ said r => Closing (.ok ()) said r := by
  intro before
  cases h : db.respond before .commit with
  | ok a =>
      rw [commit_of_ok h]
      exact ⟨_, rfl, .committed⟩
  | error f =>
      obtain ⟨g, hrun⟩ := commit_of_error h
      rw [hrun]
      exact ⟨_, rfl, .uncommitted f g⟩

/-- Commits a transaction in which all went well, and rolls back any other. -/
def conclude (db : Database) : Except Failure Unit → Conversation Failure Unit
  | .ok () => db.commit
  | .error f => do
      db.sendAnyway .rollback
      Conversation.fail f

theorem conclude_meets (db : Database) (r : Except Failure Unit) :
    (db.conclude r).Meets fun _ said s => Closing r said s := by
  cases r with
  | ok a => exact db.commit_meets
  | error f => exact fun _ => ⟨_, rfl, .abandoned f _⟩

end Database

/-! ## Conversations that send commands in a row -/

namespace Conversation

open Database (accepted)

variable {ε δ α β : Type} {m : Conversation ε α} {commands front back : List Command}
  {said : History} {r : Except ε α}

/-- Commands were sent one after the other until one of them failed, and then no more. -/
inductive Sent (commands : List Command) : History → Except ε α → Prop where
  | all (a : α) : Sent commands (accepted commands) (.ok a)
  | stopped {front back : List Command} {c : Command} (h : commands = front ++ c :: back)
      (f : Failure) (e : ε) : Sent commands (accepted front ++ [⟨c, some f⟩]) (.error e)

def Sends (m : Conversation ε α) (commands : List Command) : Prop :=
  m.Meets fun _ said r => Sent commands said r

theorem Sent.error_append {e : ε} (h : Sent front said (.error e : Except ε α))
    (back : List Command) : Sent (front ++ back) said (.error e : Except ε β) := by
  cases h with
  | @stopped stem tail c h f =>
      have hlonger : front ++ back = stem ++ c :: (tail ++ back) := by
        rw [h, List.append_assoc, List.cons_append]
      exact .stopped hlonger f e

theorem Sent.accepted_append (front : List Command) (h : Sent back said r) :
    Sent (front ++ back) (accepted front ++ said) r := by
  cases h with
  | all a =>
      rw [← Database.accepted_append]
      exact .all a
  | @stopped stem tail c h f e =>
      have hlonger : front ++ back = front ++ stem ++ c :: tail := by rw [h, List.append_assoc]
      rw [← List.append_assoc, ← Database.accepted_append]
      exact .stopped hlonger f e

theorem Sends.bind {f : α → Conversation ε β} (hm : m.Sends front)
    (hf : ∀ a, (f a).Sends back) : (m >>= f).Sends (front ++ back) := by
  refine Meets.bind hm hf (fun _ _ _ h => h.error_append back) ?_
  intro _ _ _ _ _ hfront hback
  cases hfront with
  | all => exact hback.accepted_append front

theorem Sends.mapError {f : ε → δ} (hm : m.Sends commands) : (m.mapError f).Sends commands := by
  refine Meets.mapError hm fun _ _ _ h => ?_
  cases h with
  | all a => exact .all a
  | stopped h failure e => exact .stopped h failure (f e)

theorem sends_pure (a : α) : (pure a : Conversation ε α).Sends [] :=
  meets_pure a fun _ => .all a

theorem Sent.said_eq {a : α} (h : Sent commands said (.ok a : Except ε α)) :
    said = accepted commands := by
  cases h with
  | all => rfl

theorem Sent.failed {e : ε} (h : Sent commands said (.error e : Except ε α)) :
    ∃ x ∈ said, x.failure ≠ none := by
  cases h with
  | @stopped front back c _ f =>
      exact ⟨⟨c, some f⟩, List.mem_append_right _ List.mem_cons_self, Option.some_ne_none f⟩

/-- What was said are the first ones of the commands. -/
theorem Sent.commands_prefix (h : Sent commands said r) :
    said.map Exchange.command <+: commands := by
  cases h with
  | all => exact ⟨[], by rw [Database.map_command_accepted, List.append_nil]⟩
  | @stopped front back c h =>
      refine ⟨back, ?_⟩
      rw [h, List.map_append, Database.map_command_accepted, List.append_assoc]
      rfl

theorem Sent.command_mem (h : Sent commands said r) {x : Exchange} (hx : x ∈ said) :
    x.command ∈ commands :=
  h.commands_prefix.subset (List.mem_map_of_mem hx)

end Conversation

namespace Database

theorem send_sends (db : Database) (c : Command) : (db.send c).Sends [c] := by
  intro before
  cases h : db.respond before c with
  | ok a =>
      rw [send_of_ok h]
      exact ⟨_, rfl, .all a⟩
  | error f =>
      rw [send_of_error h]
      exact ⟨_, rfl, @Conversation.Sent.stopped _ _ [c] [] [] c rfl f f⟩

theorem acquire_sends (db : Database) : db.acquire.Sends [.connect] :=
  (send_sends db .connect).mapError

theorem sendAll_sends (db : Database) (commands : List Command) :
    (db.sendAll commands).Sends commands := by
  induction commands with
  | nil => exact Conversation.sends_pure ()
  | cons c commands ih => exact (send_sends db c).bind fun _ => ih

end Database

end TableGateway
