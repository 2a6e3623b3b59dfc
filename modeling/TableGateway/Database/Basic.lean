import TableGateway.Parameter.Basic

/-! # Databases and conversations with them

A database is known by its behaviour: what it answers to a command may depend on all that was said
to it before, and on nothing else.
-/

namespace TableGateway

namespace Database

/-! ## Failures -/

/-- An error that the server reports. -/
structure ServerError where
  code : String
  message : String
  detail : Option String
  hint : Option String
  position : Option Nat

/-- Why a command has no result: the server reports an error, its address is no locator, no
connection can be had in time, a row is missing, or a value is not what it should be. -/
inductive Failure where
  | server (e : ServerError)
  | badAddress
  | timedOut
  | missingRow
  | unreadableValue

/-- The code of an error that the server reports. -/
def Failure.code? : Failure → Option String
  | server e => some e.code
  | _ => none

def Failure.message : Failure → String
  | server e => "error returned from database: " ++ e.message
  | badAddress => "error with configuration"
  | timedOut => "pool timed out while waiting for an open connection"
  | missingRow => "no rows returned by a query that expected to return at least one row"
  | unreadableValue => "error occurred while decoding a value"

/-! ## Commands -/

/-- The value of the only column of a row. -/
inductive Cell where
  | null
  | json (text : String)
  | integer (n : Int)

/-- What a statement results in: the rows, which have one column, and how many it changed. -/
structure Reply where
  column : String
  cells : List Cell
  affected : Nat

/-- What can be asked of a database. -/
inductive Command where
  | connect
  | begin
  | commit
  | rollback
  | prepare (sql : String)
  | execute (sql : String) (arguments : List Parameter)

/-- What a command results in. A prepared statement has the types of its parameters. -/
@[reducible] def Command.Result : Command → Type
  | .prepare _ => List String
  | .execute _ _ => Reply
  | _ => Unit

/-- A command, and why it failed if it did. -/
structure Exchange where
  command : Command
  failure : Option Failure

/-- All that was said so far, in order. -/
abbrev History := List Exchange

end Database

/-- What a database answers to each command. -/
structure Database where
  respond : Database.History → (c : Database.Command) → Except Database.Failure c.Result

/-! ## Conversations -/

/-- A conversation goes on from what was said so far. It has a result or fails, and either way it
adds to what was said. -/
def Conversation (ε α : Type) : Type :=
  Database.History → Except ε α × Database.History

namespace Conversation

variable {ε δ α β : Type}

instance : Monad (Conversation ε) where
  pure a := fun h => (.ok a, h)
  bind m f := fun h =>
    match m h with
    | (.ok a, h) => f a h
    | (.error e, h) => (.error e, h)

/-- Fails without a word. -/
def fail (e : ε) : Conversation ε α := fun h => (.error e, h)

def ofExcept (r : Except ε α) : Conversation ε α := fun h => (r, h)

/-- Goes on with the outcome, whether it is a result or a failure. -/
def attempt (m : Conversation ε α) : Conversation δ (Except ε α) := fun h =>
  let (r, h) := m h
  (.ok r, h)

/-- The same conversation with another word for its failure. -/
def mapError (f : ε → δ) (m : Conversation ε α) : Conversation δ α := fun h =>
  let (r, h) := m h
  (r.mapError f, h)

theorem bind_apply (m : Conversation ε α) (f : α → Conversation ε β) (h : Database.History) :
    (m >>= f) h = match m h with
      | (.ok a, h) => f a h
      | (.error e, h) => (.error e, h) := rfl

end Conversation

namespace Database

/-- The failure of an outcome. -/
def failure? {α : Type} : Except Failure α → Option Failure
  | .ok _ => none
  | .error f => some f

/-- Says a command and hears the answer. -/
def send (db : Database) (c : Command) : Conversation Failure c.Result := fun h =>
  let r := db.respond h c
  (r, h ++ [⟨c, failure? r⟩])

/-- Says a command and goes on whatever the answer is. -/
def sendAnyway {ε : Type} (db : Database) (c : Command) : Conversation ε Unit := fun h =>
  (.ok (), (db.send c h).2)

/-! ## Connections -/

/-- The codes of a server that takes no connection for the moment. -/
def transientCodes : List String := ["53300", "57P03"]

/-- A server that takes no connection for the moment is asked again until time is up. -/
def Failure.ofConnecting : Failure → Failure
  | server e => if e.code ∈ transientCodes then timedOut else server e
  | f => f

/-- Gets a connection. -/
def acquire (db : Database) : Conversation Failure Unit :=
  (db.send .connect).mapError .ofConnecting

/-! ## Transactions -/

/-- Commits a transaction. One that cannot be committed is rolled back. -/
def commit (db : Database) : Conversation Failure Unit := do
  match ← (db.send .commit).attempt with
  | .ok _ => return ()
  | .error f =>
      db.sendAnyway .rollback
      Conversation.fail f

/-- Rolls a transaction back, at the second attempt if the first one fails. -/
def rollback {ε : Type} (db : Database) : Conversation ε Unit := do
  match ← (db.send .rollback).attempt with
  | .ok _ => return ()
  | .error _ => db.sendAnyway .rollback

end Database

end TableGateway
