import TableGateway.Database.Basic
import TableGateway.Proofs.Text.Cut

/-! # What is in force in a transaction

A timeout is in force until another one is set, or until the transaction is rolled back to a
savepoint from before. A statement that fails is outstanding until the transaction is rolled back to
a savepoint from before. -/

namespace TableGateway.Database

/-! ## Directives -/

/-- What a statement says of its own transaction. -/
inductive Directive where
  | timeout (milliseconds : Nat)
  | savepoint (name : String)
  | release (name : String)
  | rollbackTo (name : String)
deriving DecidableEq

/-- Reads a statement that says something of its transaction. -/
def Directive.ofText? (sql : String) : Option Directive :=
  (((Text.afterFront? "SET LOCAL statement_timeout = " sql).bind fun digits =>
    Numeral.natural? digits.toList).map timeout).or <|
  ((Text.afterFront? "SAVEPOINT " sql).map savepoint).or <|
  ((Text.afterFront? "RELEASE SAVEPOINT " sql).map release).or <|
  (Text.afterFront? "ROLLBACK TO SAVEPOINT " sql).map rollbackTo

theorem Directive.ofText?_timeout (milliseconds : Nat) :
    ofText? ("SET LOCAL statement_timeout = " ++ Numeral.text milliseconds) =
      some (.timeout milliseconds) := by
  rw [ofText?, Text.afterFront?_eq_some_iff.mpr rfl]
  simp [Numeral.text, Numeral.natural?_digits]

/-! ## Transactions -/

/-- A savepoint, and the timeout that was in force when it was set. -/
structure Savepoint where
  name : String
  timeout : Option Nat
deriving DecidableEq

/-- The timeout in force, where one was set, the savepoints from the latest one on, and whether
there is a failed statement outstanding. -/
structure InForce where
  timeout : Option Nat
  savepoints : List Savepoint
  failed : Bool
deriving DecidableEq

namespace InForce

/-- Nothing was said yet. -/
def fresh : InForce := ⟨none, [], false⟩

/-- The latest savepoint of a name and all that are older. -/
def since (s : InForce) (name : String) : List Savepoint :=
  s.savepoints.dropWhile fun p => p.name ≠ name

/-- To release a savepoint leaves the timeout as it is, and to roll back to one brings back the
timeout from before. Either way the later savepoints are gone. -/
def obey (s : InForce) : Directive → InForce
  | .timeout milliseconds => { s with timeout := some milliseconds }
  | .savepoint name => { s with savepoints := ⟨name, s.timeout⟩ :: s.savepoints }
  | .release name =>
      match s.since name with
      | [] => s
      | _ :: older => { s with savepoints := older }
  | .rollbackTo name =>
      match s.since name with
      | [] => s
      | p :: older => ⟨p.timeout, p :: older, false⟩

/-- What is in force after an exchange. Where a transaction begins or ends, nothing is. -/
def step (s : InForce) (x : Exchange) : InForce :=
  match x.command, x.failure with
  | .prepare _, none => s
  | .execute sql _, none => ((Directive.ofText? sql).map s.obey).getD s
  | .prepare _, some _ => { s with failed := true }
  | .execute _ _, some _ => { s with failed := true }
  | _, _ => fresh

/-- What is in force after all that was said. -/
def after (history : History) : InForce :=
  history.foldl step fresh

theorem obey_timeout {s : InForce} (h : s.failed = false) (milliseconds : Nat) :
    s.obey (.timeout milliseconds) = ⟨some milliseconds, s.savepoints, false⟩ := by
  rw [← h]
  rfl

/-- No directive makes a statement fail. -/
theorem failed_obey {s : InForce} (h : s.failed = false) (d : Directive) :
    (s.obey d).failed = false := by
  cases d with
  | timeout => exact h
  | savepoint => exact h
  | release name =>
      simp only [obey]
      split
      · exact h
      · exact h
  | rollbackTo name =>
      simp only [obey]
      split
      · exact h
      · rfl

theorem after_append (front back : History) :
    after (front ++ back) = back.foldl step (after front) :=
  List.foldl_append

end InForce

end TableGateway.Database
