import TableGateway.Database.Basic
import TableGateway.Text.Cut

/-! # Databases that follow a script

A script answers a statement by the first of its rules whose pattern is at the front of the
statement. A statement without a rule succeeds without rows.
-/

namespace TableGateway.Database

/-! ## Rules -/

/-- When a rule reports its error. -/
inductive Stage where
  | prepare
  | execute
deriving DecidableEq

/-- An error of a rule. With an ordinal it is reported at that use of the rule only. -/
structure RuleError where
  error : ServerError
  stage : Stage
  ordinal : Option Nat

/-- How statements with a common front are answered. -/
structure Rule where
  front : String
  /-- The types of the first parameters. -/
  types : List String
  /-- How many parameters the statement is said to have. -/
  described : Option Nat
  column : String
  cells : List Cell
  affected : Nat
  error : Option RuleError

/-- A script, and the error that stands in the way of connecting to it. -/
structure Script where
  rules : List Rule
  connectError : Option ServerError

namespace Script

/-- The place of the rule of a statement. -/
def place? (s : Script) (sql : String) : Option Nat :=
  s.rules.findIdx? fun rule => Text.startsWith rule.front sql

/-! ## Statements -/

/-- The greatest number behind a dollar sign. -/
def greatestPlaceholder : List Char → Nat
  | [] => 0
  | '$' :: cs =>
      max (Nat.ofDigitChars 10 (cs.takeWhile Char.isDigit) 0) (greatestPlaceholder cs)
  | _ :: cs => greatestPlaceholder cs

/-- The statement of a command that is executed. -/
def executedSql? : Command → Option String
  | .begin => some "BEGIN"
  | .commit => some "COMMIT"
  | .rollback => some "ROLLBACK"
  | .execute sql _ => some sql
  | _ => none

/-- How often the rule at a place was used to execute a statement. -/
def uses (s : Script) (place : Nat) (history : History) : Nat :=
  history.countP fun x => (executedSql? x.command).any fun sql => s.place? sql = some place

/-- The error of a statement at a stage. -/
def error? (s : Script) (history : History) (stage : Stage) (sql : String) :
    Option ServerError := do
  let place ← s.place? sql
  let rule ← s.rules[place]?
  let error ← rule.error
  let due := error.ordinal.all fun n => s.uses place history + 1 = n
  if error.stage = stage ∧ due then some error.error else none

/-- The types of the parameters of a statement. -/
def parameterTypes (s : Script) (sql : String) : List String :=
  let rule := (s.place? sql).bind fun place => s.rules[place]?
  let described := (rule.bind Rule.described).getD (greatestPlaceholder sql.toList)
  let types := (rule.map Rule.types).getD []
  (List.range described).map fun n => types.getD n "TEXT"

/-- What a statement results in. -/
def reply (s : Script) (sql : String) : Reply :=
  match (s.place? sql).bind fun place => s.rules[place]? with
  | some rule => ⟨rule.column, rule.cells, rule.affected⟩
  | none => ⟨"row", [], 0⟩

/-! ## Answers -/

/-- A result, unless there is an error. -/
def unlessError {α : Type} (error : Option ServerError) (result : α) : Except Failure α :=
  match error with
  | some e => .error (.server e)
  | none => .ok result

/-- The database that follows the script. -/
def database (s : Script) : Database where
  respond history
    | .connect => unlessError s.connectError ()
    | .begin => unlessError (s.error? history .execute "BEGIN") ()
    | .commit => unlessError (s.error? history .execute "COMMIT") ()
    | .rollback => unlessError (s.error? history .execute "ROLLBACK") ()
    | .prepare sql => unlessError (s.error? history .prepare sql) (s.parameterTypes sql)
    | .execute sql _ => unlessError (s.error? history .execute sql) (s.reply sql)

end Script

end TableGateway.Database
