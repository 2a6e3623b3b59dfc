import TableGateway.Query.Compile

/-! # Statements with their quoting spelled out

A name goes into a statement by being quoted, which fails for the empty one. The compiler relies on
its checks and has no such failures. Here every name is quoted where it is put to use, and the names
are kept in the order in which that happens, whatever becomes of the request.
-/

namespace TableGateway.Query

open Sql (Fragment)

/-! ## Computations that quote -/

/-- What a computation ends with, and the names that it quoted. -/
structure Quoting (α : Type) where
  outcome : Except Error α
  quoted : List String

namespace Quoting

variable {α β : Type}

/-- A computation without a name in it. -/
def ofExcept (x : Except Error α) : Quoting α := ⟨x, []⟩

/-- Goes on with the result of a computation, if it has one. -/
def andThen (m : Quoting α) (f : α → Quoting β) : Quoting β :=
  match m.outcome with
  | .error e => ⟨.error e, m.quoted⟩
  | .ok a => ⟨(f a).outcome, m.quoted ++ (f a).quoted⟩

instance : Monad Quoting where
  pure a := ofExcept (.ok a)
  bind := andThen

def refuse (e : Error) : Quoting α := ofExcept (.error e)

/-- Quotes a name, or refuses the request. -/
def name (n : String) : Quoting Fragment :=
  ⟨((Sql.Identifier.quote n).mapError Error.ofIdentifier).map fun _ => .name n, [n]⟩

/-- Quotes a name that is passed over where it cannot be quoted. -/
def name? (n : String) : Quoting (Option Fragment) :=
  ⟨.ok ((Sql.Identifier.quote n).toOption.map fun _ => .name n), [n]⟩

/-- What is made of a column, which is quoted once it is known to be plain. -/
def ofColumn? (column : String) (a : α) : Quoting (Option α) :=
  if Sql.Identifier.isValid column then do
    let some _ ← name? column | return none
    return some a
  else return none

/-- Quotes the names of a list, which commas separate. -/
def names (ns : List String) : Quoting (List Fragment) := do
  let quoted ← ns.mapM name
  return Fragment.listed (quoted.map fun fragment => [fragment])

/-! ## Tables -/

def qualified (schema : Option String) (table : String) : Quoting (List Fragment) :=
  match schema with
  | none => do
      let table ← name table
      return [table]
  | some schema => do
      let schema ← name schema
      let table ← name table
      return [schema, .fixed ".", table]

def target (settings : Settings) (request : Request) : Quoting (List Fragment) :=
  if !Sql.Identifier.isValid request.table then refuse .invalidTable
  else
    match request.profile?.or settings.defaultSchema with
    | none => qualified none request.table
    | some schema =>
        if Sql.Identifier.isValid schema then qualified (some schema) request.table
        else refuse (.invalidIdentifier "schema")

/-! ## Reading -/

def column (text : String) : Quoting Fragment := do
  let column ← ofExcept (columnName text)
  name column

def selectEntry (entry : String) : Quoting (List Fragment) :=
  if forbiddenMarks.any fun mark => Text.occursIn mark entry then
    refuse (.invalidIdentifier "select list entry")
  else if entry = "*" then return [.fixed "*"]
  else if isExpression entry then return [.expression entry]
  else
    match Text.cut ':' entry with
    | none => do
        let column ← column entry
        return [column]
    | some (text, label) => do
        let column ← column text
        let label ← Quoting.column label
        return [column, .fixed " AS ", label]

def selectList (raw : Option String) : Quoting (List Fragment) := do
  let entries := ((splitTopLevel (raw.getD "")).map Text.trim).filter fun entry =>
    !entry.toList.isEmpty
  match ← entries.mapM selectEntry with
  | [] => return [.fixed "*"]
  | entries => return Fragment.listed entries

def filter? (column raw : String) : Quoting (Option Filter) :=
  let (operator, operand) := splitOperand raw
  ofColumn? column ⟨column, operator, operand⟩

def conditions (placeholder : Nat) : List (String × String) → Quoting (List Condition)
  | [] => return []
  | (column, raw) :: filters => do
      match (← filter? column raw).bind fun f => f.condition? placeholder with
      | none => conditions placeholder filters
      | some c => do
          let cs ← conditions (placeholder + c.value.toList.length) filters
          return c :: cs

def orderTerm? (term : String) : Quoting (Option OrderTerm) :=
  match Text.pieces '.' term with
  | [] => return none
  | column :: modifiers =>
      ofColumn? column (modifiers.foldl OrderTerm.modify ⟨column, false, none⟩)

def orderFragments (raw : Option String) : Quoting (List Fragment) := do
  let terms ← ((Text.pieces ',' (raw.getD "")).map Text.trim).mapM orderTerm?
  match terms.filterMap id with
  | [] => return []
  | terms => return .fixed " ORDER BY " :: Fragment.listed (terms.map OrderTerm.fragments)

def compileRead (settings : Settings) (request : Request) (target : List Fragment) :
    Quoting Compiled := do
  let columns ← selectList (request.parameter? "select")
  let conditions ← conditions 1 request.filters
  let page := Request.Page.resolve request.headers.range (request.parameter? "limit")
    (request.parameter? "offset") settings.maxRows
  let source := target ++ whereFragments conditions
  let order ← orderFragments (request.parameter? "order")
  return {
    query := {
      statement := .fixed "SELECT " :: columns ++ .fixed " FROM " :: source
        ++ order ++ page.fragments
      parameters := conditionValues conditions
      count :=
        if request.headers.prefer.countExact then some (.fixed "SELECT COUNT(*) FROM " :: source)
        else none
      returnsRows := true }
    incidents := []
    page := some page }

/-! ## Inserting -/

def conflictFragments (request : Request) (locks : LockMap) (columns : List String) :
    Quoting (List Fragment) :=
  match request.headers.prefer.resolution with
  | none => return []
  | some .ignoreDuplicates => return [.fixed " ON CONFLICT DO NOTHING"]
  | some .mergeDuplicates => do
      let target ← names (← ofExcept (conflictTarget request))
      let start := .fixed " ON CONFLICT (" :: target
      let updated := columns.filter fun column => locks.level column ≠ .insertOnly
      let updates ← updated.mapM fun column => do
        let column ← name column
        return [column, .fixed " = EXCLUDED.", column]
      match updates with
      | [] => return start ++ [.fixed ") DO NOTHING"]
      | updates => return start ++ .fixed ") DO UPDATE SET " :: Fragment.listed updates

def compileInsert (request : Request) (target : List Fragment) (context : Governance.Context) :
    Quoting Compiled := do
  let some body := request.body | refuse .emptyPayload
  let payload ← ofExcept ((Payload.ofJson body).mapError .invalidPayload)
  if payload.rows.isEmpty then refuse .emptyPayload
  let governed := Governance.strip context request.table .insert payload.rows
  let rows ← ofExcept (restrictColumns request governed.rows)
  let columns := columnUnion rows
  if columns.isEmpty then refuse .emptyPayload
  if rows.any fun row => row.size ≠ columns.length then refuse .nonUniformBatch
  let quoted ← names columns
  let conflict ← conflictFragments request context.locks columns
  let returning := !request.headers.prefer.wantsMinimal
  return {
    query := {
      statement := .fixed "INSERT INTO " :: target ++ .fixed " (" :: quoted
        ++ .fixed ") VALUES " ::
          Fragment.listed (placeholderGroups columns.length 1 rows.length)
        ++ conflict ++ returningFragments returning
      parameters := rows.flatMap fun row => columns.map fun c => (row.get? c).getD .null
      count := none
      returnsRows := returning }
    incidents := governed.incidents
    page := none }

/-! ## Updating and deleting -/

def assignments : Nat → List String → Quoting (List (List Fragment))
  | _, [] => return []
  | placeholder, column :: columns => do
      let column ← name column
      let rest ← assignments (placeholder + 1) columns
      return [column, .fixed " = ", .placeholder placeholder] :: rest

def compileUpdate (request : Request) (target : List Fragment) (context : Governance.Context) :
    Quoting Compiled := do
  let row ← ofExcept (updatedRow request)
  let governed := Governance.strip context request.table .update [row]
  let row := governed.rows.headD Row.empty
  let conditions ← conditions (row.size + 1) request.filters
  if conditions.isEmpty then refuse (.missingFilter request.method)
  if row.isEmpty then refuse .emptyPayload
  let assignments ← assignments 1 row.names
  let returning := request.headers.prefer.wantsRepresentation
  return {
    query := {
      statement := .fixed "UPDATE " :: target ++ .fixed " SET "
          :: Fragment.listed assignments
        ++ whereFragments conditions ++ returningFragments returning
      parameters := row.columns.map Prod.snd ++ conditionValues conditions
      count := none
      returnsRows := returning }
    incidents := governed.incidents
    page := none }

def compileDelete (request : Request) (target : List Fragment) : Quoting Compiled := do
  let conditions ← conditions 1 request.filters
  if conditions.isEmpty then refuse (.missingFilter request.method)
  let returning := request.headers.prefer.wantsRepresentation
  return {
    query := {
      statement := .fixed "DELETE FROM " :: target ++ whereFragments conditions
        ++ returningFragments returning
      parameters := conditionValues conditions
      count := none
      returnsRows := returning }
    incidents := []
    page := none }

/-! ## All methods -/

def compile (settings : Settings) (request : Request) (context : Governance.Context) :
    Quoting Compiled := do
  let target ← target settings request
  match request.method with
  | .get => compileRead settings request target
  | .post => compileInsert request target context
  | .patch => compileUpdate request target context
  | .delete => compileDelete request target

end Quoting

end TableGateway.Query
