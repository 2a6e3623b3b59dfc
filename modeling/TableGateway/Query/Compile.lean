import TableGateway.Governance.Strip
import TableGateway.Query.Basic
import TableGateway.Query.Error
import TableGateway.Query.Filter
import TableGateway.Query.Order
import TableGateway.Query.Select
import TableGateway.Request.Basic

/-! # From requests to statements -/

namespace TableGateway.Query

open Sql (Fragment)

/-! ## Settings and results -/

/-- What a deployment lays down for all of its statements. -/
structure Settings where
  defaultSchema : Option String
  maxRows : Option Nat

/-- A statement, what was taken out of it, and the page that it reads. -/
structure Compiled where
  query : Query
  incidents : List Incident
  page : Option Request.Page

/-! ## Tables -/

/-- The table of a request, in the schema that the caller or else the deployment names. -/
def target (settings : Settings) (request : Request) : Except Error (List Fragment) :=
  if !Sql.Identifier.isValid request.table then .error .invalidTable
  else
    match request.profile?.or settings.defaultSchema with
    | none => .ok [.name request.table]
    | some schema =>
        if Sql.Identifier.isValid schema then
          .ok [.name schema, .fixed ".", .name request.table]
        else .error (.invalidIdentifier "schema")

/-! ## Reading -/

/-- The statement that reads a page of the rows that pass the filters. -/
def compileRead (settings : Settings) (request : Request) (target : List Fragment) :
    Except Error Compiled := do
  let columns ← selectList (request.parameter? "select")
  let conditions := conditions 1 request.filters
  let page := Request.Page.resolve request.headers.range (request.parameter? "limit")
    (request.parameter? "offset") settings.maxRows
  let source := target ++ whereFragments conditions
  return {
    query := {
      statement := .fixed "SELECT " :: columns ++ .fixed " FROM " :: source
        ++ orderFragments (request.parameter? "order") ++ page.fragments
      parameters := conditionValues conditions
      count :=
        if request.headers.prefer.countExact then some (.fixed "SELECT COUNT(*) FROM " :: source)
        else none
      returnsRows := true }
    incidents := []
    page := some page }

/-! ## Lists of columns -/

/-- The names of a list, which commas separate. Blank ones are left out. -/
def identifierList (key raw : String) : Except Error (List String) :=
  let names := ((Text.pieces ',' raw).map Text.trim).filter fun name => !name.toList.isEmpty
  if names.all Sql.Identifier.isValid then .ok names else .error (.invalidIdentifier key)

/-- The columns that occur in some row, in the order in which they first come. -/
def columnUnion (rows : List Row) : List String :=
  (rows.flatMap Row.names).foldl (fun union c => if c ∈ union then union else union ++ [c]) []

/-! ## Inserting -/

/-- The rows restricted to the columns that the request names, if it names some. -/
def restrictColumns (request : Request) (rows : List Row) : Except Error (List Row) :=
  match request.parameter? "columns" with
  | none => .ok rows
  | some raw => do
      let allowed ← identifierList "columns" raw
      return rows.map fun row => row.retain fun column _ => column ∈ allowed

/-- Groups of placeholders in parentheses, all of one width and counted through. -/
def placeholderGroups (width : Nat) : Nat → Nat → List (List Fragment)
  | _, 0 => []
  | first, count + 1 =>
      (.fixed "(" ::
        Fragment.listed ((List.range' first width).map fun n => [.placeholder n]) ++ [.fixed ")"])
      :: placeholderGroups width (first + width) count

/-- The column that tells rows apart where the request names none. -/
def defaultConflictColumn : String := "id"

/-- The columns that tell rows apart. -/
def conflictTarget (request : Request) : Except Error (List String) :=
  match request.parameter? "on_conflict" with
  | none => .ok [defaultConflictColumn]
  | some raw => identifierList "on_conflict" raw

/-- What happens to a row that is already there. A column that may be inserted only is not
changed in it. -/
def conflictFragments (request : Request) (locks : LockMap) (columns : List String) :
    Except Error (List Fragment) :=
  match request.headers.prefer.resolution with
  | none => .ok []
  | some .ignoreDuplicates => .ok [.fixed " ON CONFLICT DO NOTHING"]
  | some .mergeDuplicates => do
      let target ← conflictTarget request
      let start := .fixed " ON CONFLICT (" :: Fragment.names target
      match columns.filter fun column => locks.level column ≠ .insertOnly with
      | [] => return start ++ [.fixed ") DO NOTHING"]
      | updated =>
          let updates := updated.map fun column =>
            [.name column, .fixed " = EXCLUDED.", .name column]
          return start ++ .fixed ") DO UPDATE SET " :: Fragment.listed updates

/-- The end of a statement that answers with the rows it wrote. -/
def returningFragments (returning : Bool) : List Fragment :=
  if returning then [.fixed " RETURNING *"] else []

/-- The statement that inserts rows, which must all have the same columns. -/
def compileInsert (request : Request) (target : List Fragment) (context : Governance.Context) :
    Except Error Compiled := do
  let some body := request.body | .error .emptyPayload
  let payload ← (Payload.ofJson body).mapError .invalidPayload
  if payload.rows.isEmpty then .error .emptyPayload
  let governed := Governance.strip context request.table .insert payload.rows
  let rows ← restrictColumns request governed.rows
  let columns := columnUnion rows
  if columns.isEmpty then .error .emptyPayload
  if rows.any fun row => row.size ≠ columns.length then .error .nonUniformBatch
  let conflict ← conflictFragments request context.locks columns
  let returning := !request.headers.prefer.wantsMinimal
  return {
    query := {
      statement := .fixed "INSERT INTO " :: target ++ .fixed " (" :: Fragment.names columns
        ++ .fixed ") VALUES " ::
          Fragment.listed (placeholderGroups columns.length 1 rows.length)
        ++ conflict ++ returningFragments returning
      parameters := rows.flatMap fun row => columns.map fun c => (row.get? c).getD .null
      count := none
      returnsRows := returning }
    incidents := governed.incidents
    page := none }

/-! ## Updating and deleting -/

/-- The row of a body that holds one. A missing body is an empty row. -/
def updatedRow (request : Request) : Except Error Row :=
  match request.body with
  | none => .ok Row.empty
  | some body => do
      match ← (Payload.ofJson body).mapError .invalidPayload with
      | .single row => return row
      | .batch _ => .error (.invalidPayload .notAnObject)

/-- The assignments of a row, with placeholders counted from the given one. -/
def assignments : Nat → List String → List (List Fragment)
  | _, [] => []
  | placeholder, column :: columns =>
      [.name column, .fixed " = ", .placeholder placeholder]
        :: assignments (placeholder + 1) columns

/-- The statement that changes the rows that pass the filters, of which there must be one. -/
def compileUpdate (request : Request) (target : List Fragment) (context : Governance.Context) :
    Except Error Compiled := do
  let row ← updatedRow request
  let governed := Governance.strip context request.table .update [row]
  let row := governed.rows.headD Row.empty
  let conditions := conditions (row.size + 1) request.filters
  if conditions.isEmpty then .error (.missingFilter request.method)
  if row.isEmpty then .error .emptyPayload
  let returning := request.headers.prefer.wantsRepresentation
  return {
    query := {
      statement := .fixed "UPDATE " :: target ++ .fixed " SET "
          :: Fragment.listed (assignments 1 row.names)
        ++ whereFragments conditions ++ returningFragments returning
      parameters := row.columns.map Prod.snd ++ conditionValues conditions
      count := none
      returnsRows := returning }
    incidents := governed.incidents
    page := none }

/-- The statement that deletes the rows that pass the filters, of which there must be one. -/
def compileDelete (request : Request) (target : List Fragment) : Except Error Compiled := do
  let conditions := conditions 1 request.filters
  if conditions.isEmpty then .error (.missingFilter request.method)
  let returning := request.headers.prefer.wantsRepresentation
  return {
    query := {
      statement := .fixed "DELETE FROM " :: target ++ whereFragments conditions
        ++ returningFragments returning
      parameters := conditionValues conditions
      count := none
      returnsRows := returning }
    incidents := []
    page := none }

/-! ## All methods -/

/-- The statement of a request. -/
def compile (settings : Settings) (request : Request) (context : Governance.Context) :
    Except Error Compiled := do
  let target ← target settings request
  match request.method with
  | .get => compileRead settings request target
  | .post => compileInsert request target context
  | .patch => compileUpdate request target context
  | .delete => compileDelete request target

end TableGateway.Query
