import TableGateway.Association
import TableGateway.Sql.Identifier
import TableGateway.Sql.Value

/-! # Rows of a request body -/

namespace TableGateway

/-- The values of a row under the names of their columns, in the order in which they came. -/
structure Row where
  columns : List (String × Sql.Value)

namespace Row

/-! ## Operations -/

def empty : Row := ⟨[]⟩

/-- Sets the value of a column. A column that is there keeps its place. -/
def insert (row : Row) (column : String) (value : Sql.Value) : Row :=
  ⟨Association.put column value row.columns⟩

def get? (row : Row) (column : String) : Option Sql.Value :=
  Association.get? column row.columns

/-- The row without a column. -/
def remove (row : Row) (column : String) : Row :=
  ⟨Association.erase column row.columns⟩

/-- Takes a column out at the place where it is found: its value, and what is left of the row. -/
def extract (row : Row) (column : String) : Option Sql.Value × Row :=
  match row.columns.findIdx? fun p => p.1 = column with
  | none => (none, row)
  | some i => (row.columns[i]?.map Prod.snd, ⟨row.columns.eraseIdx i⟩)

/-- The row with those columns only that pass the test. -/
def retain (row : Row) (keep : String → Sql.Value → Bool) : Row :=
  ⟨row.columns.filter fun (name, value) => keep name value⟩

def names (row : Row) : List String :=
  Association.names row.columns

def size (row : Row) : Nat :=
  row.columns.length

def isEmpty (row : Row) : Bool :=
  row.columns.isEmpty

end Row

end TableGateway
