import TableGateway.Digest.Sha256
import TableGateway.Request.Page
import TableGateway.Sql.Fragment
import TableGateway.Sql.Value

/-! # Compiled statements -/

namespace TableGateway

/-- A statement with the values of its placeholders. -/
structure Query where
  statement : List Sql.Fragment
  parameters : List Sql.Value
  /-- A statement that counts the rows of all pages. -/
  count : Option (List Sql.Fragment)
  returnsRows : Bool

namespace Query

def text (q : Query) : String :=
  Sql.render q.statement

def countText? (q : Query) : Option String :=
  q.count.map Sql.render

/-- The name under which a statement may be kept prepared: a mark and sixteen bytes of its
digest. -/
def statementKey (text : String) : String :=
  let bytes := (Sha256.digest text.toUTF8.toList).take 16
  "rg_" ++ String.ofList (bytes.flatMap fun b => Numeral.hexadecimal 2 b.toNat)

/-- The key of a statement with parameters. One without parameters is not kept. -/
def key? (q : Query) : Option String :=
  if q.parameters.isEmpty then none else some (statementKey q.text)

end Query

end TableGateway
