import TableGateway.Audit.Table
import TableGateway.Config.File
import TableGateway.Database.Script
import TableGateway.Http.Gateway
import TableGateway.Parameter.Conversion
import TableGateway.Query.Compile
import TableGateway.Query.Quoting
import TableGateway.Query.Slicing
import TableGateway.Session.Claims
import TableGateway.Session.Pools
import TableGateway.Proofs.Query.Placeholders
import TableGateway.Proofs.Query.Noninterference
import TableGateway.Proofs.Query.LockedColumns
import TableGateway.Proofs.Query.Enclosure
import TableGateway.Proofs.Query.Filtering
import TableGateway.Proofs.Query.Marks
import TableGateway.Proofs.Database.Conversation
import TableGateway.Proofs.Session.Scope
import TableGateway.Proofs.Session.Execution
import TableGateway.Proofs.Http.Transaction
import TableGateway.Proofs.Query.Redaction
import TableGateway.Proofs.Http.Incidents
import TableGateway.Proofs.Text.Occurrence
import TableGateway.Proofs.Query.Names
import TableGateway.Proofs.Http.Isolation
import TableGateway.Proofs.Parameter.Json
import TableGateway.Proofs.Query.ConflictTarget
import TableGateway.Proofs.Query.Alignment
import TableGateway.Proofs.Http.Deployment
import TableGateway.Proofs.Session.Counting
import TableGateway.Proofs.Database.Savepoints
import TableGateway.Proofs.Session.Timeouts
import TableGateway.Proofs.Http.SingleObject
import TableGateway.Proofs.Number.Numeral
import TableGateway.Proofs.Text.Cut
import TableGateway.Proofs.Request.Range
import TableGateway.Proofs.Request.Page
import TableGateway.Proofs.Query.Paging
import TableGateway.Proofs.Http.ContentRange
import TableGateway.Proofs.Query.Operands
import TableGateway.Proofs.Text.Quotes
import TableGateway.Proofs.Json.Printer
import TableGateway.Proofs.Parameter.Array
import TableGateway.Proofs.Parameter.Integer
import TableGateway.Proofs.Query.Membership
import TableGateway.Proofs.Time.Civil
import TableGateway.Proofs.Time.FreeForm
import TableGateway.Proofs.Time.Internet
import TableGateway.Proofs.Parameter.Instant
import TableGateway.Proofs.Session.Binding
import TableGateway.Proofs.Http.Binding
import TableGateway.Proofs.Config.Locator
import TableGateway.Proofs.Audit.File
import TableGateway.Proofs.Audit.Table
import TableGateway.Proofs.Row
import TableGateway.Proofs.Query.NormalForm
import TableGateway.Proofs.Query.Quoting
import TableGateway.Proofs.Session.Claims
import TableGateway.Proofs.Query.Ordering
import TableGateway.Proofs.Sql.Unquoting
import TableGateway.Proofs.Query.Splitting
