import TableGateway.Governance.Strip
import TableGateway.Network.Address
import TableGateway.Request.Basic
import TableGateway.Session.Claims

/-! # Callers -/

namespace TableGateway.Http

open Network (Address)

/-! ## Headers -/

/-- The headers of a request in order, repetitions kept. -/
abbrev Headers := List (String × String)

/-- Spaces, tabs and the visible characters of the ASCII set make a readable value. -/
def isReadable (value : String) : Bool :=
  value.toList.all fun c => c == '\t' || (0x20 ≤ c.toNat && c.toNat ≤ 0x7E)

/-- The first value under a name. One that is not readable counts as missing. -/
def header? (headers : Headers) (name : String) : Option String :=
  match headers.find? fun (n, _) => Text.lower n = name with
  | some (_, value) => if isReadable value then some (Text.trim value) else none
  | none => none

/-- The headers that bear on a statement. -/
def requestHeaders (headers : Headers) : Request.Headers :=
  .ofPairs (headers.filter fun (_, value) => isReadable value)

/-! ## Callers -/

/-- Who sends a request, for which project, and how the answer shall look. -/
structure Caller where
  projectId : String
  claims : Claims
  role : String
  sourceAddress : Option String
  locks : LockMap
  /-- The caller asks for a single object instead of an array. -/
  singular : Bool

namespace Caller

/-- The media type of a single object. -/
def singularMediaType : String := "application/vnd.pgrst.object+json"

/-- The role of a caller that claims none. -/
def anonymousRole : String := "anon"

/-- The first hop that a request was forwarded for, or else the peer that sends it. -/
def sourceAddressOf (headers : Headers) (peer : Option Address) : Option String :=
  let hop := (header? headers "x-forwarded-for").map fun list =>
    Text.trim ((Text.pieces ',' list).headD "")
  (hop.filter fun hop => !hop.toList.isEmpty).or (peer.map Address.text)

/-- The locks of a caller. Locks that cannot be read are no locks. -/
def locksOf (headers : Headers) : LockMap :=
  ((header? headers "x-column-locks").bind LockMap.ofText?).getD LockMap.empty

/-- The caller of a request, unless the request names no project. -/
def ofHeaders? (headers : Headers) (peer : Option Address) : Option Caller := do
  let projectId ← (header? headers "x-project-id").filter fun id => !id.toList.isEmpty
  let claimed := (header? headers "x-claim-role").getD anonymousRole
  return {
    projectId := projectId
    claims := {
      subject := (header? headers "x-claim-sub").getD ""
      role := claimed
      email := (header? headers "x-claim-email").getD "" }
    role := (header? headers "x-caller-role").getD claimed
    sourceAddress := sourceAddressOf headers peer
    locks := locksOf headers
    singular := (header? headers "accept").any (Text.occursIn singularMediaType) }

/-- What the caller may write. -/
def governance (c : Caller) : Governance.Context where
  locks := c.locks
  callerRole := c.role
  projectId := c.projectId
  sourceAddress := c.sourceAddress

end Caller

end TableGateway.Http
