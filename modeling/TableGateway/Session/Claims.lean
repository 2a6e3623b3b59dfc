import TableGateway.Json.Fields
import TableGateway.Json.Record

/-! # Claims of a caller -/

namespace TableGateway

/-- Who a caller claims to be. -/
structure Claims where
  subject : String
  role : String
  email : String
deriving DecidableEq

namespace Claims

/-- The claims as a JSON object. -/
def toJson (c : Claims) : Json :=
  .object [("sub", .string c.subject), ("role", .string c.role), ("email", .string c.email)]

/-- The claims written field by field. -/
def serialized (c : Claims) : String :=
  let w := Json.RecordWriter.start.field "sub" (Json.quotedChars c.subject)
  let w := w.field "role" (Json.quotedChars c.role)
  let w := w.field "email" (Json.quotedChars c.email)
  w.finish

/-- Reads an object, or an array of the values in order. The email address may be missing. -/
def ofTree? : Json.Tree → Option Claims
  | .object members => do
      let fields ← Json.fields? ["sub", "role", "email"] members
      let subject ← (← Association.get? "sub" fields).string?
      let role ← (← Association.get? "role" fields).string?
      let email ← match Association.get? "email" fields with
        | none => some ""
        | some t => t.string?
      return ⟨subject, role, email⟩
  | .array [subject, role] => do
      return ⟨← subject.string?, ← role.string?, ""⟩
  | .array [subject, role, email] => do
      return ⟨← subject.string?, ← role.string?, ← email.string?⟩
  | _ => none

def ofText? (s : String) : Option Claims :=
  (Json.Tree.ofText? s).bind ofTree?

end Claims

end TableGateway
