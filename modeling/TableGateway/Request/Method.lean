import TableGateway.Text.Letter

/-! # Methods of a request -/

namespace TableGateway.Request

/-- What a request asks to be done with the rows of a table. -/
inductive Method where
  | get
  | post
  | patch
  | delete
deriving DecidableEq

namespace Method

def text : Method → String
  | get => "GET"
  | post => "POST"
  | patch => "PATCH"
  | delete => "DELETE"

/-- The method changes nothing. -/
def isRead : Method → Bool
  | get => true
  | _ => false

/-- The method of a name that is written in upper case. -/
def ofText? (name : String) : Option Method :=
  [get, post, patch, delete].find? fun m => m.text = name

/-- No method has the name. -/
structure Unsupported where
  name : String
deriving DecidableEq

def Unsupported.message (e : Unsupported) : String :=
  "unsupported method: " ++ e.name

/-- The method of a name in letters of either case. -/
def parse (name : String) : Except Unsupported Method :=
  let name := Text.upper name
  match ofText? name with
  | some m => .ok m
  | none => .error ⟨name⟩

end Method

end TableGateway.Request
