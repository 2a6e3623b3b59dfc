import TableGateway.Network.Address
import TableGateway.Text.Letter

/-! # Uniform resource locators -/

namespace TableGateway.Network.Url

/-! ## Parts -/

/-- The characters of a text without what locators never hold: blanks and controls at either end,
and tabs and line breaks anywhere. -/
def significant (s : String) : List Char :=
  let isOuter (c : Char) : Bool := c.toNat ≤ 0x20
  let inner := ((s.toList.dropWhile isOuter).reverse.dropWhile isOuter).reverse
  inner.filter fun c => !(c == '\t' || c == '\n' || c == '\r')

/-- What follows the scheme and its colon. A scheme starts with a letter. -/
def afterScheme? (cs : List Char) : Option (List Char) :=
  let isSchemeChar (c : Char) : Bool := c.isAlphanum || c == '+' || c == '-' || c == '.'
  match cs.head?, cs.dropWhile isSchemeChar with
  | some first, ':' :: rest => if first.isAlpha then some rest else none
  | _, _ => none

/-- The marks at which an authority ends. -/
def endsAuthority (c : Char) : Bool :=
  c == '/' || c == '?' || c == '#'

/-- The credentials in front of the last at sign, if there is one, and the rest. -/
def splitCredentials (authority : List Char) : Option (List Char) × List Char :=
  match authority.reverse.span (· ≠ '@') with
  | (_, []) => (none, authority)
  | (rest, _ :: credentials) => (some credentials.reverse, rest.reverse)

/-- The host in front of a colon, which may be part of an address in brackets, and the port behind
the colon if there is one. -/
def splitPort (inBrackets : Bool) : List Char → List Char × Option (List Char)
  | [] => ([], none)
  | c :: cs =>
      if c = ':' ∧ !inBrackets then ([], some cs)
      else
        let inBrackets := if c = '[' then true else if c = ']' then false else inBrackets
        let (host, port) := splitPort inBrackets cs
        (c :: host, port)

/-! ## Validity -/

/-- The characters that no name of a host holds. -/
def isForbidden (c : Char) : Bool :=
  c ∈ ['\x00', ' ', '#', '/', ':', '<', '>', '?', '@', '[', '\\', ']', '^', '|']

/-- A name without forbidden characters, or an address in brackets. -/
def isHost (cs : List Char) : Bool :=
  match Text.between? "[" "]" (String.ofList cs) with
  | some address => (Address.six? address).isSome
  | none => !cs.any isForbidden

def isPort (cs : List Char) : Bool :=
  cs.isEmpty || (Numeral.natural? cs).any (· < twoTo 16)

/-- A host that may be left out only where neither credentials nor a port come with it, and a port
that may be empty. -/
def isAuthority (cs : List Char) : Bool :=
  let (credentials, rest) := splitCredentials cs
  let (host, port) := splitPort false rest
  let alone := !(credentials.any fun cs => !cs.isEmpty) && port.isNone
  (alone || !host.isEmpty) && isHost host && port.all isPort

/-- The text is a locator: a scheme, and a sound authority behind two slashes if there are any. What
its escapes stand for and what its query asks for are left out: a database refuses some locators for
these that are valid here. -/
def isValid (s : String) : Bool :=
  match afterScheme? (significant s) with
  | some ('/' :: '/' :: rest) => isAuthority (rest.takeWhile fun c => !endsAuthority c)
  | some _ => true
  | none => false

end TableGateway.Network.Url
