/-! # Reading bytes as text -/

namespace TableGateway.Text.Utf8

/-- The lead of a character of several bytes: the bits that it carries, and the least and the
greatest byte that may stand at each place behind it. -/
structure Lead where
  bits : Nat
  behind : List (Nat × Nat)

/-- What a byte leads, if it can. -/
def lead? (b : Nat) : Option Lead :=
  let any := (0x80, 0xBF)
  if b < 0x80 then some ⟨b, []⟩
  else if b < 0xC2 then none
  else if b < 0xE0 then some ⟨b - 0xC0, [any]⟩
  else if b = 0xE0 then some ⟨0, [(0xA0, 0xBF), any]⟩
  else if b = 0xED then some ⟨0xD, [(0x80, 0x9F), any]⟩
  else if b < 0xF0 then some ⟨b - 0xE0, [any, any]⟩
  else if b = 0xF0 then some ⟨0, [(0x90, 0xBF), any, any]⟩
  else if b < 0xF4 then some ⟨b - 0xF0, [any, any, any]⟩
  else if b = 0xF4 then some ⟨4, [(0x80, 0x8F), any, any]⟩
  else none

/-- A byte where a character starts: the character, if it is a whole one, or what it leads. A byte
that leads nothing is a fault by itself. -/
def start (b : Nat) : List (Option Char) × Option Lead :=
  match lead? b with
  | none => ([none], none)
  | some ⟨bits, []⟩ => ([some (Char.ofNat bits)], none)
  | some lead => ([], some lead)

/-- Adds a byte to what was led so far. -/
def step (pending : Option Lead) (b : Nat) : List (Option Char) × Option Lead :=
  match pending with
  | none => start b
  | some ⟨_, []⟩ => start b
  | some ⟨bits, (least, greatest) :: behind⟩ =>
      if least ≤ b ∧ b ≤ greatest then
        let bits := bits * 64 + (b - 0x80)
        match behind with
        | [] => ([some (Char.ofNat bits)], none)
        | behind => ([], some ⟨bits, behind⟩)
      else
        let (found, pending) := start b
        (none :: found, pending)

/-- The characters of bytes. The longest front of a character that is not whole is one fault. -/
def decode (pending : Option Lead) : List UInt8 → List (Option Char)
  | [] => pending.toList.map fun _ => none
  | b :: bs =>
      let (found, pending) := step pending b.toNat
      found ++ decode pending bs

/-- The text of bytes without a fault. -/
def text? (bytes : List UInt8) : Option String :=
  ((decode none bytes).mapM id).map String.ofList

/-- The text of bytes with a replacement character for each fault. -/
def lossyText (bytes : List UInt8) : String :=
  String.ofList ((decode none bytes).map fun c => c.getD '\uFFFD')

end TableGateway.Text.Utf8
