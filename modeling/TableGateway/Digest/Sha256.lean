import TableGateway.Number.Power

/-! # The SHA-256 digest -/

namespace TableGateway.Sha256

/-! ## Constants -/

/-- The first 32 bits of the fractional parts of the square roots of the first eight primes. -/
def initialState : List UInt32 :=
  [0x6a09e667, 0xbb67ae85, 0x3c6ef372, 0xa54ff53a, 0x510e527f, 0x9b05688c, 0x1f83d9ab, 0x5be0cd19]

/-- The first 32 bits of the fractional parts of the cube roots of the first sixty-four primes. -/
def roundConstants : List UInt32 :=
  [0x428a2f98, 0x71374491, 0xb5c0fbcf, 0xe9b5dba5, 0x3956c25b, 0x59f111f1, 0x923f82a4, 0xab1c5ed5,
   0xd807aa98, 0x12835b01, 0x243185be, 0x550c7dc3, 0x72be5d74, 0x80deb1fe, 0x9bdc06a7, 0xc19bf174,
   0xe49b69c1, 0xefbe4786, 0x0fc19dc6, 0x240ca1cc, 0x2de92c6f, 0x4a7484aa, 0x5cb0a9dc, 0x76f988da,
   0x983e5152, 0xa831c66d, 0xb00327c8, 0xbf597fc7, 0xc6e00bf3, 0xd5a79147, 0x06ca6351, 0x14292967,
   0x27b70a85, 0x2e1b2138, 0x4d2c6dfc, 0x53380d13, 0x650a7354, 0x766a0abb, 0x81c2c92e, 0x92722c85,
   0xa2bfe8a1, 0xa81a664b, 0xc24b8b70, 0xc76c51a3, 0xd192e819, 0xd6990624, 0xf40e3585, 0x106aa070,
   0x19a4c116, 0x1e376c08, 0x2748774c, 0x34b0bcb5, 0x391c0cb3, 0x4ed8aa4a, 0x5b9cca4f, 0x682e6ff3,
   0x748f82ee, 0x78a5636f, 0x84c87814, 0x8cc70208, 0x90befffa, 0xa4506ceb, 0xbef9a3f7, 0xc67178f2]

/-! ## Words -/

/-- Turns the bits of a word to the right. -/
def rotate (x : UInt32) (n : UInt32) : UInt32 :=
  (x >>> n) ||| (x <<< (32 - n))

def upperSigma0 (x : UInt32) : UInt32 := rotate x 2 ^^^ rotate x 13 ^^^ rotate x 22
def upperSigma1 (x : UInt32) : UInt32 := rotate x 6 ^^^ rotate x 11 ^^^ rotate x 25
def lowerSigma0 (x : UInt32) : UInt32 := rotate x 7 ^^^ rotate x 18 ^^^ (x >>> 3)
def lowerSigma1 (x : UInt32) : UInt32 := rotate x 17 ^^^ rotate x 19 ^^^ (x >>> 10)

/-- Each bit of `x` picks the bit of `y` or of `z`. -/
def choose (x y z : UInt32) : UInt32 := (x &&& y) ^^^ (~~~x &&& z)

/-- The bit that at least two of the three words have. -/
def majority (x y z : UInt32) : UInt32 := (x &&& y) ^^^ (x &&& z) ^^^ (y &&& z)

/-- Four bytes, the most significant first, as one word. -/
def word (bytes : List UInt8) : UInt32 :=
  bytes.foldl (fun w b => (w <<< 8) ||| b.toUInt32) 0

/-- The `width` bytes of a number, the most significant first. -/
def bigEndian (width n : Nat) : List UInt8 :=
  (List.range width).reverse.map fun i => UInt8.ofNat (n / twoTo (8 * i) % 256)

/-! ## Blocks -/

/-- The message followed by a one bit, zeros and its length in bits, up to a multiple of 64
bytes. -/
def padded (message : List UInt8) : List UInt8 :=
  let zeros := (119 - message.length % 64) % 64
  message ++ [0x80] ++ List.replicate zeros 0 ++ bigEndian 8 (8 * message.length)

/-- Consecutive groups of `size` elements. The fuel bounds their number. -/
def groups {α : Type} (size : Nat) : Nat → List α → List (List α)
  | 0, _ => []
  | _, [] => []
  | fuel + 1, xs => xs.take size :: groups size fuel (xs.drop size)

/-- Adds words to a schedule that is held with its newest word first. -/
def extendSchedule : Nat → List UInt32 → List UInt32
  | 0, ws => ws
  | n + 1, ws =>
      let next :=
        lowerSigma1 (ws.getD 1 0) + ws.getD 6 0 + lowerSigma0 (ws.getD 14 0) + ws.getD 15 0
      extendSchedule n (next :: ws)

/-- The sixty-four words of a block. -/
def schedule (block : List UInt8) : List UInt32 :=
  (extendSchedule 48 ((groups 4 16 block).map word).reverse).reverse

/-- One round of the compression. -/
def step (state : List UInt32) (input : UInt32 × UInt32) : List UInt32 :=
  match state with
  | [a, b, c, d, e, f, g, h] =>
      let t₁ := h + upperSigma1 e + choose e f g + input.1 + input.2
      let t₂ := upperSigma0 a + majority a b c
      [t₁ + t₂, a, b, c, d + t₁, e, f, g]
  | other => other

/-- Takes one block into the state. -/
def compress (state : List UInt32) (block : List UInt8) : List UInt32 :=
  List.zipWith (· + ·) state ((roundConstants.zip (schedule block)).foldl step state)

/-- The thirty-two bytes of the digest. -/
def digest (message : List UInt8) : List UInt8 :=
  let blocks := groups 64 (message.length + 2) (padded message)
  (blocks.foldl compress initialState).flatMap fun w => bigEndian 4 w.toNat

end TableGateway.Sha256
