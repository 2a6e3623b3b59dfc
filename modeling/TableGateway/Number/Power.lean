/-! # Powers of two and of ten -/

namespace TableGateway

/-- The power of two with the given exponent. -/
def twoTo (exponent : Nat) : Nat :=
  Nat.pow 2 exponent

/-- The power of ten with the given exponent. -/
def tenTo (exponent : Nat) : Nat :=
  Nat.pow 10 exponent

theorem tenTo_succ (n : Nat) : tenTo (n + 1) = tenTo n * 10 := rfl

end TableGateway
