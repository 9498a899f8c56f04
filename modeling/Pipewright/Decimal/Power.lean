set_option autoImplicit false

/-! # Powers of two and of ten

Scales of binary and of decimal numbers. -/

namespace Pipewright

/-- The power of two with the given exponent. -/
def twoPow (exponent : Nat) : Nat := Nat.pow 2 exponent

/-- The power of ten with the given exponent. -/
def tenPow (exponent : Nat) : Nat := Nat.pow 10 exponent

end Pipewright
