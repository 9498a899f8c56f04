import Pipewright.Json.Fault
import Pipewright.Json.Value

set_option autoImplicit false

/-! # JSON numbers as written

`Numeral` is a number as its digits stand in a document; `Numeral.value` is the number that it
denotes. Integers of 64 bits are exact. All others are read as digits that fit an unsigned word,
scaled by one multiplication or division with a power of ten, which is not always the nearest
double-precision number. -/

namespace Pipewright.Json

/-- A number as written: sign, digits before the point, after it, and exponent. -/
structure Numeral where
  negative : Bool
  whole : List Nat
  fraction : List Nat
  exponent : Option Int
  deriving Repr

namespace Numeral

/-- The largest unsigned word. -/
def maxWord : Nat := twoPow 64 - 1

/-- Appends digits to a number as long as it fits an unsigned word; with the number of digits that
    were left out. -/
def appendDigits : Nat → List Nat → Nat × Nat
  | n, [] => (n, 0)
  | n, d :: rest =>
    if n * 10 + d ≤ maxWord then appendDigits (n * 10 + d) rest else (n, rest.length + 1)

/-- Divides by powers of ten that are in range, until the exponent is used up or nothing is left. -/
def scaleDown (f : Binary64) (exponent : Nat) : Binary64 :=
  if h : exponent ≤ 308 then f.div (.ofRatio false (tenPow exponent) 1)
  else if f.isZero then f
  else scaleDown (f.div (.ofRatio false (tenPow 308) 1)) (exponent - 308)
termination_by exponent
decreasing_by omega

/-- The word scaled by a power of ten. -/
def scale (negative : Bool) (word : Nat) (exponent : Int) : Except Fault JsonNumber :=
  let f := Binary64.ofRatio negative word 1
  if exponent < 0 then .ok (.float (scaleDown f (-exponent).toNat))
  else if 308 < exponent then
    if word = 0 then .ok (.float f) else .error .numberOutOfRange
  else
    let product := f.mul (.ofRatio false (tenPow exponent.toNat) 1)
    if product.isInfinite then .error .numberOutOfRange else .ok (.float product)

/-- The greatest exponent that is counted. -/
def maxExponent : Int := 2147483647

/-- The number that a numeral denotes. -/
def value (numeral : Numeral) : Except Fault JsonNumber :=
  let (whole, dropped) := appendDigits 0 numeral.whole
  let (word, unread) := appendDigits whole numeral.fraction
  let point : Int := dropped - (numeral.fraction.length - unread : Nat)
  match numeral.exponent with
  | some exponent =>
    if maxExponent < exponent.natAbs then
      if word ≠ 0 ∧ 0 < exponent then .error .numberOutOfRange
      else .ok (.float (.ofBody numeral.negative 0))
    else scale numeral.negative word (max (-maxExponent) (min maxExponent (point + exponent)))
  | none =>
    if dropped = 0 ∧ numeral.fraction = [] then
      if ¬ numeral.negative then .ok (.integer word)
      else if 0 < word ∧ word ≤ twoPow 63 then .ok (.integer (-word))
      else .ok (.float (.ofRatio true word 1))
    else scale numeral.negative word point

end Numeral

end Pipewright.Json
