import Pipewright.Decimal.Power

set_option autoImplicit false

/-! # Double-precision numbers

`Binary64` is the 64-bit binary floating-point format, held as its bit pattern, so that equality
is decidable and every operation is exact integer arithmetic.

* `ofRatio` rounds a quotient of natural numbers to the nearest number, a tie to the even
  significand; `mul` and `div` are this rounding of the exact result.
* `magnitude` reads a finite number back as `m · 2 ^ (e - 1074)`. -/

namespace Pipewright

/-- A double-precision number, by its bit pattern. -/
structure Binary64 where
  bits : UInt64
  deriving DecidableEq, Inhabited, Repr

namespace Binary64

/-- The bits below the sign. -/
def body (x : Binary64) : Nat := x.bits.toNat % twoPow 63

/-- The sign bit. -/
def isNegative (x : Binary64) : Bool := twoPow 63 ≤ x.bits.toNat

/-- The body of the infinities. -/
def infinityBody : Nat := 0x7FF * twoPow 52

def isNaN (x : Binary64) : Bool := infinityBody < x.body

def isInfinite (x : Binary64) : Bool := x.body = infinityBody

def isFinite (x : Binary64) : Bool := x.body < infinityBody

def isZero (x : Binary64) : Bool := x.body = 0

/-- Finite, and not smaller than the smallest number of full precision. -/
def isNormal (x : Binary64) : Bool := x.isFinite && twoPow 52 ≤ x.body

/-- The number with the given sign and body. -/
def ofBody (negative : Bool) (body : Nat) : Binary64 :=
  ⟨UInt64.ofNat (body + if negative then twoPow 63 else 0)⟩

def infinity (negative : Bool) : Binary64 := ofBody negative infinityBody

def zero : Binary64 := ofBody false 0

def nan : Binary64 := ofBody false (infinityBody + twoPow 51)

/-- The pair `(m, e)` with `|x| = m · 2 ^ (e - 1074)`, for a finite `x`. -/
def magnitude (x : Binary64) : Nat × Nat :=
  let exponent := x.body / twoPow 52
  let fraction := x.body % twoPow 52
  if exponent = 0 then (fraction, 0) else (twoPow 52 + fraction, exponent - 1)

/-- The absolute value of a finite number as a quotient. -/
def ratio (x : Binary64) : Nat × Nat :=
  let (m, e) := x.magnitude
  if e < 1074 then (m, twoPow (1074 - e)) else (m * twoPow (e - 1074), 1)

/-- The quotient rounded to the nearest integer, a tie to the even one. -/
def roundDiv (num den : Nat) : Nat :=
  let q := num / den
  let r := num % den
  if 2 * r < den then q
  else if den < 2 * r then q + 1
  else if q % 2 = 0 then q else q + 1

/-- The exponent of the highest binary digit of a quotient of positive numbers. -/
def binaryOrder (num den : Nat) : Int :=
  let k : Int := (num.log2 : Int) - den.log2
  let reached := if 0 ≤ k then den * twoPow k.toNat ≤ num else den ≤ num * twoPow (-k).toNat
  if reached then k else k - 1

/-- The number nearest to `num / den`, a tie going to the even significand; beyond the range it is
    infinite. -/
def ofRatio (negative : Bool) (num den : Nat) : Binary64 :=
  if num = 0 || den = 0 then ofBody negative 0
  else
    let e := max (binaryOrder num den - 52) (-1074)
    let m := if 0 ≤ e then roundDiv num (den * twoPow e.toNat)
      else roundDiv (num * twoPow (-e).toNat) den
    ofBody negative (min infinityBody ((e + 1074).toNat * twoPow 52 + m))

/-- The number nearest to `digits · 10 ^ exponent`. -/
def ofDecimal (negative : Bool) (digits : Nat) (exponent : Int) : Binary64 :=
  if digits = 0 then ofBody negative 0
  else
    let order : Int := (Nat.repr digits).length + exponent
    if 400 < order then infinity negative
    else if order < -400 then ofBody negative 0
    else if 0 ≤ exponent then ofRatio negative (digits * tenPow exponent.toNat) 1
    else ofRatio negative digits (tenPow (-exponent).toNat)

/-- The product of finite numbers. -/
def mul (x y : Binary64) : Binary64 :=
  let (a, b) := x.ratio
  let (c, d) := y.ratio
  ofRatio (x.isNegative != y.isNegative) (a * c) (b * d)

/-- The quotient of a finite number by a finite number other than zero. -/
def div (x y : Binary64) : Binary64 :=
  let (a, b) := x.ratio
  let (c, d) := y.ratio
  ofRatio (x.isNegative != y.isNegative) (a * d) (b * c)

example : ofRatio false 1 10 = ⟨0x3FB999999999999A⟩ := by decide +kernel
example : ofRatio true 3 1 = ⟨0xC008000000000000⟩ := by decide +kernel
example : ofDecimal false 5 (-324) = ⟨1⟩ := by decide +kernel
example : ofDecimal false 17976931348623159 292 = infinity false := by decide +kernel
example : mul (ofRatio false 3 1) (ofRatio false 1 2) = ofRatio false 3 2 := by decide +kernel

end Binary64

end Pipewright
