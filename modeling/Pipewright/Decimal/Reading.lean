import Pipewright.Decimal.Binary64

set_option autoImplicit false

/-! # Reading numbers from text

`readInt?` reads decimal digits with an optional sign. `Binary64.ofText?` reads a decimal number
with optional sign, point and exponent, or the words for infinity and for no number, and gives the
nearest double-precision number. -/

namespace Pipewright

/-- The value of decimal digits. -/
def digitsNat (digits : List Char) : Nat := digits.foldl (fun n c => n * 10 + (c.toNat - 48)) 0

/-- A sign and the rest. -/
def readSign : List Char → Bool × List Char
  | '-' :: rest => (true, rest)
  | '+' :: rest => (false, rest)
  | cs => (false, cs)

/-- An unsigned integer; a plus sign may stand before it. -/
def readNat? (text : String) : Option Nat :=
  let digits :=
    match text.toList with
    | '+' :: rest => rest
    | cs => cs
  if digits ≠ [] ∧ digits.all Char.isDigit then some (digitsNat digits) else none

/-- An integer with an optional sign. -/
def readInt? (text : String) : Option Int :=
  let (negative, digits) := readSign text.toList
  if digits ≠ [] ∧ digits.all Char.isDigit then
    some (if negative then -(digitsNat digits : Int) else digitsNat digits)
  else none

namespace Binary64

/-- An exponent: digits with an optional sign. -/
def readExponent? : List Char → Option Int
  | [] => some 0
  | c :: rest =>
    if c = 'e' || c = 'E' then readInt? (String.ofList rest) else none

/-- A number with optional point and exponent. -/
def readDecimal? (negative : Bool) (cs : List Char) : Option Binary64 :=
  let whole := cs.takeWhile Char.isDigit
  let rest := cs.dropWhile Char.isDigit
  let (fraction, rest) :=
    match rest with
    | '.' :: more => (more.takeWhile Char.isDigit, more.dropWhile Char.isDigit)
    | _ => ([], rest)
  if whole = [] ∧ fraction = [] then none
  else
    (readExponent? rest).map fun exponent =>
      ofDecimal negative (digitsNat (whole ++ fraction)) (exponent - fraction.length)

/-- The number that a text stands for. -/
def ofText? (text : String) : Option Binary64 :=
  let (negative, cs) := readSign text.toList
  let word := String.ofList (cs.map Char.toLower)
  if word = "inf" || word = "infinity" then some (infinity negative)
  else if word = "nan" then some nan
  else readDecimal? negative cs

example : ofText? "-.5e1" = some (ofRatio true 5 1) := by decide +kernel
example : ofText? "1e" = none := by decide +kernel
example : ofText? "." = none := by decide +kernel

end Binary64

end Pipewright
