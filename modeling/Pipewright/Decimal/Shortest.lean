import Pipewright.Decimal.Binary64

set_option autoImplicit false

/-! # Shortest decimal text

The decimal text of a number is written with the fewest digits that read back as the number, and
of those digits the ones nearest to it.

* `Binary64.shortest` finds the digits and their exponent.
* `FloatStyle` says how digits become text: where positional notation ends, whether a whole number
  keeps `.0`, and how an exponent is signed.
* `Binary64.text` writes a number in a style. -/

namespace Pipewright

namespace Binary64

/-- The number of decimal digits of a natural number. -/
def digitCount (n : Nat) : Nat := (Nat.repr n).length

/-- The exponent of the highest decimal digit of a quotient of positive numbers. -/
def decimalOrder (num den : Nat) : Int :=
  let k : Int := (digitCount num : Int) - digitCount den
  let reached := if 0 ≤ k then den * tenPow k.toNat ≤ num else den ≤ num * tenPow (-k).toNat
  if reached then k else k - 1

/-- The numbers that round to a finite positive number, in quarters of its unit: from `low` to
    `high`, ends included when `closed`. -/
structure Basin where
  low : Nat
  high : Nat
  closed : Bool

/-- The basin of a number with significand `m` and exponent `e`; at a power of two the unit below
    is half as large. -/
def basin (m e : Nat) : Basin :=
  { low := if m = twoPow 52 ∧ 0 < e then 4 * m - 1 else 4 * m - 2
    high := 4 * m + 2
    closed := m % 2 = 0 }

/-- Whether the quotient `num / den` lies in a basin whose quarter unit is `unitNum / unitDen`. -/
def Basin.holds (b : Basin) (unitNum unitDen num den : Nat) : Bool :=
  let value := num * unitDen
  let low := b.low * unitNum * den
  let high := b.high * unitNum * den
  if b.closed then low ≤ value && value ≤ high else low < value && value < high

/-- The first digits, of at most the given number of digits, that lie in the basin; of two such
    the nearer, and the even one if both are equally near. -/
def shortestFrom (m e : Nat) (num den : Nat) (order : Int) : Nat → Nat → Nat × Int
  | 0, _ => (0, 0)
  | more + 1, count =>
    let exponent := order - (count - 1 : Nat)
    let gridNum := tenPow exponent.toNat
    let gridDen := tenPow (-exponent).toNat
    let below := num * gridDen / (den * gridNum)
    let b := basin m e
    let unit := twoPow e
    let unitDen := twoPow 1076
    let fits := fun (d : Nat) => b.holds unit unitDen (d * gridNum) gridDen
    let twice := 2 * num * gridDen
    let middle := (2 * below + 1) * den * gridNum
    match fits below, fits (below + 1) with
    | true, false => (below, exponent)
    | false, true => (below + 1, exponent)
    | true, true =>
      if twice < middle then (below, exponent)
      else if middle < twice then (below + 1, exponent)
      else if below % 2 = 0 then (below, exponent) else (below + 1, exponent)
    | false, false => shortestFrom m e num den order more (count + 1)

/-- Moves the zeros at the end of the digits into the exponent. -/
def dropZeros : Nat → Nat → Int → Nat × Int
  | 0, digits, exponent => (digits, exponent)
  | more + 1, digits, exponent =>
    if digits ≠ 0 ∧ digits % 10 = 0 then dropZeros more (digits / 10) (exponent + 1)
    else (digits, exponent)

/-- The digits and exponent of a finite number: `|x|` is nearest to `digits · 10 ^ exponent`, and
    no shorter digits read back as `x`. -/
def shortest (x : Binary64) : Nat × Int :=
  if x.isZero then (0, 0)
  else
    let (m, e) := x.magnitude
    let (num, den) := x.ratio
    let (digits, exponent) := shortestFrom m e num den (decimalOrder num den) 17 1
    dropZeros 17 digits exponent

end Binary64

/-- How the digits of a number become text. -/
structure FloatStyle where
  /-- Positional notation is used while the decimal point stands after at least this many digits,
      counted from the first digit; `none` is without limit. -/
  leastPoint : Option Int
  /-- … and after at most this many. -/
  greatestPoint : Option Int
  /-- Whether a whole number ends in `.0`. -/
  wholeMark : Bool

namespace FloatStyle

/-- Documents write positional notation between `1e-5` and `1e16`, and mark whole numbers. -/
def document : FloatStyle := ⟨some (-4), some 16, true⟩

/-- Settings turned into text are always positional, and whole numbers are not marked. -/
def plain : FloatStyle := ⟨none, none, false⟩

/-- Whether the decimal point may stand at this place. -/
def isPositional (style : FloatStyle) (point : Int) : Bool :=
  (style.leastPoint.all (· ≤ point)) && (style.greatestPoint.all (point ≤ ·))

/-- The text of positive digits with an exponent. -/
def digitsText (style : FloatStyle) (digits : Nat) (exponent : Int) : String :=
  let ds := Nat.repr digits
  let point : Int := ds.length + exponent
  if style.isPositional point then
    if 0 ≤ exponent then
      ds ++ String.ofList (List.replicate exponent.toNat '0') ++
        (if style.wholeMark then ".0" else "")
    else if 0 < point then
      let (whole, fraction) := ds.toList.splitAt point.toNat
      String.ofList whole ++ "." ++ String.ofList fraction
    else "0." ++ String.ofList (List.replicate (-point).toNat '0') ++ ds
  else
    let power := point - 1
    let mantissa :=
      match ds.toList with
      | first :: [] => String.singleton first
      | first :: rest => String.ofList (first :: '.' :: rest)
      | [] => ""
    mantissa ++ "e" ++ (if power < 0 then "-" else "+") ++ toString power.natAbs

end FloatStyle

namespace Binary64

/-- The text of a number in a style. -/
def text (x : Binary64) (style : FloatStyle) : String :=
  let sign := if x.isNegative then "-" else ""
  if x.isNaN then "NaN"
  else if x.isInfinite then sign ++ "inf"
  else if x.isZero then sign ++ (if style.wholeMark then "0.0" else "0")
  else
    let (digits, exponent) := x.shortest
    sign ++ style.digitsText digits exponent

end Binary64

end Pipewright
