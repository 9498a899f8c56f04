import Pipewright.Decimal.Reading

set_option autoImplicit false

/-! # Arithmetic of shell scripts

`Arithmetic.value` computes an expression over integers: the four operations, the remainder,
comparisons and logical operators, with names for bindings. Numbers may be octal or hexadecimal. -/

namespace Pipewright.Shell.Arithmetic

/-- Why an expression has no value. -/
inductive Fault where
  | noOperand
  | divisionByZero
  deriving DecidableEq, Repr

/-- The wording of a fault. -/
def Fault.message : Fault → String
  | .noOperand => "expecting primary"
  | .divisionByZero => "division by zero"

/-- What an operator does. -/
abbrev Operation := Int → Int → Except Fault Int

/-- An operation that needs a divisor. -/
def dividing (divide : Int → Int → Int) : Operation := fun a b =>
  if b = 0 then .error .divisionByZero else .ok (divide a b)

/-- The binary operators, by how tightly they bind. -/
def levels : List (List (String × Operation)) :=
  let total := fun (f : Int → Int → Int) (a b : Int) => (Except.ok (f a b) : Except Fault Int)
  let test := fun (f : Int → Int → Bool) => total fun a b => if f a b then 1 else 0
  [ [("||", test fun a b => a ≠ 0 || b ≠ 0)],
    [("&&", test fun a b => a ≠ 0 && b ≠ 0)],
    [("==", test fun a b => a = b), ("!=", test fun a b => a ≠ b)],
    [("<=", test fun a b => a ≤ b), (">=", test fun a b => b ≤ a),
      ("<", test fun a b => a < b), (">", test fun a b => b < a)],
    [("+", total (· + ·)), ("-", total (· - ·))],
    [("*", total (· * ·)), ("/", dividing Int.tdiv), ("%", dividing Int.tmod)] ]

def dropBlanks (cs : List Char) : List Char :=
  cs.dropWhile fun c => c = ' ' || c = '\t' || c = '\n'

/-- The first of some operators at the front. -/
def operator? (operators : List (String × Operation)) (cs : List Char) :
    Option (Operation × List Char) :=
  operators.findSome? fun (text, apply) =>
    if text.toList.isPrefixOf cs then some (apply, cs.drop text.length) else none

/-- The value of a digit, up to fifteen. -/
def digitValue? (c : Char) : Option Nat :=
  if c.isDigit then some (c.toNat - 48)
  else if 'a' ≤ c ∧ c ≤ 'f' then some (c.toNat - 87)
  else if 'A' ≤ c ∧ c ≤ 'F' then some (c.toNat - 55)
  else none

/-- The number that digits stand for in a base. -/
def number (base : Nat) (digits : List Char) : Except Fault Int :=
  match digits.mapM fun c => (digitValue? c).filter (· < base) with
  | some values => .ok (values.foldl (fun n d => n * base + d) 0 : Nat)
  | none => .error .noOperand

/-- The number that a word stands for: hexadecimal behind `0x`, octal behind `0`, else decimal. -/
def literal : List Char → Except Fault Int
  | '0' :: 'x' :: digits | '0' :: 'X' :: digits => number 16 digits
  | '0' :: digits => number 8 digits
  | digits => number 10 digits

mutual

/-- An expression of the given level. -/
def expression (valueOf : String → Int) (level : Nat) : Nat → List Char →
    Except Fault (Int × List Char)
  | 0, _ => .error .noOperand
  | fuel + 1, cs =>
    match levels[level]? with
    | none => operand valueOf fuel cs
    | some operators => do
      let (a, rest) ← expression valueOf (level + 1) fuel cs
      more valueOf level operators a fuel rest
termination_by structural fuel => fuel

/-- What follows the first operand of a level. -/
def more (valueOf : String → Int) (level : Nat) (operators : List (String × Operation))
    (a : Int) : Nat → List Char → Except Fault (Int × List Char)
  | 0, _ => .error .noOperand
  | fuel + 1, cs =>
    match operator? operators (dropBlanks cs) with
    | none => .ok (a, dropBlanks cs)
    | some (apply, rest) => do
      let (b, rest) ← expression valueOf (level + 1) fuel rest
      more valueOf level operators (← apply a b) fuel rest
termination_by structural fuel => fuel

/-- A number, a name, an expression in brackets or one with a sign. -/
def operand (valueOf : String → Int) : Nat → List Char → Except Fault (Int × List Char)
  | 0, _ => .error .noOperand
  | fuel + 1, cs =>
    match dropBlanks cs with
    | '(' :: rest => do
      let (a, rest) ← expression valueOf 0 fuel rest
      match dropBlanks rest with
      | ')' :: rest => .ok (a, rest)
      | _ => .error .noOperand
    | '-' :: rest => (operand valueOf fuel rest).map fun (a, rest) => (-a, rest)
    | '+' :: rest => operand valueOf fuel rest
    | '!' :: rest => (operand valueOf fuel rest).map fun (a, rest) => (if a = 0 then 1 else 0, rest)
    | cs =>
      let isName := fun (c : Char) => c.isAlphanum || c = '_'
      let name := cs.takeWhile isName
      let rest := cs.dropWhile isName
      match name with
      | [] => .error .noOperand
      | c :: _ =>
        if c.isDigit then (literal name).map fun a => (a, rest)
        else .ok (valueOf (String.ofList name), rest)
termination_by structural fuel => fuel

end

/-- The value of an expression, if it is one. -/
def value (valueOf : String → Int) (text : String) : Except Fault Int := do
  let cs := text.toList
  let (a, rest) ← expression valueOf 0 (16 * cs.length + 16) cs
  if (dropBlanks rest).isEmpty then return a else throw .noOperand

example : (value (fun _ => 4) "1 + x*(2 - 5) % 7 + 0x1f + 010").toOption = some 35 := by
  decide +kernel
example : (value (fun _ => 0) "1 +").toOption = none := by decide +kernel

end Pipewright.Shell.Arithmetic
