import Pipewright.Decimal.Reading
import Pipewright.Json.Printer
import Pipewright.Template.Scope

set_option autoImplicit false

/-! # Helpers

Helpers compute a value from their operands. `Json.isTruthy` says which values count as true,
`Json.display` how a value is written into the text, `compareValues` how values are ordered. -/

namespace Pipewright

namespace JsonNumber

/-- A number as a quotient, if it is finite: its sign applied to the numerator. -/
def ratio? : JsonNumber → Option (Int × Nat)
  | .integer n => some (n, 1)
  | .float x =>
    if x.isFinite then
      let (num, den) := x.ratio
      some (if x.isNegative then -(num : Int) else num, den)
    else none

/-- The numerical order. -/
def compare? (a b : JsonNumber) : Option Ordering :=
  match a.ratio?, b.ratio? with
  | some (p, q), some (r, s) => some (compare (p * s) (r * q))
  | _, _ => none

/-- Whether the number counts as true: it must be of full precision and not zero, or with
    `includeZero` just be a number. -/
def isTruthy (includeZero : Bool) : JsonNumber → Bool
  | .integer n => includeZero || n ≠ 0
  | .float x => if includeZero then !x.isNaN else x.isNormal

end JsonNumber

namespace Json

/-- Whether a value counts as true. -/
def isTruthy (includeZero : Bool) : Json → Bool
  | .null => false
  | .bool b => b
  | .number n => n.isTruthy includeZero
  | .string s => s ≠ ""
  | .array items => !items.isEmpty
  | .object members => !members.isEmpty

mutual

/-- A value as it is written into the text. -/
def display : Json → String
  | .null => ""
  | .bool b => if b then "true" else "false"
  | .number n => n.text
  | .string s => s
  | .array items => "[" ++ ", ".intercalate (displayItems items) ++ "]"
  | .object _ => "[object]"

/-- The items of an array as they are written into the text. -/
def displayItems : List Json → List String
  | [] => []
  | json :: rest => json.display :: displayItems rest

end

mutual

/-- The value with positive zeros only. -/
def unsignZeros : Json → Json
  | .number (.float x) => .number (.float (if x.isZero then Binary64.zero else x))
  | .array items => .array (unsignItems items)
  | .object members => .object (unsignMembers members)
  | json => json

/-- The items with positive zeros only. -/
def unsignItems : List Json → List Json
  | [] => []
  | json :: rest => json.unsignZeros :: unsignItems rest

/-- The members with positive zeros only. -/
def unsignMembers : List (String × Json) → List (String × Json)
  | [] => []
  | (key, json) :: rest => (key, json.unsignZeros) :: unsignMembers rest

end

/-- Whether values are equal, zeros of either sign being the same. -/
def isSame (a b : Json) : Bool := a.unsignZeros = b.unsignZeros

end Json

namespace Template

/-- The order of a number and a text that reads as a number. -/
def compareWithText (n : JsonNumber) (text : String) : Option Ordering :=
  (Binary64.ofText? text).bind fun x =>
    if x.isInfinite then some (if x.isNegative then .gt else .lt) else n.compare? (.float x)

/-- The order of values: numbers, texts and truth values among themselves, and a number with a text
    that reads as one. -/
def compareValues : Json → Json → Option Ordering
  | .number a, .number b => a.compare? b
  | .string a, .string b => some (compare a b)
  | .bool a, .bool b => some (compare a.toNat b.toNat)
  | .number a, .string b => compareWithText a b
  | .string a, .number b => (compareWithText b a).map Ordering.swap
  | _, _ => none

/-- The helpers that open blocks. -/
inductive BlockHelper where
  | if_
  | unless
  | each
  | with_
  | raw
  deriving DecidableEq, Repr

/-- The helpers that compute values. -/
inductive ValueHelper where
  | lookup
  | log
  | eq
  | ne
  | gt
  | gte
  | lt
  | lte
  | and
  | or
  | not
  | len
  deriving DecidableEq, Repr

/-- A helper. -/
inductive Helper where
  | block (helper : BlockHelper)
  | value (helper : ValueHelper)
  deriving DecidableEq, Repr

/-- The helper of a name. -/
def Helper.ofName? : String → Option Helper
  | "if" => some (.block .if_)
  | "unless" => some (.block .unless)
  | "each" => some (.block .each)
  | "with" => some (.block .with_)
  | "raw" => some (.block .raw)
  | "lookup" => some (.value .lookup)
  | "log" => some (.value .log)
  | "eq" => some (.value .eq)
  | "ne" => some (.value .ne)
  | "gt" => some (.value .gt)
  | "gte" => some (.value .gte)
  | "lt" => some (.value .lt)
  | "lte" => some (.value .lte)
  | "and" => some (.value .and)
  | "or" => some (.value .or)
  | "not" => some (.value .not)
  | "len" => some (.value .len)
  | _ => none

/-- The name of a helper in messages. -/
def BlockHelper.name : BlockHelper → String
  | .if_ => "if"
  | .unless => "unless"
  | .each => "each"
  | .with_ => "with"
  | .raw => "raw"

/-- An operand that a helper must be given and that must have a value. -/
def presentOperand (helper : String) (index : Nat) (operands : List Operand) :
    Except RenderFault Json :=
  match operands[index]? with
  | some operand =>
    match operand.value with
    | some value => .ok value
    | none => .error (.paramRequired helper index)
  | none => .error (.paramRequired helper index)

/-- What a key selects from a collection. -/
def lookupValue (collection key : Json) : Option Json :=
  match collection, key with
  | .array items, .number (.integer n) => if 0 ≤ n then items[n.toNat]? else none
  | .object members, .string key => Dictionary.get? key members
  | _, _ => none

/-- The number of items, members or bytes. -/
def lengthOf : Json → Nat
  | .array items => items.length
  | .object members => members.length
  | .string s => s.utf8ByteSize
  | _ => 0

/-- Levels at which a template may write to the log. -/
def logLevels : List String := ["error", "warn", "info", "debug", "trace"]

namespace ValueHelper

/-- A comparison of two operands. -/
def comparison (name : String) (test : Json → Json → Bool) (operands : List Operand) :
    Except RenderFault (Option Json) := do
  let a ← presentOperand name 0 operands
  let b ← presentOperand name 1 operands
  return some (.bool (test a b))

/-- The value that a helper computes; nothing, where it writes nothing. -/
def apply (operands : List Operand) (hash : List (String × Operand)) :
    ValueHelper → Except RenderFault (Option Json)
  | .lookup =>
    match operands with
    | [] => .error (.paramRequired "lookup" 0)
    | [_] => .error (.paramRequired "lookup" 1)
    | collection :: key :: _ =>
      match lookupValue collection.valueOrNull key.valueOrNull with
      | some value => .ok (some value)
      | none => .error (.missing none)
  | .log =>
    match hash.find? (·.1 == "level") with
    | some (_, ⟨_, some (.string level), _⟩) =>
      if logLevels.contains (String.ofList (level.toList.map Char.toLower)) then
        .ok (some (.string ""))
      else .error (.invalidLogLevel level)
    | _ => .ok (some (.string ""))
  | .eq => comparison "eq" (fun a b => a.isSame b) operands
  | .ne => comparison "ne" (fun a b => !a.isSame b) operands
  | .gt => comparison "gt" (fun a b => compareValues a b == some .gt) operands
  | .gte => comparison "gte" (fun a b => (compareValues a b).any (· != .lt)) operands
  | .lt => comparison "lt" (fun a b => compareValues a b == some .lt) operands
  | .lte => comparison "lte" (fun a b => (compareValues a b).any (· != .gt)) operands
  | .and => .ok (some (.bool (operands.all fun o => o.valueOrNull.isTruthy false)))
  | .or => .ok (some (.bool (operands.any fun o => o.valueOrNull.isTruthy false)))
  | .not => do
    let a ← presentOperand "not" 0 operands
    return some (.bool (!a.isTruthy false))
  | .len => do
    let a ← presentOperand "len" 0 operands
    return some (.ofNat (lengthOf a))

end ValueHelper

end Template

end Pipewright
