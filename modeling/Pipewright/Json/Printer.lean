import Pipewright.Decimal.Shortest
import Pipewright.Json.Value

set_option autoImplicit false

/-! # Writing JSON

`Json.compact` writes a value without blanks. Numbers with a fraction are written in the document
style: shortest digits, whole numbers marked, an exponent outside `1e-5` to `1e16`. -/

namespace Pipewright

namespace JsonNumber

/-- The text of a number. -/
def text : JsonNumber → String
  | .integer n => toString n
  | .float x => if x.isFinite then x.text .document else "null"

end JsonNumber

namespace Json

/-- A natural number in four hexadecimal digits. -/
def fourHexDigits (n : Nat) : List Char :=
  let digits := Nat.toDigits 16 n
  List.replicate (4 - digits.length) '0' ++ digits

/-- One character as it stands in a string. -/
def escapedChar (c : Char) : List Char :=
  if c = '"' then ['\\', '"']
  else if c = '\\' then ['\\', '\\']
  else if c = '\n' then ['\\', 'n']
  else if c = '\t' then ['\\', 't']
  else if c = '\r' then ['\\', 'r']
  else if c = '\x08' then ['\\', 'b']
  else if c = '\x0c' then ['\\', 'f']
  else if c.toNat < 0x20 then ['\\', 'u'] ++ fourHexDigits c.toNat
  else [c]

/-- A text in quotes. -/
def stringText (s : String) : String :=
  String.ofList ('"' :: s.toList.flatMap escapedChar ++ ['"'])

mutual

/-- The text of a value. -/
def compact : Json → String
  | .null => "null"
  | .bool b => if b then "true" else "false"
  | .number n => n.text
  | .string s => stringText s
  | .array items => "[" ++ ",".intercalate (compactItems items) ++ "]"
  | .object members => "\x7b" ++ ",".intercalate (compactMembers members) ++ "\x7d"

/-- The texts of the items of an array. -/
def compactItems : List Json → List String
  | [] => []
  | json :: rest => json.compact :: compactItems rest

/-- The texts of the members of an object. -/
def compactMembers : List (String × Json) → List String
  | [] => []
  | (key, json) :: rest => (stringText key ++ ":" ++ json.compact) :: compactMembers rest

end

end Json

end Pipewright
