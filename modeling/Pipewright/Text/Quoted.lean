import Pipewright.Text.Unpictured

set_option autoImplicit false

/-! # Quoted text

How a message shows a text exactly: in double quotes, with the quote, the backslash and the
characters that have no picture written as escapes. -/

namespace Pipewright.Text

/-- A natural number in lower-case hexadecimal digits. -/
def hexDigits (n : Nat) : List Char := Nat.toDigits 16 n

/-- One character as it stands between the quotes. -/
def quotedChar (c : Char) : List Char :=
  if c = '\x00' then ['\\', '0']
  else if c = '\t' then ['\\', 't']
  else if c = '\r' then ['\\', 'r']
  else if c = '\n' then ['\\', 'n']
  else if c = '"' then ['\\', '"']
  else if c = '\\' then ['\\', '\\']
  else if isUnpictured c then ['\\', 'u', '\x7b'] ++ hexDigits c.toNat ++ ['\x7d']
  else [c]

/-- A text in quotes. -/
def quoted (text : String) : String :=
  String.ofList ('"' :: text.toList.flatMap quotedChar ++ ['"'])

example : quoted "a\"b\\\n" = "\"a\\\"b\\\\\\n\"" := by decide +kernel
example : quoted "é\x7f" = "\"é\\u\x7b7f\x7d\"" := by decide +kernel

end Pipewright.Text
