import Pipewright.Decimal.Reading
import Pipewright.Text.Utf8

set_option autoImplicit false

/-! # Formatted output

What `echo` and `printf` write: escapes that begin with a backslash, and the directives of a
format, which is used again as long as arguments are left. -/

namespace Pipewright.Shell.Format

def isOctal (c : Char) : Bool := '0' ≤ c && c ≤ '7'

def octal (digits : List Char) : UInt8 :=
  UInt8.ofNat (digits.foldl (fun n c => n * 8 + (c.toNat - 48)) 0)

/-- The characters that are written by a letter. -/
def letter? : Char → Option UInt8
  | 'a' => some 7
  | 'b' => some 8
  | 'f' => some 12
  | 'n' => some 10
  | 'r' => some 13
  | 't' => some 9
  | 'v' => some 11
  | '\\' => some 92
  | _ => none

/-- An escape, behind its backslash: its bytes and the rest. With `zeroLed`, numbers begin with a
    zero of their own. -/
def escape (zeroLed : Bool) (cs : List Char) : Bytes × List Char :=
  match cs with
  | [] => ([92], [])
  | c :: rest =>
    match letter? c with
    | some b => ([b], rest)
    | none =>
      if zeroLed && c = '0' then
        let digits := (rest.take 3).takeWhile isOctal
        ([octal digits], rest.drop digits.length)
      else if !zeroLed && isOctal c then
        let digits := (cs.take 3).takeWhile isOctal
        ([octal digits], cs.drop digits.length)
      else (92 :: Text.Utf8.encode (String.singleton c), rest)

/-- A text with its escapes replaced, and whether it goes on behind its end; it does not behind
    `\c`. There are at most as many characters as fuel. -/
def unescape (zeroLed : Bool) : Nat → List Char → Bytes × Bool
  | 0, _ => ([], true)
  | _ + 1, [] => ([], true)
  | fuel + 1, '\\' :: rest =>
    if rest.head? = some 'c' then ([], false)
    else
      let (bytes, rest) := escape zeroLed rest
      let (more, goesOn) := unescape zeroLed fuel rest
      (bytes ++ more, goesOn)
  | fuel + 1, c :: rest =>
    let (more, goesOn) := unescape zeroLed fuel rest
    (Text.Utf8.encode (String.singleton c) ++ more, goesOn)

/-- What `echo` writes as a command of the shell. -/
def echo (arguments : List String) : Bytes :=
  let (lineEnd, arguments) : Bytes × List String :=
    match arguments with
    | "-n" :: rest => ([], rest)
    | arguments => ([10], arguments)
  let cs := (" ".intercalate arguments).toList
  let (bytes, goesOn) := unescape true (cs.length + 1) cs
  if goesOn then bytes ++ lineEnd else bytes

/-- What `echo` writes as a program of its own: the arguments as they are. -/
def plainEcho (arguments : List String) : Bytes :=
  let (lineEnd, arguments) : Bytes × List String :=
    match arguments with
    | "-n" :: rest => ([], rest)
    | arguments => ([10], arguments)
  Text.Utf8.encode (" ".intercalate arguments) ++ lineEnd

/-- A directive of a format. -/
structure Directive where
  flags : List Char
  width : Nat
  precision : Option Nat
  conversion : Char

/-- The directive behind a percent sign, and the rest. -/
def directive? (cs : List Char) : Option (Directive × List Char) :=
  let isFlag := fun (c : Char) => c = '-' || c = '+' || c = ' ' || c = '#' || c = '0'
  let flags := cs.takeWhile isFlag
  let cs := cs.dropWhile isFlag
  let width := digitsNat (cs.takeWhile Char.isDigit)
  let cs := cs.dropWhile Char.isDigit
  let (precision, cs) :=
    match cs with
    | '.' :: cs =>
      (some (digitsNat (cs.takeWhile Char.isDigit)), cs.dropWhile Char.isDigit)
    | cs => (none, cs)
  match cs with
  | conversion :: rest => some (⟨flags, width, precision, conversion⟩, rest)
  | [] => none

/-- Text with blanks, or zeros in front of a number, to a width. -/
def pad (directive : Directive) (isNumber : Bool) (bytes : Bytes) : Bytes :=
  let missing := directive.width - bytes.length
  if directive.flags.contains '-' then bytes ++ List.replicate missing 32
  else if isNumber && directive.flags.contains '0' then List.replicate missing 48 ++ bytes
  else List.replicate missing 32 ++ bytes

def integer (text : String) : Int := (readInt? text).getD 0

/-- What a directive writes of an argument, and whether the output goes on. -/
def Directive.write (directive : Directive) (argument : String) : Bytes × Bool :=
  let cut := fun (bytes : Bytes) =>
    match directive.precision with
    | some n => bytes.take n
    | none => bytes
  match directive.conversion with
  | 's' => (pad directive false (cut (Text.Utf8.encode argument)), true)
  | 'b' =>
    let cs := argument.toList
    let (bytes, goesOn) := unescape true (cs.length + 1) cs
    (pad directive false (cut bytes), goesOn)
  | 'c' => (pad directive false (Text.Utf8.encode (String.ofList (argument.toList.take 1))), true)
  | 'd' | 'i' | 'u' => (pad directive true (Text.Utf8.encode (toString (integer argument))), true)
  | 'o' =>
    (pad directive true (Text.Utf8.encode
      (String.ofList (Nat.toDigits 8 (integer argument).toNat))), true)
  | 'x' =>
    (pad directive true (Text.Utf8.encode
      (String.ofList (Nat.toDigits 16 (integer argument).toNat))), true)
  | 'X' =>
    (pad directive true (Text.Utf8.encode
      (String.ofList ((Nat.toDigits 16 (integer argument).toNat).map Char.toUpper))), true)
  | _ => ([], false)

/-- One use of a format: the bytes, the arguments that are left, and whether the output goes on. -/
def once : Nat → List Char → List String → Bytes × List String × Bool
  | 0, _, arguments => ([], arguments, false)
  | _ + 1, [], arguments => ([], arguments, true)
  | fuel + 1, '\\' :: rest, arguments =>
    if rest.head? = some 'c' then ([], arguments, false)
    else
      let (bytes, rest) := escape false rest
      let (more, arguments, goesOn) := once fuel rest arguments
      (bytes ++ more, arguments, goesOn)
  | fuel + 1, '%' :: '%' :: rest, arguments =>
    let (more, arguments, goesOn) := once fuel rest arguments
    (37 :: more, arguments, goesOn)
  | fuel + 1, '%' :: rest, arguments =>
    match directive? rest with
    | none => ([37], arguments, false)
    | some (directive, rest) =>
      let (bytes, goesOn) := directive.write (arguments.head?.getD "")
      if !goesOn then (bytes, arguments, false)
      else
        let (more, arguments, goesOn) := once fuel rest (arguments.drop 1)
        (bytes ++ more, arguments, goesOn)
  | fuel + 1, c :: rest, arguments =>
    let (more, arguments, goesOn) := once fuel rest arguments
    (Text.Utf8.encode (String.singleton c) ++ more, arguments, goesOn)

/-- Uses a format until no argument is left, or none was taken. -/
def repeated (format : List Char) : Nat → List String → Bytes
  | 0, _ => []
  | fuel + 1, arguments =>
    let (bytes, left, goesOn) := once (format.length + 1) format arguments
    if !goesOn || left.isEmpty || left.length = arguments.length then bytes
    else bytes ++ repeated format fuel left

/-- What `printf` writes. -/
def printf (format : String) (arguments : List String) : Bytes :=
  repeated format.toList (arguments.length + 1) arguments

example : printf "%s-%03d\\n" ["a", "7", "b", "12"] = Text.Utf8.encode "a-007\nb-012\n" := by
  decide +kernel
example : printf "bad \\377" [] = [98, 97, 100, 32, 255] := by decide +kernel
example : echo ["a\\tb", "c"] = Text.Utf8.encode "a\tb c\n" := by decide +kernel

end Pipewright.Shell.Format
