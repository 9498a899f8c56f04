import Pipewright.Json.Numeral
import Pipewright.Text.Utf8

set_option autoImplicit false

/-! # Documents as written

A `Form` is a document before anyone has asked what it should be: members in their order and with
repetitions, and the faults of its text left where they stand. Whether a fault matters depends on
the reader: a reader that keeps a string checks its surrogates, a reader that skips it does not.
So each token carries what either reader gets (`Token`), and lists end in a way on which the two
may judge differently (`ItemsEnd`, `MembersEnd`).

`Form.ofBytes` reads bytes, `Form.ofJson` is the faultless form of a value. -/

namespace Pipewright.Json

/-- A token: what a reader gets that keeps it, and what one gets that skips it. -/
structure Token (α : Type) where
  kept : Except Fault α
  skipped : Except Fault Unit

namespace Token

variable {α : Type}

/-- A token without fault. -/
def sound (a : α) : Token α := ⟨.ok a, .ok ()⟩

/-- A token that every reader refuses, each for its own reason. -/
def refused (kept skipped : Fault) : Token α := ⟨.error kept, .error skipped⟩

end Token

/-- How the items of an array end. -/
inductive ItemsEnd where
  /-- With the closing bracket. -/
  | closed
  /-- With the text, after an item or the opening bracket. -/
  | atEnd
  /-- With something that is neither comma nor bracket. -/
  | junk
  /-- With a comma before the closing bracket. -/
  | commaClosed
  /-- With a comma and then the end of the text. -/
  | commaAtEnd
  deriving DecidableEq, Repr

/-- How the members of an object end. -/
inductive MembersEnd where
  /-- With the closing brace. -/
  | closed
  /-- With the text, after a member or the opening brace. -/
  | atEnd
  /-- With something other than a key; `found` is what a reader of a text meets there. -/
  | notKey (found : Except Fault Found)
  /-- With something that is neither comma nor brace. -/
  | junk
  /-- With a comma before the closing brace. -/
  | commaClosed
  /-- With a comma and then the end of the text. -/
  | commaAtEnd

/-- A document as written. -/
inductive Form where
  /-- Nothing that a value could start with, or a word that breaks off. -/
  | broken (fault : Fault)
  | null
  | bool (b : Bool)
  | number (token : Token JsonNumber)
  | string (token : Token String)
  | array (items : List Form) (close : ItemsEnd)
  | object (members : List (Token String × Form)) (close : MembersEnd)

namespace Form

/-- What a reader reports that meets a form where it wants another kind of value: scalars are read
    first, so that their faults come before the report. -/
def found : Form → Except Fault Found
  | .broken fault => .error fault
  | .null => .ok .null
  | .bool b => .ok (.bool b)
  | .number token => token.kept.map fun
    | .integer n => .integer n
    | .float x => .float x
  | .string token => token.kept.map .string
  | .array _ _ => .ok .sequence
  | .object _ _ => .ok .map

/-! ## Reading bytes -/

def isBlankByte (b : UInt8) : Bool := b = 0x20 || b = 0x0A || b = 0x09 || b = 0x0D

def skipBlank (bytes : Bytes) : Bytes := bytes.dropWhile isBlankByte

def isDigitByte (b : UInt8) : Bool := 0x30 ≤ b && b ≤ 0x39

/-- The digits at the start, and the rest. -/
def scanDigits (bytes : Bytes) : List Nat × Bytes :=
  ((bytes.takeWhile isDigitByte).map (fun b => b.toNat - 0x30), bytes.dropWhile isDigitByte)

/-- The value of decimal digits. -/
def digitsValue (digits : List Nat) : Nat := digits.foldl (fun n d => n * 10 + d) 0

/-- What stands after a number of which a digit is missing: a keeping reader tells the end of the
    text apart. -/
def missingDigit (rest : Bytes) : Token JsonNumber :=
  .refused (if rest = [] then .endOfValue else .invalidNumber) .invalidNumber

/-- Reads the exponent of a number, if there is one. -/
def scanExponent (bytes : Bytes) : Except (Token JsonNumber) (Option Int × Bytes) :=
  match bytes with
  | b :: rest =>
    if b = 0x65 || b = 0x45 then
      let (negative, rest) :=
        match rest with
        | s :: more =>
          if s = 0x2D then (true, more) else if s = 0x2B then (false, more) else (false, rest)
        | [] => (false, [])
      let (digits, rest) := scanDigits rest
      if digits = [] then .error (missingDigit rest)
      else
        let n : Int := digitsValue digits
        .ok (some (if negative then -n else n), rest)
    else .ok (none, bytes)
  | [] => .ok (none, [])

/-- Reads the digits after the point, if there is one. -/
def scanFraction (bytes : Bytes) : Except (Token JsonNumber) (List Nat × Bytes) :=
  match bytes with
  | b :: rest =>
    if b = 0x2E then
      let (digits, rest) := scanDigits rest
      if digits = [] then .error (missingDigit rest) else .ok (digits, rest)
    else .ok ([], bytes)
  | [] => .ok ([], [])

/-- Reads a number whose sign has been read; the rest is `none` if no reader gets past it. -/
def scanNumber (negative : Bool) (bytes : Bytes) : Token JsonNumber × Option Bytes :=
  let (whole, rest) := scanDigits bytes
  if whole = [] then (missingDigit rest, none)
  else if 1 < whole.length ∧ whole.head? = some 0 then
    (.refused .invalidNumber .invalidNumber, none)
  else
    match scanFraction rest with
    | .error token => (token, none)
    | .ok (fraction, rest) =>
      match scanExponent rest with
      | .error token => (token, none)
      | .ok (exponent, rest) =>
        (⟨(Numeral.mk negative whole fraction exponent).value, .ok ()⟩, some rest)

/-- The value of a hexadecimal digit. -/
def hexDigit? (b : UInt8) : Option Nat :=
  if isDigitByte b then some (b.toNat - 0x30)
  else if 0x61 ≤ b && b ≤ 0x66 then some (b.toNat - 0x57)
  else if 0x41 ≤ b && b ≤ 0x46 then some (b.toNat - 0x37)
  else none

/-- Four hexadecimal digits. -/
def scanHex (bytes : Bytes) : Except Fault (Nat × Bytes) :=
  match bytes with
  | a :: b :: c :: d :: rest =>
    match hexDigit? a, hexDigit? b, hexDigit? c, hexDigit? d with
    | some a, some b, some c, some d => .ok (((a * 16 + b) * 16 + c) * 16 + d, rest)
    | _, _, _, _ => .error .invalidEscape
  | _ => .error .endOfString

/-- One step through a string. -/
inductive Piece where
  /-- The closing quote. -/
  | close
  /-- Bytes of the string. -/
  | content (bytes : Bytes)
  /-- An escape that only a keeping reader refuses. -/
  | unpaired (fault : Fault)
  /-- What every reader refuses. -/
  | refused (fault : Fault)

/-- The low surrogate that must follow a high one, as the next escape. -/
def scanLowSurrogate (bytes : Bytes) : Except Fault (Nat × Bytes) :=
  match bytes with
  | [] => .error .endOfString
  | b :: rest =>
    if b ≠ 0x5C then .error .endOfHexEscape
    else
      match rest with
      | [] => .error .endOfString
      | u :: rest =>
        if u ≠ 0x75 then .error .endOfHexEscape
        else
          match scanHex rest with
          | .error fault => .error fault
          | .ok (n, rest) =>
            if 0xDC00 ≤ n ∧ n ≤ 0xDFFF then .ok (n, rest) else .error .loneSurrogate

/-- An escape, after its backslash. -/
def scanEscape (bytes : Bytes) : Piece × Bytes :=
  match bytes with
  | [] => (.refused .endOfString, [])
  | b :: rest =>
    let simple := fun (c : UInt8) => (Piece.content [c], rest)
    if b = 0x22 || b = 0x5C || b = 0x2F then simple b
    else if b = 0x62 then simple 0x08
    else if b = 0x66 then simple 0x0C
    else if b = 0x6E then simple 0x0A
    else if b = 0x72 then simple 0x0D
    else if b = 0x74 then simple 0x09
    else if b = 0x75 then
      match scanHex rest with
      | .error fault => (.refused fault, [])
      | .ok (n, rest) =>
        if 0xDC00 ≤ n ∧ n ≤ 0xDFFF then (.unpaired .loneSurrogate, rest)
        else if 0xD800 ≤ n ∧ n ≤ 0xDBFF then
          match scanLowSurrogate rest with
          | .error fault => (.unpaired fault, rest)
          | .ok (low, rest) =>
            let point := 0x10000 + (n - 0xD800) * 0x400 + (low - 0xDC00)
            (.content (String.utf8EncodeChar (Char.ofNat point)), rest)
        else (.content (String.utf8EncodeChar (Char.ofNat n)), rest)
    else (.refused .invalidEscape, [])

/-- The next piece of a string. -/
def scanPiece (bytes : Bytes) : Piece × Bytes :=
  match bytes with
  | [] => (.refused .endOfString, [])
  | b :: rest =>
    if b = 0x22 then (.close, rest)
    else if b = 0x5C then scanEscape rest
    else if b < 0x20 then (.refused .controlCharacter, [])
    else (.content [b], rest)

/-- Reads a string whose opening quote has been read. `kept` is what a keeping reader has so far,
    in reverse. -/
def scanStringFrom : Nat → Except Fault Bytes → Bytes → Token String × Option Bytes
  | 0, _, _ => (.refused .endOfString .endOfString, none)
  | fuel + 1, kept, bytes =>
    match scanPiece bytes with
    | (.close, rest) =>
      let text := kept.bind fun reversed =>
        match Text.Utf8.decode? reversed.reverse with
        | some text => .ok text
        | none => .error .invalidCodePoint
      (⟨text, .ok ()⟩, some rest)
    | (.content more, rest) => scanStringFrom fuel (kept.map (more.reverse ++ ·)) rest
    | (.unpaired fault, rest) => scanStringFrom fuel (kept.bind fun _ => .error fault) rest
    | (.refused fault, _) => (⟨kept.bind fun _ => .error fault, .error fault⟩, none)

/-- Reads a string whose opening quote has been read; the rest is `none` if no reader gets past
    it. -/
def scanString (bytes : Bytes) : Token String × Option Bytes :=
  scanStringFrom (bytes.length + 1) (.ok []) bytes

/-- Reads the rest of a word. -/
def scanWord (form : Form) : Bytes → Bytes → Form × Option Bytes
  | [], bytes => (form, some bytes)
  | _ :: _, [] => (.broken .endOfValue, none)
  | letter :: word, b :: rest =>
    if letter = b then scanWord form word rest else (.broken .expectedIdent, none)

mutual

/-- Reads a value; the rest is `none` if no reader gets past it. -/
def scanValue : Nat → Bytes → Form × Option Bytes
  | 0, _ => (.broken .endOfValue, none)
  | fuel + 1, bytes =>
    match skipBlank bytes with
    | [] => (.broken .endOfValue, none)
    | b :: rest =>
      if b = 0x6E then scanWord .null [0x75, 0x6C, 0x6C] rest
      else if b = 0x74 then scanWord (.bool true) [0x72, 0x75, 0x65] rest
      else if b = 0x66 then scanWord (.bool false) [0x61, 0x6C, 0x73, 0x65] rest
      else if b = 0x2D then
        let (token, rest) := scanNumber true rest
        (.number token, rest)
      else if isDigitByte b then
        let (token, rest) := scanNumber false (b :: rest)
        (.number token, rest)
      else if b = 0x22 then
        let (token, rest) := scanString rest
        (.string token, rest)
      else if b = 0x5B then
        match skipBlank rest with
        | [] => (.array [] .atEnd, none)
        | c :: more =>
          if c = 0x5D then (.array [] .closed, some more)
          else
            let (items, close, rest) := scanItems fuel rest
            (.array items close, rest)
      else if b = 0x7B then
        match skipBlank rest with
        | [] => (.object [] .atEnd, none)
        | c :: more =>
          if c = 0x7D then (.object [] .closed, some more)
          else
            let (members, close, rest) := scanMembers fuel rest
            (.object members close, rest)
      else (.broken .expectedValue, none)

/-- Reads the items of an array from the next one on. -/
def scanItems : Nat → Bytes → List Form × ItemsEnd × Option Bytes
  | 0, _ => ([], .atEnd, none)
  | fuel + 1, bytes =>
    match scanValue fuel bytes with
    | (item, none) => ([item], .atEnd, none)
    | (item, some rest) =>
      match skipBlank rest with
      | [] => ([item], .atEnd, none)
      | c :: rest =>
        if c = 0x5D then ([item], .closed, some rest)
        else if c = 0x2C then
          match skipBlank rest with
          | [] => ([item], .commaAtEnd, none)
          | d :: more =>
            if d = 0x5D then ([item], .commaClosed, none)
            else
              let (items, close, rest) := scanItems fuel (d :: more)
              (item :: items, close, rest)
        else ([item], .junk, none)

/-- Reads the members of an object from the next key on. -/
def scanMembers : Nat → Bytes → List (Token String × Form) × MembersEnd × Option Bytes
  | 0, _ => ([], .atEnd, none)
  | fuel + 1, bytes =>
    match skipBlank bytes with
    | [] => ([], .commaAtEnd, none)
    | q :: afterQuote =>
      if q ≠ 0x22 then
        ([],
          (if q = 0x7D then .commaClosed else .notKey (scanValue fuel (q :: afterQuote)).1.found),
          none)
      else
        match scanString afterQuote with
        | (key, none) => ([(key, .broken .endOfObject)], .atEnd, none)
        | (key, some rest) =>
          match skipBlank rest with
          | [] => ([(key, .broken .endOfObject)], .atEnd, none)
          | colon :: rest =>
            if colon ≠ 0x3A then ([(key, .broken .expectedColon)], .atEnd, none)
            else
              match scanValue fuel rest with
              | (value, none) => ([(key, value)], .atEnd, none)
              | (value, some rest) =>
                match skipBlank rest with
                | [] => ([(key, value)], .atEnd, none)
                | c :: rest =>
                  if c = 0x7D then ([(key, value)], .closed, some rest)
                  else if c = 0x2C then
                    let (members, close, rest) := scanMembers fuel rest
                    ((key, value) :: members, close, rest)
                  else ([(key, value)], .junk, none)

end

/-- A document: its form, and whether anything but blanks follows it. -/
structure Document where
  form : Form
  followed : Bool

/-- Reads a document. -/
def ofBytes (bytes : Bytes) : Document :=
  match scanValue (2 * bytes.length + 2) bytes with
  | (form, none) => ⟨form, false⟩
  | (form, some rest) => ⟨form, !(skipBlank rest).isEmpty⟩

/-! ## The form of a value -/

mutual

/-- The faultless form of a value. -/
def ofJson : Json → Form
  | .null => .null
  | .bool b => .bool b
  | .number n => .number (.sound n)
  | .string s => .string (.sound s)
  | .array items => .array (ofItems items) .closed
  | .object members => .object (ofMembers members) .closed

/-- The forms of the items of an array. -/
def ofItems : List Json → List Form
  | [] => []
  | json :: rest => ofJson json :: ofItems rest

/-- The forms of the members of an object. -/
def ofMembers : List (String × Json) → List (Token String × Form)
  | [] => []
  | (key, json) :: rest => (.sound key, ofJson json) :: ofMembers rest

end

end Form

end Pipewright.Json
