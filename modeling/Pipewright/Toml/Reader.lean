import Pipewright.Toml.Moment
import Pipewright.Toml.Value

set_option autoImplicit false

/-! # Reading TOML documents

`Document.ofText?` reads a document; a text that is none has no value. Fuel bounds how deep values
nest and how often their parts repeat; there is enough of it for the length of the text. -/

namespace Pipewright.Toml

/-- A reader of characters. -/
abbrev Reader := StateT (List Char) Option

namespace Reader

def isBlank (c : Char) : Bool := c = ' ' || c = '\t'

/-- Whether a character may stand in a comment or a literal text. -/
def isPlain (c : Char) : Bool := c = '\t' || (0x20 ≤ c.toNat && c.toNat ≠ 0x7F)

/-- Whether a character may stand in a bare key. -/
def isBare (c : Char) : Bool := c.isAlphanum || c = '_' || c = '-'

def skipBlanks : Reader Unit := modify (·.dropWhile isBlank)

/-- The rest behind an end of line. -/
def lineEnd? : List Char → Option (List Char)
  | '\n' :: rest => some rest
  | '\r' :: '\n' :: rest => some rest
  | _ => none

def skipComment : Reader Unit := do
  match ← get with
  | '#' :: rest => set (rest.dropWhile isPlain)
  | _ => return

/-- Skips blanks, comments and line ends, at most as many as fuel. -/
def skipLines : Nat → Reader Unit
  | 0 => return
  | fuel + 1 => do
    skipBlanks
    skipComment
    match lineEnd? (← get) with
    | some rest =>
      set rest
      skipLines fuel
    | none => return

/-- What may follow on a line: blanks and a comment. -/
def endLine : Reader Unit := do
  skipBlanks
  skipComment
  match ← get with
  | [] => return
  | cs => set (← lineEnd? cs)

def expect (c : Char) : Reader Unit := do
  match ← get with
  | d :: rest => if c = d then set rest else failure
  | [] => failure

def accept (text : List Char) : Reader Bool := do
  let cs ← get
  if text.isPrefixOf cs then
    set (cs.drop text.length)
    return true
  else return false

/-! ## Texts -/

def hexValue? (c : Char) : Option Nat :=
  if c.isDigit then some (c.toNat - 48)
  else if 'a' ≤ c && c ≤ 'f' then some (c.toNat - 87)
  else if 'A' ≤ c && c ≤ 'F' then some (c.toNat - 55)
  else none

/-- The character of a code in hexadecimal digits. -/
def codePoint? (digits : List Char) : Option Char := do
  let values ← digits.mapM hexValue?
  let n := values.foldl (fun n d => n * 16 + d) 0
  if n < 0xD800 || (0xDFFF < n && n < 0x110000) then some (Char.ofNat n) else none

/-- The character of an escape, behind its backslash. -/
def escape : Reader Char := do
  match ← get with
  | [] => failure
  | c :: rest =>
    set rest
    match c with
    | 'b' => return '\x08'
    | 't' => return '\t'
    | 'n' => return '\n'
    | 'f' => return '\x0c'
    | 'r' => return '\r'
    | '"' => return '"'
    | '\\' => return '\\'
    | 'u' | 'U' =>
      let count := if c = 'u' then 4 else 8
      set (rest.drop count)
      if (rest.take count).length = count then codePoint? (rest.take count) else failure
    | _ => failure

/-- The rest of a text in double quotes on one line. -/
def basicText : Nat → Reader (List Char)
  | 0 => failure
  | fuel + 1 => do
    match ← get with
    | [] => failure
    | '"' :: rest =>
      set rest
      return []
    | '\\' :: rest =>
      set rest
      let c ← escape
      return c :: (← basicText fuel)
    | c :: rest =>
      if isPlain c then
        set rest
        return c :: (← basicText fuel)
      else failure

/-- The rest of a text in single quotes on one line. -/
def literalText : Reader (List Char) := do
  let cs ← get
  match cs.dropWhile fun c => isPlain c && c ≠ '\'' with
  | '\'' :: rest =>
    set rest
    return cs.takeWhile fun c => isPlain c && c ≠ '\''
  | _ => failure

/-- The blanks and line ends behind a backslash at the end of a line. -/
def joinedLine? (cs : List Char) : Option (List Char) := do
  let rest ← lineEnd? (cs.dropWhile isBlank)
  some (rest.dropWhile fun c => isBlank c || c = '\n' || c = '\r')

/-- The rest of a text in three quotes; escapes count only in double quotes. -/
def longText (quote : Char) : Nat → Reader (List Char)
  | 0 => failure
  | fuel + 1 => do
    let cs ← get
    match cs with
    | [] => failure
    | c :: rest =>
      if c = quote then
        let run := (cs.takeWhile (· = quote)).length
        if run < 3 then
          set (cs.drop run)
          return List.replicate run quote ++ (← longText quote fuel)
        else if run ≤ 5 then
          set (cs.drop run)
          return List.replicate (run - 3) quote
        else failure
      else if c = '\\' && quote = '"' then
        match joinedLine? rest with
        | some rest =>
          set rest
          longText quote fuel
        | none =>
          set rest
          let c ← escape
          return c :: (← longText quote fuel)
      else
        match lineEnd? cs with
        | some rest =>
          set rest
          return '\n' :: (← longText quote fuel)
        | none =>
          if isPlain c then
            set rest
            return c :: (← longText quote fuel)
          else failure

/-- Skips the end of a line at the start of a text in three quotes. -/
def skipFirstLineEnd : Reader Unit := do
  if let some rest := lineEnd? (← get) then set rest

/-- A text in quotes. -/
def text : Reader String := do
  let fuel := (← get).length + 1
  if ← accept ['"', '"', '"'] then
    skipFirstLineEnd
    return String.ofList (← longText '"' fuel)
  else if ← accept ['\'', '\'', '\''] then
    skipFirstLineEnd
    return String.ofList (← longText '\'' fuel)
  else if ← accept ['"'] then return String.ofList (← basicText fuel)
  else if ← accept ['\''] then return String.ofList (← literalText)
  else failure

/-! ## Keys -/

/-- A key without dots. -/
def simpleKey : Reader String := do
  let cs ← get
  match cs with
  | '"' :: rest =>
    set rest
    return String.ofList (← basicText cs.length)
  | '\'' :: rest =>
    set rest
    return String.ofList (← literalText)
  | _ =>
    let name := cs.takeWhile isBare
    if name = [] then failure
    set (cs.dropWhile isBare)
    return String.ofList name

/-- The parts of a dotted key, with blanks around them. -/
def keyParts : Nat → Reader (List String)
  | 0 => failure
  | fuel + 1 => do
    skipBlanks
    let first ← simpleKey
    skipBlanks
    if ← accept ['.'] then return first :: (← keyParts fuel)
    return [first]

/-- How deep values may nest, and how many parts a key may have. -/
def depthLimit : Nat := 80

/-- A dotted key: the parts before the last, and the last. -/
def key : Reader (List String × String) := do
  let parts ← keyParts ((← get).length + 1)
  if depthLimit ≤ parts.length then failure
  match parts.getLast? with
  | some last => return (parts.dropLast, last)
  | none => failure

/-! ## Numbers -/

/-- Digits with single underscores between them, without the underscores. -/
def digits (isDigit : Char → Bool) : Nat → Reader (List Char)
  | 0 => failure
  | fuel + 1 => do
    match ← get with
    | c :: rest =>
      if !isDigit c then failure
      set rest
      match rest with
      | '_' :: more =>
        set more
        return c :: (← digits isDigit fuel)
      | d :: _ => if isDigit d then return c :: (← digits isDigit fuel) else return [c]
      | [] => return [c]
    | [] => failure

def takeDigits (isDigit : Char → Bool) : Reader (List Char) := do
  digits isDigit ((← get).length + 1)

/-- A number with a base other than ten, behind its mark. -/
def based (base : Nat) : Reader Value := do
  let isDigit := fun (c : Char) => ((hexValue? c).any (· < base) : Bool)
  let cs ← takeDigits isDigit
  let n := ((cs.filterMap hexValue?).foldl (fun n d => n * base + d) 0 : Nat)
  if n < twoPow 63 then return .integer n else failure

/-- A sign, and whether it is a minus. -/
def sign : Reader Bool := do
  match ← get with
  | '-' :: rest =>
    set rest
    return true
  | '+' :: rest =>
    set rest
    return false
  | _ => return false

/-- The exponent of a number. -/
def exponent : Reader (Option Int) := do
  match ← get with
  | c :: rest =>
    if c = 'e' || c = 'E' then
      set rest
      let isNegative ← sign
      let n := (digitsNat (← takeDigits Char.isDigit) : Int)
      return some (if isNegative then -n else n)
    else return none
  | [] => return none

/-- A number in decimal digits, or one of the words for numbers. -/
def decimal : Reader Value := do
  let isNegative ← sign
  if ← accept ['i', 'n', 'f'] then return .float (Binary64.infinity isNegative)
  if ← accept ['n', 'a', 'n'] then return .float Binary64.nan
  let whole ←
    match ← get with
    | '0' :: rest => do
      set rest
      pure ['0']
    | _ => takeDigits Char.isDigit
  let fraction ← if ← accept ['.'] then some <$> takeDigits Char.isDigit else pure none
  let exponent ← exponent
  if fraction.isNone && exponent.isNone then
    let n := digitsNat whole
    if isNegative then
      if n ≤ twoPow 63 then return .integer (-(n : Int)) else failure
    else if n < twoPow 63 then return .integer n
    else failure
  else
    let fraction := fraction.getD []
    let x := Binary64.ofDecimal isNegative (digitsNat (whole ++ fraction))
      (exponent.getD 0 - fraction.length)
    if x = Binary64.infinity false then failure else return .float x

/-- A number, a date or a time. -/
def number : Reader Value := do
  match Moment.read? (← get) with
  | some (text, rest) =>
    set rest
    return .moment text
  | none =>
    if ← accept ['0', 'x'] then based 16
    else if ← accept ['0', 'o'] then based 8
    else if ← accept ['0', 'b'] then based 2
    else decimal

/-! ## Values -/

mutual

/-- A value; `depth` is how deep values may still nest. -/
def value : Nat → Nat → Reader Value
  | 0, _ => failure
  | fuel + 1, depth => do
    match ← get with
    | '"' :: _ | '\'' :: _ => return .text (← text)
    | '[' :: rest =>
      if depth ≤ 1 then failure
      set rest
      return .list (← items fuel (depth - 1))
    | '\x7b' :: rest =>
      if depth ≤ 1 then failure
      set rest
      skipBlanks
      if ← accept ['\x7d'] then return .table []
      return (← members fuel (depth - 1) Item.empty).toValue
    | 't' :: _ => if ← accept "true".toList then return .bool true else failure
    | 'f' :: _ => if ← accept "false".toList then return .bool false else failure
    | _ => number
termination_by structural fuel => fuel

/-- The rest of a list. -/
def items : Nat → Nat → Reader (List Value)
  | 0, _ => failure
  | fuel + 1, depth => do
    skipLines ((← get).length + 1)
    if ← accept [']'] then return []
    let first ← value fuel depth
    skipLines ((← get).length + 1)
    if ← accept [','] then return first :: (← items fuel depth)
    expect ']'
    return [first]
termination_by structural fuel => fuel

/-- The rest of a table in braces. -/
def members : Nat → Nat → Item → Reader Item
  | 0, _, _ => failure
  | fuel + 1, depth, table => do
    let (path, last) ← key
    expect '='
    skipBlanks
    let value ← value fuel depth
    let table ← (table.put [] path last value : Option Item)
    skipBlanks
    if ← accept [','] then members fuel depth table
    else
      expect '\x7d'
      return table
termination_by structural fuel => fuel

end

/-! ## Documents -/

/-- A heading, behind its first bracket: whether it begins a table of a list of tables, and its
    key. -/
def heading : Reader (Bool × List String × String) := do
  let isList ← accept ['[']
  let (path, last) ← key
  expect ']'
  if isList then expect ']'
  endLine
  return (isList, path, last)

/-- The lines of a document, with the heading that they stand under. -/
def document : Nat → List String → Item → Reader Item
  | 0, _, _ => failure
  | fuel + 1, under, item => do
    skipBlanks
    match ← get with
    | [] => return item
    | '#' :: _ =>
      endLine
      document fuel under item
    | '\n' :: _ | '\r' :: _ =>
      endLine
      document fuel under item
    | '[' :: rest =>
      set rest
      let (isList, path, last) ← heading
      let item ← (if isList then item.append path last else item.define path last : Option Item)
      document fuel (path ++ [last]) item
    | cs =>
      let (path, last) ← key
      expect '='
      skipBlanks
      let value ← value (cs.length + 1) depthLimit
      endLine
      let item ← (item.put under path last value : Option Item)
      document fuel under item

end Reader

/-- Reads a document. -/
def Value.ofText? (text : String) : Option Value :=
  let cs := text.toList
  let cs := if cs.head? = some '\uFEFF' then cs.drop 1 else cs
  ((Reader.document (cs.length + 1) [] Item.empty).run cs).map fun (item, _) => item.toValue

end Pipewright.Toml
