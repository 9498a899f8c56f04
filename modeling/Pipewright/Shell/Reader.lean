import Pipewright.Decimal.Reading
import Pipewright.Shell.Syntax

set_option autoImplicit false

/-! # Reading shell scripts

`Script.ofText` reads a script. The reader takes characters off the front of the text; every call
costs one unit of fuel, of which there is enough for the length of the text. -/

namespace Pipewright.Shell

/-- A reader of characters, which may find something wrong. -/
abbrev Reader := StateT (List Char) (Except String)

namespace Reader

def isBlank (c : Char) : Bool := c = ' ' || c = '\t'

/-- Whether a character ends an unquoted word. -/
def isDelimiter (c : Char) : Bool :=
  isBlank c || c = '\n' || c = ';' || c = '&' || c = '|' || c = '<' || c = '>' || c = '(' || c = ')'

def isNameStart (c : Char) : Bool := c.isAlpha || c = '_'

def isNameChar (c : Char) : Bool := c.isAlphanum || c = '_'

/-- Drops blanks, joined lines and a comment. -/
def dropBlanks : List Char → List Char
  | [] => []
  | '\\' :: '\n' :: rest => dropBlanks rest
  | c :: rest =>
    if isBlank c then dropBlanks rest
    else if c = '#' then rest.dropWhile (· ≠ '\n')
    else c :: rest

/-- Drops blanks, comments and line ends, of which there are at most as many as fuel. -/
def dropLines : Nat → List Char → List Char
  | 0, cs => cs
  | fuel + 1, cs =>
    match dropBlanks cs with
    | '\n' :: rest => dropLines fuel rest
    | cs => cs

def skipBlanks : Reader Unit := modify dropBlanks

def skipLines : Reader Unit := modify fun cs => dropLines cs.length cs

/-- The rest, if the characters begin with a text. -/
def after? : List Char → List Char → Option (List Char)
  | [], cs => some cs
  | _ :: _, [] => none
  | p :: ps, c :: cs => if p = c then after? ps cs else none

/-- Takes a text off the front, if it is there. -/
def accept (text : String) : Reader Bool := do
  match after? text.toList (← get) with
  | some rest => set rest; return true
  | none => return false

def expect (text : String) : Reader Unit := do
  unless ← accept text do throw "unexpected token"

/-- The characters up to the next delimiter. -/
def bareWord (cs : List Char) : String := String.ofList (cs.takeWhile (!isDelimiter ·))

/-- Takes a reserved word off the front, if it is there. -/
def acceptWord (word : String) : Reader Bool := do
  if bareWord (← get) = word then
    modify (·.drop word.length)
    return true
  else return false

def expectWord (word : String) : Reader Unit := do
  skipLines
  unless ← acceptWord word do throw ("unexpected token, expecting " ++ word)

/-- Words that end a list of commands. -/
def closers : List String := ["then", "do", "done", "fi", "else", "elif", "esac", "\x7d"]

/-- Whether a list of commands ends here. -/
def isClosed (cs : List Char) : Bool :=
  match cs with
  | [] => true
  | ')' :: _ => true
  | ';' :: ';' :: _ => true
  | _ => closers.contains (bareWord cs)

/-- A name at the front. -/
def takeName : Reader String := do
  let cs ← get
  match cs with
  | c :: _ =>
    if isNameStart c then
      set (cs.dropWhile isNameChar)
      return String.ofList (cs.takeWhile isNameChar)
    else return ""
  | [] => return ""

/-- The name of an assignment at the front. -/
def assigned? (cs : List Char) : Option String :=
  match cs with
  | c :: _ =>
    if isNameStart c && (cs.dropWhile isNameChar).head? = some '=' then
      some (String.ofList (cs.takeWhile isNameChar))
    else none
  | [] => none

/-- The descriptor and the rest, if a redirection begins here. -/
def redirection? (cs : List Char) : Option (Option Nat × List Char) :=
  let digits := cs.takeWhile Char.isDigit
  match cs.dropWhile Char.isDigit with
  | c :: rest =>
    if c = '<' || c = '>' then
      some (if digits = [] then none else some (digitsNat digits), c :: rest)
    else none
  | [] => none

/-- The lines up to one that is the mark, and what follows it. -/
def documentLines (mark : List Char) (dropTabs : Bool) : List (List Char) →
    List (List Char) × List (List Char)
  | [] => ([], [])
  | line :: rest =>
    let line := if dropTabs then line.dropWhile (· = '\t') else line
    if line = mark then ([], rest)
    else
      let (body, after) := documentLines mark dropTabs rest
      (line :: body, after)

/-- The lines of a text. -/
def lines : List Char → List (List Char)
  | [] => [[]]
  | '\n' :: rest => [] :: lines rest
  | c :: rest =>
    match lines rest with
    | [] => [[c]]
    | line :: more => (c :: line) :: more

def unlines (ls : List (List Char)) : List Char := (ls.map (· ++ ['\n'])).flatten

/-- Takes a document that begins on the next line off the text. -/
def takeDocument (mark : List Char) (dropTabs : Bool) : Reader (List Char) := do
  let cs ← get
  let here := cs.takeWhile (· ≠ '\n')
  let below := (cs.dropWhile (· ≠ '\n')).drop 1
  let (body, rest) := documentLines mark dropTabs (lines below)
  set (here ++ '\n' :: ((unlines rest).dropLast))
  return unlines body

/-- The operators between a parameter's name and a word. -/
def uses : List (String × Use) := [
  (":-", .orElse true), ("-", .orElse false), (":=", .orAssign true), ("=", .orAssign false),
  (":?", .orFail true), ("?", .orFail false), (":+", .ifThere true), ("+", .ifThere false),
  ("##", .cutStart true), ("#", .cutStart false), ("%%", .cutEnd true), ("%", .cutEnd false)]

/-- Takes the first operator that is there. -/
def takeUse : List (String × Use) → Reader (Option Use)
  | [] => return none
  | (text, use) :: rest => do
    if ← accept text then return some use
    takeUse rest

def isSpecial (c : Char) : Bool := "@*#?$!-".toList.contains c

/-- The name of a parameter: a name, a number, or a special character. -/
def takeParameter (inBraces : Bool) : Reader String := do
  let cs ← get
  match cs with
  | c :: rest =>
    if isNameStart c then takeName
    else if c.isDigit then
      if inBraces then
        set (cs.dropWhile Char.isDigit)
        return String.ofList (cs.takeWhile Char.isDigit)
      else
        set rest
        return String.singleton c
    else if isSpecial c then
      set rest
      return String.singleton c
    else return ""
  | [] => return ""

/-- What stands in front of the two brackets that close an arithmetic expression. -/
def takeArithmetic (depth : Nat) : List Char → Option (List Char × List Char)
  | [] => none
  | '(' :: rest => (takeArithmetic (depth + 1) rest).map fun (inside, rest) => ('(' :: inside, rest)
  | ')' :: rest =>
    match depth, rest with
    | 0, ')' :: rest => some ([], rest)
    | 0, _ => none
    | depth + 1, _ => (takeArithmetic depth rest).map fun (inside, rest) => (')' :: inside, rest)
  | c :: rest => (takeArithmetic depth rest).map fun (inside, rest) => (c :: inside, rest)

/-- What stands in front of a closing back quote. -/
def takeBackquoted : List Char → Option (List Char × List Char)
  | [] => none
  | '\x60' :: rest => some ([], rest)
  | '\\' :: c :: rest =>
    (takeBackquoted rest).map fun (inside, rest) =>
      (if c = '\x60' || c = '$' || c = '\\' then (c :: inside, rest)
        else ('\\' :: c :: inside, rest))
  | c :: rest => (takeBackquoted rest).map fun (inside, rest) => (c :: inside, rest)

/-- Reads other characters, and keeps its own. -/
def within {α : Type} (text : List Char) (reader : Reader α) : Reader α := do
  let rest ← get
  set text
  let a ← reader
  set rest
  return a

mutual

/-- What follows a dollar sign. -/
def dollar (isQuoted : Bool) : Nat → Reader Part
  | 0 => throw "too deep"
  | fuel + 1 => do
    match ← get with
    | '(' :: '(' :: rest =>
      match takeArithmetic 0 rest with
      | some (inside, rest) =>
        let word ← within inside (quoted none fuel)
        set rest
        return .arithmetic word isQuoted
      | none => substitution isQuoted fuel
    | '(' :: _ => substitution isQuoted fuel
    | '\x7b' :: rest =>
      set rest
      if ← accept "#" then
        match ← get with
        | '\x7d' :: rest =>
          set rest
          return .parameter "#" .value [] isQuoted
        | _ =>
          let name ← takeParameter true
          expect "\x7d"
          return .parameter name .length [] isQuoted
      else
        let name ← takeParameter true
        if name = "" then throw "Bad substitution"
        match ← takeUse uses with
        | none =>
          expect "\x7d"
          return .parameter name .value [] isQuoted
        | some use =>
          let word ← word (some '\x7d') isQuoted fuel
          expect "\x7d"
          return .parameter name use word isQuoted
    | _ =>
      let name ← takeParameter false
      if name = "" then return .text "$" true
      else return .parameter name .value [] isQuoted
termination_by structural fuel => fuel

/-- A command whose output is taken. -/
def substitution (isQuoted : Bool) : Nat → Reader Part
  | 0 => throw "too deep"
  | fuel + 1 => do
    expect "("
    let body ← list fuel
    expect ")"
    return .output body isQuoted
termination_by structural fuel => fuel

/-- Parts in double quotes, up to a closing character or the end of the text. -/
def quoted (stop : Option Char) : Nat → Reader (List Part)
  | 0 => throw "too deep"
  | fuel + 1 => do
    match ← get with
    | [] =>
      if stop = none then return []
      throw "Unterminated quoted string"
    | c :: rest =>
      set rest
      if some c = stop then return []
      let part ←
        match c, rest with
        | '$', _ => dollar true fuel
        | '\x60', _ => backquoted true fuel
        | '\\', d :: rest =>
          if d = '\n' then
            set rest
            pure (.text "" true)
          else if d = '$' || d = '\x60' || d = '\\' || (d = '"' && stop = some '"') then
            set rest
            pure (.text (String.singleton d) true)
          else pure (.text "\\" true)
        | _, _ => pure (.text (String.singleton c) true)
      return part :: (← quoted stop fuel)
termination_by structural fuel => fuel

def backquoted (isQuoted : Bool) : Nat → Reader Part
  | 0 => throw "too deep"
  | fuel + 1 => do
    match takeBackquoted (← get) with
    | none => throw "EOF in backquote substitution"
    | some (inside, rest) =>
      let body ← within inside (list fuel)
      set rest
      return .output body isQuoted
termination_by structural fuel => fuel

/-- The parts of a word, up to a delimiter or, in braces, the closing brace. -/
def word (stop : Option Char) (isQuoted : Bool) : Nat → Reader (List Part)
  | 0 => throw "too deep"
  | fuel + 1 => do
    match ← get with
    | [] => return []
    | c :: rest =>
      if some c = stop then return []
      if stop = none && isDelimiter c then return []
      set rest
      let parts ←
        match c, rest with
        | '\'', _ =>
          if isQuoted then pure [Part.text "'" true]
          else
            match rest.dropWhile (· ≠ '\'') with
            | [] => throw "Unterminated quoted string"
            | _ :: after =>
              set after
              pure [Part.text (String.ofList (rest.takeWhile (· ≠ '\''))) true]
        | '"', _ => do
          let parts ← quoted (some '"') fuel
          pure (if parts.isEmpty then [Part.text "" true] else parts)
        | '\\', '\n' :: after => do
          set after
          pure []
        | '\\', d :: after => do
          set after
          pure [Part.text (String.singleton d) true]
        | '$', _ => do pure [← dollar isQuoted fuel]
        | '\x60', _ => do pure [← backquoted isQuoted fuel]
        | _, _ => pure [Part.text (String.singleton c) isQuoted]
      return parts ++ (← word stop isQuoted fuel)
termination_by structural fuel => fuel

def redirection : Nat → Reader Redirection
  | 0 => throw "too deep"
  | fuel + 1 => do
    match redirection? (← get) with
    | none => throw "redirection unexpected"
    | some (descriptor, rest) =>
      set rest
      if ← accept "<<" then
        let dropTabs ← accept "-"
        skipBlanks
        let bare := (← get).takeWhile (!isDelimiter ·)
        modify (·.drop bare.length)
        let mark := bare.filter fun c => c ≠ '\'' && c ≠ '"' && c ≠ '\\'
        let body ← takeDocument mark dropTabs
        let target ←
          if mark = bare then within body (quoted none fuel)
          else pure [Part.text (String.ofList body) true]
        return .mk (descriptor.getD 0) .document target
      let (standard, direction) ←
        if ← accept ">>" then pure (1, Direction.append)
        else if ← accept ">&" then pure (1, Direction.duplicate)
        else if ← accept ">|" then pure (1, Direction.output)
        else if ← accept ">" then pure (1, Direction.output)
        else if ← accept "<&" then pure (0, Direction.duplicate)
        else
          expect "<"
          pure (0, Direction.input)
      skipBlanks
      let target ← word none false fuel
      if target.isEmpty then throw "redirection unexpected"
      return .mk (descriptor.getD standard) direction target
termination_by structural fuel => fuel

def redirections : Nat → Reader (List Redirection)
  | 0 => throw "too deep"
  | fuel + 1 => do
    skipBlanks
    match redirection? (← get) with
    | none => return []
    | some _ =>
      let first ← redirection fuel
      return first :: (← redirections fuel)
termination_by structural fuel => fuel

/-- The rest of a simple command. -/
def simple (lineEnds : Nat) (assignments : List (String × Word)) (words : List Word)
    (changes : List Redirection) : Nat → Reader Command
  | 0 => throw "too deep"
  | fuel + 1 => do
    skipBlanks
    let cs ← get
    if (redirection? cs).isSome then
      let change ← redirection fuel
      simple lineEnds assignments words (changes ++ [change]) fuel
    else
      match cs with
      | [] => return .simple lineEnds assignments words changes
      | c :: _ =>
        if isDelimiter c then return .simple lineEnds assignments words changes
        match (if words.isEmpty then assigned? cs else none) with
        | some name =>
          set (cs.drop (name.length + 1))
          let value ← word none false fuel
          simple lineEnds (assignments ++ [(name, value)]) words changes fuel
        | none =>
          let next ← word none false fuel
          simple lineEnds assignments (words ++ [next]) changes fuel
termination_by structural fuel => fuel

/-- The words of a line, up to a delimiter other than a blank. -/
def wordsOfLine : Nat → Reader (List Word)
  | 0 => throw "too deep"
  | fuel + 1 => do
    skipBlanks
    match ← get with
    | [] => return []
    | c :: _ =>
      if isDelimiter c then return []
      let next ← word none false fuel
      return next :: (← wordsOfLine fuel)
termination_by structural fuel => fuel

/-- The rest of a conditional, behind its first word. -/
def conditional : Nat → Reader Command
  | 0 => throw "too deep"
  | fuel + 1 => do
    let test ← list fuel
    expectWord "then"
    let body ← list fuel
    if ← acceptWord "elif" then
      return .conditional test body (← conditional fuel)
    let otherwise ← if ← acceptWord "else" then list fuel else pure (.sequence [])
    expectWord "fi"
    return .conditional test body otherwise
termination_by structural fuel => fuel

/-- The patterns of a branch, up to the closing bracket. -/
def patterns : Nat → Reader (List Word)
  | 0 => throw "too deep"
  | fuel + 1 => do
    skipBlanks
    let first ← word none false fuel
    skipBlanks
    if ← accept "|" then return first :: (← patterns fuel)
    expect ")"
    return [first]
termination_by structural fuel => fuel

def branches : Nat → Reader (List (List Word × Command))
  | 0 => throw "too deep"
  | fuel + 1 => do
    skipLines
    if ← acceptWord "esac" then return []
    let _ ← accept "("
    let tests ← patterns fuel
    let body ← list fuel
    skipLines
    if ← accept ";;" then return (tests, body) :: (← branches fuel)
    expectWord "esac"
    return [(tests, body)]
termination_by structural fuel => fuel

/-- A command that is built from others, with the redirections behind it; or a simple one. -/
def command : Nat → Reader Command
  | 0 => throw "too deep"
  | fuel + 1 => do
    skipBlanks
    let cs ← get
    let built : Option Command ←
      if ← accept "(" then do
        let body ← list fuel
        expect ")"
        pure (some (.subshell body))
      else if ← acceptWord "\x7b" then do
        let body ← list fuel
        expectWord "\x7d"
        pure (some body)
      else if ← acceptWord "if" then do pure (some (← conditional fuel))
      else if ← acceptWord "while" then do pure (some (← loop true fuel))
      else if ← acceptWord "until" then do pure (some (← loop false fuel))
      else if ← acceptWord "for" then do
        skipBlanks
        let name ← takeName
        if name = "" then throw "Bad for loop variable"
        skipLines
        let words ←
          if ← acceptWord "in" then do pure (some (← wordsOfLine fuel)) else pure none
        skipBlanks
        let _ ← accept ";"
        expectWord "do"
        let body ← list fuel
        expectWord "done"
        pure (some (.forEach name words body))
      else if ← acceptWord "case" then do
        skipBlanks
        let subject ← word none false fuel
        expectWord "in"
        pure (some (.choice subject (← branches fuel)))
      else pure none
    match built with
    | some command =>
      let changes ← redirections fuel
      return if changes.isEmpty then command else .redirected command changes
    | none =>
      let name ← takeName
      skipBlanks
      if name ≠ "" && (← accept "(") then
        skipBlanks
        expect ")"
        skipLines
        return .define name (← command fuel)
      set cs
      match ← simple (cs.filter (· = '\n')).length [] [] [] fuel with
      | .simple _ [] [] [] => throw "unexpected token"
      | command => return command
termination_by structural fuel => fuel

/-- The rest of a loop, behind its first word. -/
def loop (goesOnWhile : Bool) : Nat → Reader Command
  | 0 => throw "too deep"
  | fuel + 1 => do
    let test ← list fuel
    expectWord "do"
    let body ← list fuel
    expectWord "done"
    return .loop test goesOnWhile body
termination_by structural fuel => fuel

def pipeline : Nat → Reader Command
  | 0 => throw "too deep"
  | fuel + 1 => do
    skipBlanks
    if ← acceptWord "!" then return .negation (← pipeline fuel)
    let first ← command fuel
    skipBlanks
    match ← get with
    | '|' :: '|' :: _ => return first
    | '|' :: rest =>
      set rest
      skipLines
      return .pipeline first (← pipeline fuel)
    | _ => return first
termination_by structural fuel => fuel

/-- Pipelines that each depend on the one before. -/
def chain (first : Command) : Nat → Reader Command
  | 0 => throw "too deep"
  | fuel + 1 => do
    skipBlanks
    if ← accept "&&" then
      skipLines
      chain (.both first (← pipeline fuel)) fuel
    else if ← accept "||" then
      skipLines
      chain (.either first (← pipeline fuel)) fuel
    else return first
termination_by structural fuel => fuel

/-- The commands of a line. -/
def line : Nat → Reader (List Command)
  | 0 => throw "too deep"
  | fuel + 1 => do
    skipBlanks
    if isClosed (← get) then return []
    let first ← chain (← pipeline fuel) fuel
    skipBlanks
    match ← get with
    | ';' :: ';' :: _ => return [first]
    | ';' :: rest =>
      set rest
      skipBlanks
      if (← get).head? = some '\n' then return [first]
      return first :: (← line fuel)
    | '&' :: rest =>
      set rest
      skipBlanks
      if (← get).head? = some '\n' then return [.background first]
      return .background first :: (← line fuel)
    | _ => return [first]
termination_by structural fuel => fuel

/-- Commands up to something that closes them. -/
def list : Nat → Reader Command
  | 0 => throw "too deep"
  | fuel + 1 => return .sequence (← lists fuel)
termination_by structural fuel => fuel

def lists : Nat → Reader (List Command)
  | 0 => throw "too deep"
  | fuel + 1 => do
    skipLines
    let cs ← get
    if isClosed cs then return []
    let first ← line fuel
    skipBlanks
    match ← get with
    | '\n' :: _ => return first ++ (← lists fuel)
    | _ => return first
termination_by structural fuel => fuel

end

/-- Reads lines to the end of a script or to the first that is wrong. -/
def script : Nat → List Char → List Command × Option String
  | 0, _ => ([], some "too deep")
  | fuel + 1, cs =>
    match dropLines cs.length cs with
    | [] => ([], none)
    | cs =>
      match (line (8 * cs.length + 64)).run cs with
      | .error fault => ([], some fault)
      | .ok (commands, rest) =>
        match dropBlanks rest with
        | [] => (commands, none)
        | '\n' :: rest =>
          let (more, fault) := script fuel rest
          (commands ++ more, fault)
        | _ => ([], some "unexpected token")

end Reader

/-- Reads a script. -/
def Script.ofText (text : String) : Script :=
  let cs := text.toList
  let (commands, fault) := Reader.script (cs.length + 1) cs
  { lineEnds := (cs.filter (· = '\n')).length, commands, fault }

end Pipewright.Shell
