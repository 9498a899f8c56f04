import Pipewright.Json.Decoder
import Pipewright.Template.Syntax
import Pipewright.Text.Blank

set_option autoImplicit false

/-! # Tags

The grammar of what stands between the braces. A recogniser takes the characters that are left and
gives what it read with the rest, or nothing. Alternatives are tried in order and the first that
fits is taken for good; blanks may stand between the tokens of a tag.

`scanTag` reads one tag from its opening braces on. -/

namespace Pipewright.Template

/-- Reads something from the front of the characters. -/
abbrev Scan (α : Type) := List Char → Option (α × List Char)

namespace Scan

/-- The blanks that may stand between tokens. -/
def isBlank (c : Char) : Bool := c = ' ' || c = '\t' || c = '\n' || c = '\r'

def skipBlanks (cs : List Char) : List Char := cs.dropWhile isBlank

/-- The rest after a fixed text. -/
def after : List Char → List Char → Option (List Char)
  | [], cs => some cs
  | _ :: _, [] => none
  | p :: ps, c :: cs => if p = c then after ps cs else none

/-- The rest after a fixed text, which blanks may precede. -/
def token (text : String) (cs : List Char) : Option (List Char) := after text.toList (skipBlanks cs)

/-- The characters of names. -/
def isSymbol (c : Char) : Bool :=
  c.isAlphanum || c = '_' || c = '-' || c = '$' || 0x80 ≤ c.toNat

/-- Whether no name goes on here. -/
def atBoundary (cs : List Char) : Bool := !(cs.head?).any isSymbol

/-- A run of at least one character. -/
def run (p : Char → Bool) : Scan (List Char) := fun cs =>
  match cs.takeWhile p with
  | [] => none
  | taken => some (taken, cs.dropWhile p)

/-- A name, in which slashes may stand. -/
def identifier : Scan String := fun cs =>
  match cs with
  | c :: rest =>
    if isSymbol c then
      let p := fun (c : Char) => isSymbol c || c = '/'
      some (String.ofList (c :: rest.takeWhile p), rest.dropWhile p)
    else none
  | [] => none

/-! ## References -/

/-- A piece of a reference as it is written. -/
inductive Piece where
  | up
  | root
  | local
  | name (name : String)
  deriving DecidableEq

def isSeparator (c : Char) : Bool := c = '/' || c = '.'

/-- The rest after a separator. -/
def separator : List Char → Option (List Char)
  | c :: rest => if isSeparator c then some rest else none
  | [] => none

/-- `this` with a separator, or `./`. -/
def current (cs : List Char) : Option (List Char) :=
  match (after "this".toList cs).bind separator with
  | some rest => some rest
  | none => after "./".toList cs

/-- One item of a reference; `this` stands for the scope and adds nothing. -/
def item : Scan (List Piece) := fun cs =>
  let named := fun (name : List Char) =>
    if name = "this".toList then [] else [Piece.name (String.ofList name)]
  match run isSymbol cs with
  | some (name, rest) => some (named name, rest)
  | none =>
    match current cs with
    | some rest => some ([], rest)
    | none =>
      match cs with
      | '[' :: rest =>
        match rest.dropWhile (· ≠ ']') with
        | _ :: more => some (named (rest.takeWhile (· ≠ ']')), more)
        | [] => none
      | _ => none

/-- Further items, each after a separator. -/
def items : Nat → List Char → List Piece × List Char
  | 0, cs => ([], cs)
  | fuel + 1, cs =>
    match (separator cs).bind item with
    | some (pieces, rest) =>
      let (more, rest) := items fuel rest
      (pieces ++ more, rest)
    | none => ([], cs)

/-- Steps up, each with a separator. -/
def ups : Nat → List Char → List Piece × List Char
  | 0, cs => ([], cs)
  | fuel + 1, cs =>
    match (after "..".toList cs).bind separator with
    | some rest =>
      let (more, rest) := ups fuel rest
      (.up :: more, rest)
    | none => ([], cs)

/-- The steps of a path; the mark of a variable that does not stand first means nothing. -/
def steps : List Piece → List Step
  | [] => []
  | .up :: rest => .up :: steps rest
  | .root :: rest => .root :: steps rest
  | .local :: rest => steps rest
  | .name name :: rest => .name name :: steps rest

/-- The reference that pieces stand for. -/
def ofPieces (pieces : List Piece) (text : String) : Reference :=
  match pieces with
  | .local :: rest =>
    match rest.dropWhile (· = .up) with
    | .name name :: _ => .variable (rest.takeWhile (· = .up)).length name text
    | _ => .path (steps pieces) text
  | _ => .path (steps pieces) text

/-- A reference. -/
def reference : Scan Reference := fun cs =>
  let start := (current cs).getD cs
  let (root, start) :=
    match (after "@root".toList start).bind separator with
    | some rest => ([Piece.root], rest)
    | none => ([], start)
  let (mark, start) :=
    match start with
    | '@' :: rest => ([Piece.local], rest)
    | _ => ([], start)
  let (above, start) := ups start.length start
  match item start with
  | none => none
  | some (first, rest) =>
    let (more, rest) := items rest.length rest
    let text := String.ofList (cs.take (cs.length - rest.length))
    some (ofPieces (root ++ mark ++ above ++ first ++ more) text, rest)

/-! ## Literals -/

def isHexDigit (c : Char) : Bool :=
  c.isDigit || ('a' ≤ c && c ≤ 'f') || ('A' ≤ c && c ≤ 'F')

/-- The rest after a string up to its closing quote. -/
def stringEnd (quote : Char) : List Char → Option (List Char)
  | [] => none
  | '\\' :: 'u' :: a :: b :: c :: d :: rest =>
    if isHexDigit a && isHexDigit b && isHexDigit c && isHexDigit d then stringEnd quote rest
    else none
  | '\\' :: c :: rest =>
    if c = quote || "\\/bfnrt".toList.contains c then stringEnd quote rest else none
  | c :: rest =>
    if c = quote then some rest else if c = '\\' then none else stringEnd quote rest

/-- The rest after a number. -/
def numberEnd (cs : List Char) : Option (List Char) :=
  let cs := (after ['-'] cs).getD cs
  match run Char.isDigit cs with
  | none => none
  | some (_, rest) =>
    let rest := ((after ['.'] rest).getD rest).dropWhile Char.isDigit
    let exponent := fun (cs : List Char) => do
      let cs ← after ['E'] cs
      (run Char.isDigit ((after ['-'] cs).getD cs)).map Prod.snd
    let rest := (exponent rest).getD rest
    if atBoundary rest then some rest else none

/-- The rest after a word that no name goes on from. -/
def wordEnd (word : String) (cs : List Char) : Option (List Char) :=
  (after word.toList cs).filter atBoundary

mutual

/-- The rest after a literal. -/
def literalEnd : Nat → List Char → Option (List Char)
  | 0, _ => none
  | fuel + 1, cs =>
    match cs with
    | '"' :: rest => stringEnd '"' rest
    | '\'' :: rest => stringEnd '\'' rest
    | '[' :: rest =>
      let start := (literalEnd fuel (skipBlanks rest)).getD rest
      token "]" (moreItems fuel start)
    | '\x7b' :: rest =>
      let start := (pairEnd fuel (skipBlanks rest)).getD rest
      token "\x7d" (morePairs fuel start)
    | _ =>
      (numberEnd cs).orElse fun _ =>
        (wordEnd "null" cs).orElse fun _ =>
          (wordEnd "true" cs).orElse fun _ => wordEnd "false" cs

/-- The rest after a key and its value. -/
def pairEnd : Nat → List Char → Option (List Char)
  | 0, _ => none
  | fuel + 1, cs =>
    let key :=
      match cs with
      | '"' :: rest => stringEnd '"' rest
      | '\'' :: rest => stringEnd '\'' rest
      | _ => none
    (key.bind (token ":")).bind fun rest => literalEnd fuel (skipBlanks rest)

/-- The rest after further items, each after a comma. -/
def moreItems : Nat → List Char → List Char
  | 0, cs => cs
  | fuel + 1, cs =>
    match (token "," cs).bind (fun rest => literalEnd fuel (skipBlanks rest)) with
    | some rest => moreItems fuel rest
    | none => cs

/-- The rest after further pairs, each after a comma. -/
def morePairs : Nat → List Char → List Char
  | 0, cs => cs
  | fuel + 1, cs =>
    match (token "," cs).bind (fun rest => pairEnd fuel (skipBlanks rest)) with
    | some rest => morePairs fuel rest
    | none => cs

end

/-- The inside of a string in single quotes, as it stands in a JSON string. -/
def requote : List Char → List Char
  | [] => []
  | '\\' :: '\'' :: rest => '\'' :: requote rest
  | '"' :: rest => '\\' :: '"' :: requote rest
  | c :: rest => c :: requote rest

/-- The JSON text of a literal. -/
def literalJson (text : List Char) : List Char :=
  match text with
  | '\'' :: rest => '"' :: requote rest.dropLast ++ ['"']
  | _ => text

/-! ## Parameters -/

/-- A parameter as it is read: a literal may turn out to be no JSON value, which is found out after
    the whole text has been seen to follow the grammar. -/
abbrev Read (α : Type) := Except SyntaxFault α

/-- The value of a literal. -/
def literalParam (text : List Char) : Read Param :=
  match Json.parse? (Text.Utf8.encode (String.ofList (literalJson text))) with
  | .ok value => .ok (.literal value)
  | .error _ => .error (.invalidParam (String.ofList text))

/-- Whether a keyword stands here, that no parameter may start with. -/
def atKeyword (cs : List Char) : Bool :=
  ["as", "else"].any fun word =>
    match after word.toList cs with
    | some rest => atBoundary (skipBlanks rest)
    | none => false

/-- Arguments: positional ones and named ones, in their order. -/
structure Arguments where
  params : List Param
  hash : List (String × Param)

mutual

/-- A parameter. -/
def param : Nat → Scan (Read Param)
  | 0, _ => none
  | fuel + 1, cs =>
    if atKeyword cs then none
    else
      match literalEnd (cs.length + 1) cs with
      | some rest => some (literalParam (cs.take (cs.length - rest.length)), rest)
      | none =>
        match reference cs with
        | some (reference, rest) => some (.ok (.reference reference), rest)
        | none => subexpression fuel cs

/-- A helper with parameters, or a name, in parentheses. -/
def subexpression : Nat → Scan (Read Param)
  | 0, _ => none
  | fuel + 1, cs =>
    match cs with
    | '(' :: rest =>
      let start := skipBlanks rest
      let call := do
        let (name, rest) ← identifier start
        let (arguments, rest) := arguments fuel rest
        if arguments.isEmpty then none
        else
          some (collect arguments fun a => Param.call name a.params a.hash, rest)
      let inner := call.orElse fun _ => do
        let (reference, rest) ← reference start
        some (.ok (Param.call reference.text [] []), rest)
      inner.bind fun (inner, rest) => (token ")" rest).map fun rest => (inner, rest)
    | _ => none

/-- Positional and named arguments, in their order. -/
def arguments : Nat → List Char → List (Read (Option String × Param)) × List Char
  | 0, cs => ([], cs)
  | fuel + 1, cs =>
    let start := skipBlanks cs
    let named := do
      let (name, rest) ← identifier start
      let rest ← token "=" rest
      let (value, rest) ← param fuel (skipBlanks rest)
      some (value.map fun value => (some name, value), rest)
    let positional := fun (_ : Unit) => (param fuel start).map fun (value, rest) =>
      (value.map fun value => (none, value), rest)
    match named.orElse positional with
    | some (argument, rest) =>
      let (more, rest) := arguments fuel rest
      (argument :: more, rest)
    | none => ([], cs)

/-- Sorts arguments into positional and named ones; of a name that is given twice, the last value
    counts. -/
def collect {α : Type} (arguments : List (Read (Option String × Param))) (make : Arguments → α) :
    Read α :=
  (arguments.mapM id).map fun arguments =>
    make
      { params := arguments.filterMap fun (name, value) => if name.isNone then some value else none
        hash := arguments.foldl
          (fun hash (name, value) =>
            match name with
            | some name => hash.filter (·.1 != name) ++ [(name, value)]
            | none => hash) [] }

end

/-- The names after `as`. -/
def blockParam (cs : List Char) : BlockParam × List Char :=
  let names := do
    let rest ← token "as" cs
    let rest ← token "|" rest
    let (name, rest) ← identifier (skipBlanks rest)
    match (token "|" rest) with
    | some rest => some (BlockParam.one name, rest)
    | none =>
      let (other, rest) ← identifier (skipBlanks rest)
      let rest ← token "|" rest
      some (BlockParam.two name other, rest)
  names.getD (.none, cs)

/-! ## Tags -/

/-- What a tag is. -/
inductive Kind where
  /-- A value, or the helper of this name. -/
  | value (param : Param)
  | helper (call : Call)
  | comment
  | openBlock (call : Call) (blockParam : BlockParam)
  /-- The start of the part for the opposite case. -/
  | otherwise
  /-- The start of a further block for the opposite case. -/
  | chain (call : Call) (blockParam : BlockParam)
  | close (name : String)
  | decorator (call : Call)
  | openDecorator (call : Call)
  | include (name : PartialName) (params : List Param) (hash : List (String × Param))
  | openInclude (name : PartialName) (params : List Param) (hash : List (String × Param))
  /-- A raw block, with its inside as it stands. -/
  | raw (call : Call) (inside : String)

/-- What a tag does to the nesting of blocks. -/
inductive Shape where
  /-- Nothing; `isSilent` holds of tags that leave no trace of their own on their line. -/
  | leaf (isSilent : Bool)
  /-- A comment, which is not even noticed by the blanks around it. -/
  | comment
  /-- Opens a block that may have a part for the opposite case. -/
  | openBlock
  /-- Opens a block without such a part. -/
  | openPlain
  /-- Includes another template; `opens` tells whether it opens a block. -/
  | include (opens : Bool)
  | otherwise
  | chain
  | close
  deriving DecidableEq

/-- A tag: what it is, and whether a tilde asks to remove the blanks before and after it. -/
structure Tag where
  shape : Shape
  kind : Read Kind
  trimBefore : Bool
  trimAfter : Bool

/-- Whether a tilde stands here, and the rest. -/
def tilde (cs : List Char) : Bool × List Char :=
  match token "~" cs with
  | some rest => (true, rest)
  | none => (false, cs)

/-- The inside of an expression: a helper with arguments, a subexpression, or a reference. -/
def expressionInside (fuel : Nat) : Scan (Read Kind) := fun cs =>
  let start := skipBlanks cs
  let call := do
    let (name, rest) ← identifier start
    let (arguments, rest) := arguments fuel rest
    if arguments.isEmpty then none
    else some (collect arguments fun a => Kind.helper ⟨name, a.params, a.hash⟩, rest)
  call.orElse fun _ =>
    match subexpression fuel start with
    | some (inner, rest) => some (inner.map .value, rest)
    | none =>
      (reference start).map fun (reference, rest) => (.ok (.value (.reference reference)), rest)

/-- The name of something that is only named: a subexpression or a reference. -/
def nameInside (fuel : Nat) : Scan (Read Param) := fun cs =>
  let start := skipBlanks cs
  (subexpression fuel start).orElse fun _ =>
    (reference start).map fun (reference, rest) => (.ok (.reference reference), rest)

/-- A helper, its arguments and the names after `as`. -/
def callInside (fuel : Nat) : Scan (Read (Call × BlockParam)) := fun cs => do
  let (name, rest) ← identifier (skipBlanks cs)
  let (arguments, rest) := arguments fuel rest
  let (blockParam, rest) := blockParam rest
  some (collect arguments fun a => (⟨name, a.params, a.hash⟩, blockParam), rest)

/-- The characters of names of partial templates. -/
def isPartialSymbol (c : Char) : Bool :=
  c.isAlphanum || c = '_' || c = '-' || c = '/' || c = '.' || 0x80 ≤ c.toNat

/-- The name of a partial template, with its arguments. -/
def includeInside (fuel : Nat) :
    Scan (Read (PartialName × List Param × List (String × Param))) := fun cs =>
  let start := skipBlanks cs
  let quotedName := fun (_ : Unit) =>
    match start with
    | '\'' :: rest =>
      match rest.takeWhile (· ≠ '\''), rest.dropWhile (· ≠ '\'') with
      | [], _ => none
      | _, [] => none
      | inside, _ :: rest =>
        some (Except.ok (PartialName.word (String.ofList ('\'' :: inside ++ ['\'']))), rest)
    | _ => none
  let computed := fun (_ : Unit) =>
    (nameInside fuel start).map fun (name, rest) =>
      (name.map fun
        | .reference reference => PartialName.word reference.text
        | param => .computed param, rest)
  let name :=
    ((run isPartialSymbol start).map fun (name, rest) =>
      (Except.ok (PartialName.word (String.ofList name)), rest)).orElse fun _ =>
        (quotedName ()).orElse computed
  name.map fun (name, rest) =>
    let (arguments, rest) := arguments fuel rest
    (do
      let name ← name
      collect arguments fun a => (name, a.params, a.hash), rest)

/-- Ends a tag with a tilde, if there is one, and its closing braces. -/
def finish (shape : Shape) (kind : Read Kind) (trimBefore : Bool) (closing : String)
    (cs : List Char) : Option (Tag × List Char) :=
  let (trimAfter, rest) := tilde cs
  (token closing rest).map fun rest => (⟨shape, kind, trimBefore, trimAfter⟩, rest)

/-- The start of the part for the opposite case. -/
def otherwise (fuel : Nat) : Scan Tag := fun cs => do
  let rest ← after "\x7b\x7b".toList cs
  let (trimBefore, rest) := tilde rest
  let rest ← (token "else" rest).orElse fun _ => token "^" rest
  (finish .otherwise (.ok .otherwise) trimBefore "\x7d\x7d" rest).orElse fun _ => do
    let (call, rest) ← callInside fuel rest
    finish .chain (call.map fun (call, names) => .chain call names) trimBefore "\x7d\x7d" rest

/-- Whether braces stand here that open a tag. -/
def atBraces (cs : List Char) : Bool := (after "\x7b\x7b".toList cs).isSome

/-- Text up to braces that open a tag, or to the end. A backslash before braces makes them text and
    is dropped; of several backslashes before braces one is dropped, and the braces stay. `stop` is
    the number of braces at which the text ends. -/
def textRun (stop : Nat) : Nat → List Char → List Char × List Char
  | 0, cs => ([], cs)
  | _ + 1, [] => ([], [])
  | fuel + 1, c :: rest =>
    if c = '\\' then
      let slashes := rest.takeWhile (· = '\\')
      let following := rest.dropWhile (· = '\\')
      if atBraces following then
        if slashes = [] then
          let opened := if atBraces (following.drop 2) then 4 else 2
          let (text, rest) := textRun stop fuel (following.drop opened)
          (following.take opened ++ text, rest)
        else
          let (text, rest) := textRun stop fuel following
          (slashes ++ text, rest)
      else
        let (text, rest) := textRun stop fuel rest
        (c :: text, rest)
    else if (after (List.replicate stop '\x7b') (c :: rest)).isSome then ([], c :: rest)
    else
      let (text, rest) := textRun stop fuel rest
      (c :: text, rest)

/-- The text up to a mark, and the rest after it. -/
def upTo (mark : List Char) : List Char → Option (List Char × List Char)
  | [] => if mark = [] then some ([], []) else none
  | c :: cs =>
    match after mark (c :: cs) with
    | some rest => some ([], rest)
    | none => (upTo mark cs).map fun (inside, rest) => (c :: inside, rest)

/-- A comment. -/
def comment : Scan Tag := fun cs =>
  let tag : Tag := ⟨.comment, .ok .comment, false, false⟩
  let long := do
    let rest ← after "\x7b\x7b!".toList cs
    let rest ← token "--" rest
    let (_, rest) ← upTo "--\x7d\x7d".toList rest
    some (tag, rest)
  long.orElse fun _ => do
    let rest ← after "\x7b\x7b!".toList cs
    let (_, rest) ← upTo "\x7d\x7d".toList rest
    some (tag, rest)

/-- An expression in three braces, or with an ampersand. -/
def plainExpression (fuel : Nat) : Scan Tag := fun cs =>
  let three := do
    let rest ← after "\x7b\x7b\x7b".toList cs
    let (trimBefore, rest) := tilde rest
    let (kind, rest) ← expressionInside fuel rest
    finish (.leaf false) kind trimBefore "\x7d\x7d\x7d" rest
  let inner := fun (_ : Unit) => do
    let rest ← after "\x7b\x7b".toList cs
    let (trimBefore, rest) := tilde rest
    let rest ← token "\x7b" rest
    let (kind, rest) ← expressionInside fuel rest
    let rest ← token "\x7d" rest
    finish (.leaf false) kind trimBefore "\x7d\x7d" rest
  let ampersand := fun (_ : Unit) => do
    let rest ← after "\x7b\x7b".toList cs
    let (trimBefore, rest) := tilde rest
    let rest ← token "&" rest
    let (name, rest) ← nameInside fuel rest
    finish (.leaf false) (name.map .value) trimBefore "\x7d\x7d" rest
  (three.orElse inner).orElse ampersand

/-- A tag that starts with a mark after its braces. -/
def marked (shape : Shape) (mark : String) (inside : Scan (Read Kind)) : Scan Tag := fun cs => do
  let rest ← after "\x7b\x7b".toList cs
  let (trimBefore, rest) := tilde rest
  let rest ← mark.toList.foldlM (fun rest c => token (String.singleton c) rest) rest
  let (kind, rest) ← inside rest
  finish shape kind trimBefore "\x7d\x7d" rest

/-- The end of a block. -/
def closing (fuel : Nat) : Scan (Read Kind) := fun cs =>
  (nameInside fuel cs).map fun (name, rest) =>
    (name.map fun
      | .reference reference => .close reference.text
      | .call helper _ _ => .close helper
      | .literal _ => .close "", rest)

/-- A raw block, up to its end. -/
def rawBlock (fuel : Nat) : Scan Tag := fun cs => do
  let open_ := "\x7b\x7b\x7b\x7b".toList
  let rest ← after open_ cs
  let (trimBefore, rest) := tilde rest
  let (call, rest) ← callInside fuel rest
  let (_, rest) := tilde rest
  let rest ← token "\x7d\x7d\x7d\x7d" rest
  let (inside, rest) := textRun 4 (rest.length + 1) (skipBlanks rest)
  let rest ← after open_ rest
  let (trimEnd, rest) := tilde rest
  let rest ← token "/" rest
  let (name, rest) ← closing fuel rest
  let kind := do
    let (call, _) ← call
    match ← name with
    | .close closed =>
      if closed = call.name then
        .ok (Kind.raw call
          (String.ofList (if trimEnd then Text.trimEndChars inside else inside)))
      else .error (.mismatch "helper" call.name closed)
    | kind => .ok kind
  finish (.leaf true) kind trimBefore "\x7d\x7d\x7d\x7d" rest

/-- A tag, from its opening braces on. -/
def scanTag (cs : List Char) : Option (Tag × List Char) :=
  let fuel := 4 * cs.length + 4
  match otherwise fuel cs with
  | some tag => some tag
  | none =>
    let expression := marked (.leaf false) "" (expressionInside fuel)
    let block := marked .openBlock "#" fun cs =>
      (callInside fuel cs).map fun (call, rest) =>
        (call.map fun (call, names) => .openBlock call names, rest)
    let close := marked .close "/" (closing fuel)
    let decorator := marked (.leaf true) "*" fun cs =>
      (callInside fuel cs).map fun (call, rest) => (call.map fun (call, _) => .decorator call, rest)
    let decoratorBlock := marked .openPlain "#*" fun cs =>
      (callInside fuel cs).map fun (call, rest) =>
        (call.map fun (call, _) => .openDecorator call, rest)
    let include_ := marked (.include false) ">" fun cs =>
      (includeInside fuel cs).map fun (call, rest) =>
        (call.map fun (name, params, hash) => .include name params hash, rest)
    let includeBlock := marked (.include true) "#>" fun cs =>
      (includeInside fuel cs).map fun (call, rest) =>
        (call.map fun (name, params, hash) => .openInclude name params hash, rest)
    [expression, plainExpression fuel, block, rawBlock fuel, comment, decorator, decoratorBlock,
      include_, includeBlock, close].findSome? (· cs)

end Scan

end Pipewright.Template
