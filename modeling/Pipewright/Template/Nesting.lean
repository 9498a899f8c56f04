import Pipewright.Template.Layout

set_option autoImplicit false

/-! # Nesting

`Template.parse` reads a text as a template: the tags must nest, and then each literal must be a
JSON value and each block be closed by the name it was opened with. -/

namespace Pipewright.Template

/-! ## Whether tags nest -/

/-- An open block: whether a part for the opposite case may still begin. -/
abbrev OpenBlock := Bool

/-- The open blocks after a tag, the innermost first; nothing, if the tag may not stand there. -/
def nest (stack : List OpenBlock) : Scan.Shape → Option (List OpenBlock)
  | .leaf _ | .comment | .include false => some stack
  | .openBlock => some (true :: stack)
  | .openPlain | .include true => some (false :: stack)
  | .chain =>
    match stack with
    | true :: _ => some stack
    | _ => none
  | .otherwise =>
    match stack with
    | true :: rest => some (false :: rest)
    | _ => none
  | .close => stack.tail?

/-- Whether tags nest. -/
def nests : List OpenBlock → List Settled → Bool
  | stack, [] => stack.isEmpty
  | stack, .text _ :: rest => nests stack rest
  | stack, .tag tag _ :: rest =>
    match nest stack tag.shape with
    | some stack => nests stack rest
    | none => false

/-! ## Building elements -/

/-- What an open block will be. -/
inductive Opening where
  /-- A block and, the latest first, what came before it in a chain. -/
  | block (call : Call) (names : BlockParam) (earlier : List (Call × BlockParam × List Element))
      (body : Option (List Element))
  | decorator (call : Call)
  | include (name : PartialName) (params : List Param) (hash : List (String × Param))
      (indent : Indent)

/-- The elements around an open block, the latest first, and the block. -/
structure Open where
  outside : List Element
  opening : Opening

/-- The block of a chain: each is the opposite case of the one before it. -/
def closeChain (call : Call) (names : BlockParam) (body : List Element)
    (inverse : Option (List Element)) : List (Call × BlockParam × List Element) → Element
  | [] => .block call names body inverse
  | (earlierCall, earlierNames, earlierBody) :: rest =>
    closeChain earlierCall earlierNames earlierBody (some [.block call names body inverse]) rest

/-- The name by which a block must be closed. -/
def Opening.name : Opening → String
  | .block call names earlier _ => ((earlier.getLast?).getD (call, names, [])).1.name
  | .decorator call => call.name
  | .include (.word name) .. => name
  | .include (.computed _) .. => ""

/-- What a block is called in messages. -/
def Opening.what : Opening → String
  | .block .. => "helper"
  | _ => "decorator"

/-- The element of a block with the elements inside it. -/
def Opening.close (inside : List Element) : Opening → Element
  | .block call names earlier none => closeChain call names inside none earlier
  | .block call names earlier (some body) => closeChain call names body (some inside) earlier
  | .decorator call => .decorator call (some inside)
  | .include name params hash indent => .include name params hash indent (some inside)

/-- Builds elements from texts and tags that nest. `elements` are those of the innermost open
    block, the latest first. -/
def build : List Settled → List Element → List Open → Scan.Read (List Element)
  | [], elements, _ => .ok elements.reverse
  | .text text :: rest, elements, stack =>
    build rest (if text = "" then elements else .text text :: elements) stack
  | .tag tag indent :: rest, elements, stack => do
    match ← tag.kind with
    | .value param => build rest (.value param :: elements) stack
    | .helper call => build rest (.helper call :: elements) stack
    | .comment => build rest elements stack
    | .decorator call => build rest (.decorator call none :: elements) stack
    | .include name params hash =>
      build rest (.include name params hash indent none :: elements) stack
    | .raw call inside =>
      build rest (.block call .none [.text inside] none :: elements) stack
    | .openBlock call names => build rest [] (⟨elements, .block call names [] none⟩ :: stack)
    | .openDecorator call => build rest [] (⟨elements, .decorator call⟩ :: stack)
    | .openInclude name params hash =>
      build rest [] (⟨elements, .include name params hash indent⟩ :: stack)
    | .otherwise =>
      match stack with
      | ⟨outside, .block call names earlier none⟩ :: below =>
        build rest [] (⟨outside, .block call names earlier (some elements.reverse)⟩ :: below)
      | _ => .error .invalid
    | .chain nextCall nextNames =>
      match stack with
      | ⟨outside, .block call names earlier none⟩ :: below =>
        build rest []
          (⟨outside, .block nextCall nextNames ((call, names, elements.reverse) :: earlier) none⟩ ::
            below)
      | _ => .error .invalid
    | .close name =>
      match stack with
      | [] => .error .invalid
      | ⟨outside, opening⟩ :: below =>
        if opening.name = name then
          build rest (opening.close elements.reverse :: outside) below
        else .error (.mismatch opening.what opening.name name)

/-- The template of a text. -/
def parse (text : String) : Except SyntaxFault (List Element) :=
  match pieces text with
  | none => .error .invalid
  | some pieces =>
    let settled := layOut ⟨false, false⟩ pieces
    if nests [] settled then build settled [] [] else .error .invalid

end Pipewright.Template
