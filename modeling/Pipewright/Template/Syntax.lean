import Pipewright.Json.Value
import Pipewright.Text.Quoted

set_option autoImplicit false

/-! # Templates

A template is a list of elements: text, expressions, and blocks with templates inside. References
name values in the data; `Reference.text` keeps how a reference was written, for messages. -/

namespace Pipewright.Template

/-- A step of a reference from the current scope. -/
inductive Step where
  /-- To the enclosing scope. -/
  | up
  /-- To the whole data. -/
  | root
  /-- To a member of an object or an item of an array. -/
  | name (name : String)
  deriving DecidableEq, Repr

/-- How a value is named. -/
inductive Reference where
  /-- A variable of a loop, such as `@index`; `level` counts the enclosing scopes passed over. -/
  | variable (level : Nat) (name : String) (text : String)
  /-- A path from the current scope. -/
  | path (steps : List Step) (text : String)
  deriving DecidableEq, Repr

/-- How a reference was written. -/
def Reference.text : Reference → String
  | .variable _ _ text => text
  | .path _ text => text

/-- A parameter of an expression. -/
inductive Param where
  | literal (value : Json)
  | reference (reference : Reference)
  /-- The result of a helper. -/
  | call (helper : String) (params : List Param) (hash : List (String × Param))
  deriving Repr

/-- The names that a block gives to what it iterates over or opens. -/
inductive BlockParam where
  | none
  | one (name : String)
  | two (name other : String)
  deriving DecidableEq, Repr

/-- What an element calls, with which parameters. -/
structure Call where
  name : String
  params : List Param
  hash : List (String × Param)
  deriving Repr

/-- How a partial template is named: as it is written, or by the value of a parameter. -/
inductive PartialName where
  | word (name : String)
  | computed (param : Param)
  deriving Repr

/-- How the lines of a partial template are indented. -/
structure Indent where
  text : Option String
  /-- Whether the first line is indented too. -/
  first : Bool
  deriving DecidableEq, Repr

/-- A part of a template. -/
inductive Element where
  | text (text : String)
  /-- A value, or the helper of this name. -/
  | value (param : Param)
  /-- A helper with parameters. -/
  | helper (call : Call)
  /-- A block, and what stands after its `else`. -/
  | block (call : Call) (blockParam : BlockParam) (body : List Element)
      (inverse : Option (List Element))
  /-- A decorator, with its body if it is a block. -/
  | decorator (call : Call) (body : Option (List Element))
  /-- The template of this name, with a body for it if it is a block. -/
  | include (name : PartialName) (params : List Param) (hash : List (String × Param))
      (indent : Indent) (body : Option (List Element))
  deriving Repr

/-- Why a text is no template. -/
inductive SyntaxFault where
  /-- The text does not follow the grammar. -/
  | invalid
  /-- A block is closed by another name than it was opened with; `what` says what it is. -/
  | mismatch (what opened closed : String)
  /-- A literal that is no JSON value. -/
  | invalidParam (text : String)
  deriving DecidableEq, Repr

/-- The wording of a fault. -/
def SyntaxFault.message : SyntaxFault → String
  | .invalid => "Template error: invalid handlebars syntax"
  | .mismatch what opened closed =>
    "Template error: " ++ what ++ " " ++ Text.quoted opened ++ " was opened, but " ++
      Text.quoted closed ++ " is closing"
  | .invalidParam text => "invalid parameter " ++ Text.quoted text

end Pipewright.Template
