import Pipewright.Template.Syntax

set_option autoImplicit false

/-! # Scopes

While a template is rendered, references are looked up from the current scope. A scope stands
either at a place in the data, given by its path from the root, or at a value of its own. Blocks
put a scope in front of the enclosing ones, with variables and with names for its place.

`Place.resolve` finds what a reference names, together with the place in the data where it was
found. -/

namespace Pipewright.Template

/-- Why a template cannot be rendered. -/
inductive RenderFault where
  /-- A reference names nothing; the text is how it was written, if it was written. -/
  | missing (text : Option String)
  | helperNotFound (name : String)
  | decoratorNotFound (name : String)
  | partialNotFound (name : String)
  | paramRequired (helper : String) (index : Nat)
  /-- An array was asked for a member by name. -/
  | invalidIndex (name : String)
  | includesItself
  | bodyRequired
  | textRequired
  | invalidLogLevel (level : String)
  | nestedTooDeep
  deriving DecidableEq, Repr

/-- The wording of a fault. -/
def RenderFault.message : RenderFault → String
  | .missing none => "Failed to access variable in strict mode None"
  | .missing (some text) =>
    "Failed to access variable in strict mode Some(" ++ Text.quoted text ++ ")"
  | .helperNotFound name => "Helper not found " ++ name
  | .decoratorNotFound name => "Decorator not found " ++ name
  | .partialNotFound name => "Partial not found " ++ name
  | .paramRequired helper index =>
    "Helper/Decorator " ++ helper ++ " param at index " ++ toString index ++
      " required but not found"
  | .invalidIndex name => "Cannot access array/vector with string index, " ++ name
  | .includesItself => "Can not include current template in partial"
  | .bodyRequired => "Block content required"
  | .textRequired => "Invalid param type, String expected"
  | .invalidLogLevel level => "Invalid logging level: " ++ level
  | .nestedTooDeep => "Templates are nested too deep"

/-- What a name of a block stands for: the place of its scope, or a value. -/
inductive Bound where
  | here
  | value (value : Json)
  deriving DecidableEq, Repr

/-- A place from which references are looked up. -/
structure Scope where
  /-- The path of the place from the root of the data. -/
  path : List String
  /-- The value of the scope, if it does not stand at a place in the data. -/
  value : Option Json
  /-- The names that the block gives. -/
  names : List (String × Bound)
  /-- The variables of the loop. -/
  locals : List (String × Json)
  deriving DecidableEq, Repr

/-- The scope of the whole data. -/
def Scope.root : Scope := ⟨[], none, [], []⟩

/-- Where rendering stands: the data, and the scopes from the innermost to the outermost. -/
structure Place where
  data : Json
  scopes : List Scope
  /-- What is put before each line. -/
  indent : Option String
  /-- Whether this is the main template, and not one that it includes. -/
  isMain : Bool
  /-- The bodies given to the templates that are being included, the innermost first. -/
  bodies : List (List Element)

/-- What an expression gives: how it was written if it is a reference, its value if there is one,
    and the place of the value in the data. -/
structure Operand where
  text : Option String
  value : Option Json
  location : Option (List String)
  deriving DecidableEq, Repr

namespace Operand

/-- A value that stands at no place in the data. -/
def ofValue (value : Option Json) : Operand := ⟨none, value, none⟩

/-- The value, or null where there is none. -/
def valueOrNull (operand : Operand) : Json := operand.value.getD .null

end Operand

/-- The index that a name stands for. -/
def index? (name : String) : Option Nat :=
  let digits :=
    match name.toList with
    | '+' :: rest => rest
    | cs => cs
  if digits ≠ [] ∧ digits.all Char.isDigit then
    let n := digits.foldl (fun n c => n * 10 + (c.toNat - 48)) 0
    if n < twoPow 64 then some n else none
  else none

/-- One step into a value. -/
def select (name : String) : Option Json → Except RenderFault (Option Json)
  | some (.array items) =>
    match index? name with
    | some index => .ok items[index]?
    | none => .error (.invalidIndex name)
  | some (.object members) => .ok (Dictionary.get? name members)
  | _ => .ok none

/-- Steps into a value. -/
def follow : List String → Option Json → Except RenderFault (Option Json)
  | [], value => .ok value
  | name :: rest, value => do
    let inner ← select name value
    follow rest inner

/-- The names among steps. -/
def stepNames (steps : List Step) : List String :=
  steps.filterMap fun
    | .name name => some name
    | _ => none

/-- The number of steps up at the front. -/
def ascent : List Step → Nat
  | .up :: rest => ascent rest + 1
  | _ => 0

/-- The first name of a path that starts with it, after steps up. -/
def firstName? : List Step → Option String
  | .up :: rest => firstName? rest
  | .name name :: _ => some name
  | _ => none

/-- What the blocks call by this name, from the innermost on, with the path of the scope. -/
def bound? (name : String) : List Scope → Option (Bound × List String)
  | [] => none
  | scope :: rest =>
    match scope.names.find? (·.1 == name) with
    | some (_, bound) => some (bound, scope.path)
    | none => bound? name rest

namespace Place

/-- What stands at a path of the data. -/
def atPath (place : Place) (text : String) (path : List String) : Except RenderFault Operand := do
  let value ← follow path (some place.data)
  return ⟨some text, value, if value.isSome then some path else none⟩

/-- What names lead to from a value. -/
def inValue (value : Json) (text : String) (names : List String) : Except RenderFault Operand := do
  let value ← follow names (some value)
  return ⟨some text, value, none⟩

/-- What names lead to from a scope. -/
def fromScope (place : Place) (scope : Option Scope) (text : String) (names : List String) :
    Except RenderFault Operand :=
  match scope with
  | none => place.atPath text names
  | some scope =>
    match scope.value with
    | some value => inValue value text names
    | none => place.atPath text (scope.path ++ names)

/-- What a reference names. A name given by a block comes first; steps up lead to an enclosing
    scope, or past the outermost one to the current scope. -/
def resolve (place : Place) : Reference → Except RenderFault Operand
  | .variable level name text =>
    let scope := place.scopes[level]?
    let value := scope.bind fun scope => (scope.locals.find? (·.1 == name)).map (·.2)
    .ok ⟨some text, value, none⟩
  | .path steps text =>
    match (firstName? steps).bind fun name => bound? name place.scopes with
    | some (.value value, _) => inValue value text (stepNames (steps.drop 1))
    | some (.here, path) => place.atPath text (path ++ stepNames (steps.drop 1))
    | none =>
      let names := stepNames steps
      match ascent steps with
      | 0 =>
        if steps.head? = some .root then place.atPath text names
        else place.fromScope place.scopes.head? text names
      | level => place.fromScope ((place.scopes[level]?).or place.scopes.head?) text names

/-- The value of the current scope. -/
def current (place : Place) : Except RenderFault (Option Json) :=
  (place.fromScope place.scopes.head? "" []).map (·.value)

end Place

end Pipewright.Template
