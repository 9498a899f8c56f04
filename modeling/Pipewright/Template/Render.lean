import Pipewright.Template.Helper

set_option autoImplicit false

/-! # Rendering

Rendering a template with data is strict: a reference that names nothing is a fault, also as the
parameter of a block. Null counts as present, and what is not reached is not looked at.

* `Param.eval` gives the operand of a parameter.
* `conditionHolds`, `withPlace` and `iterations` say what the blocks do: `if` and `unless` choose a
  part and stay in the scope; `with` opens its parameter as a scope; `each` opens each item.
* `renderElements` writes a template, `render` a whole template with its data. -/

namespace Pipewright.Template

/-! ## Parameters -/

/-- The parameter that a block cannot do without. -/
def presentParam (helper : BlockHelper) (operands : List Operand) :
    Except RenderFault (Operand × Json) :=
  match operands with
  | [] => .error (.paramRequired helper.name 0)
  | operand :: _ =>
    match operand.value with
    | some value => .ok (operand, value)
    | none => .error (.missing operand.text)

/-- The value of a helper that stands in an expression and has no body. -/
def helperValue (name : String) (operands : List Operand) (hash : List (String × Operand)) :
    Except RenderFault Operand :=
  match Helper.ofName? name with
  | none => .error (.helperNotFound name)
  | some (.value helper) => (helper.apply operands hash).map Operand.ofValue
  | some (.block .raw) => .ok (.ofValue (some (.string "")))
  | some (.block helper) =>
    (presentParam helper operands).map fun _ => .ofValue (some (.string ""))

mutual

/-- The operand of a parameter. -/
def Param.eval (place : Place) : Param → Except RenderFault Operand
  | .literal value => .ok (.ofValue (some value))
  | .reference reference => place.resolve reference
  | .call helper params hash => do
    let operands ← evalParams place params
    let hash ← evalHash place hash
    helperValue helper operands hash

/-- The operands of parameters, in order. -/
def evalParams (place : Place) : List Param → Except RenderFault (List Operand)
  | [] => .ok []
  | param :: rest => do
    let operand ← param.eval place
    return operand :: (← evalParams place rest)

/-- The operands of named parameters, in order. -/
def evalHash (place : Place) : List (String × Param) → Except RenderFault (List (String × Operand))
  | [] => .ok []
  | (name, param) :: rest => do
    let operand ← param.eval place
    return (name, operand) :: (← evalHash place rest)

end

/-! ## Blocks -/

/-- Whether `includeZero` is given as true. -/
def includesZero (hash : List (String × Operand)) : Bool :=
  match hash.find? (·.1 == "includeZero") with
  | some (_, operand) => operand.value = some (.bool true)
  | none => false

/-- A scope at an operand. -/
def Scope.ofOperand (operand : Operand) (value : Json) : Scope :=
  match operand.location with
  | some path => ⟨path, none, [], []⟩
  | none => ⟨[], some value, [], []⟩

/-- What a block's name for an operand stands for. -/
def boundTo (operand : Operand) (value : Json) : Bound :=
  if operand.location.isSome then .here else .value value

namespace Place

/-- The place with a further scope. -/
def enter (place : Place) (scope : Scope) : Place :=
  { place with scopes := scope :: place.scopes }

/-- The place inside `with`: the variables of the enclosing scope stay in force. -/
def withPlace (place : Place) (operand : Operand) (value : Json) (names : BlockParam) : Place :=
  let scope := Scope.ofOperand operand value
  place.enter { scope with
    locals := (place.scopes.head?.map (·.locals)).getD []
    names :=
      match names with
      | .one name => [(name, boundTo operand value)]
      | _ => [] }

end Place

/-- What `each` goes through: the key of each item as a value and as a step, and the item. -/
structure Item where
  key : Json
  step : String
  value : Json
  deriving DecidableEq, Repr

/-- The items of a value: those of an array in order, the members of an object by ascending key;
    any other value has none. -/
def itemsOf : Json → List Item
  | .array items => items.mapIdx fun index value => ⟨.ofNat index, toString index, value⟩
  | .object members => members.map fun (key, value) => ⟨.string key, key, value⟩
  | _ => []

/-- Whether a value is an object. -/
def isObject : Json → Bool
  | .object _ => true
  | _ => false

/-- The scope of one item, `index` being its position among `count`. -/
def itemScope (operand : Operand) (isObject : Bool) (count index : Nat) (item : Item)
    (names : BlockParam) : Scope :=
  let scope :=
    match operand.location with
    | some path => (⟨path ++ [item.step], none, [], []⟩ : Scope)
    | none => ⟨[], some item.value, [], []⟩
  let bound := boundTo operand item.value
  { scope with
    locals :=
      [("first", .bool (index = 0)), ("last", .bool (index + 1 = count)),
          ("index", .ofNat index)] ++
        (if isObject then [("key", item.key)] else [])
    names :=
      match names with
      | .none => []
      | .one name => [(name, bound)]
      | .two name other => [(other, .value item.key), (name, bound)] }

/-- The places of the iterations of `each`, in order. -/
def iterations (place : Place) (operand : Operand) (value : Json) (names : BlockParam) :
    List Place :=
  let items := itemsOf value
  items.mapIdx fun index item =>
    place.enter (itemScope operand (isObject value) items.length index item names)

/-! ## The page -/

/-- What has been written, and the templates that have been defined on the way. -/
structure Page where
  text : String
  partials : List (String × List Element)
  /-- Whether the next text begins a line that is indented. -/
  atLineStart : Bool

/-- A step of rendering. -/
abbrev Render := StateT Page (Except RenderFault)

/-- Puts an indentation after each line break but one at the end. -/
def indentLines (indent : List Char) : List Char → List Char
  | [] => []
  | '\n' :: c :: rest => '\n' :: indent ++ indentLines indent (c :: rest)
  | c :: rest => c :: indentLines indent rest

def isBreak (c : Char) : Bool := c = '\n' || c = '\r'

/-- Writes a text. -/
def writeText (place : Place) (text : String) : Render Unit := do
  if text = "" then return
  let page ← get
  let indented :=
    match place.indent with
    | none => text
    | some indent =>
      let lines := String.ofList (indentLines indent.toList text.toList)
      if page.atLineStart && !(text.toList.head?).any isBreak then indent ++ lines else lines
  set { page with
    text := page.text ++ indented
    atLineStart := (text.toList.getLast?).any isBreak }

/-- The result of a question, or its fault. -/
def settle {α : Type} (result : Except RenderFault α) : Render α := StateT.lift result

/-! ## Elements -/

/-- The name of the main template. -/
def mainName : String := "main.go"

/-- Members of a dictionary with those of another put over them. -/
def overlayContext (base : Json) (hash : List (String × Operand)) : Json :=
  if hash = [] then base
  else
    let members := (base.members?).getD []
    .object (hash.foldl (fun members (name, operand) =>
      Dictionary.insert name operand.valueOrNull members) members)

/-- The place inside an included template: its parameter, or the current scope, becomes its only
    scope. -/
def includePlace (place : Place) (operands : List Operand) (hash : List (String × Operand))
    (indent : Indent) (isMain : Bool) (bodies : List (List Element)) :
    Except RenderFault Place := do
  let base ←
    match operands with
    | operand :: _ => pure operand.value
    | [] => place.current
  return { place with
    scopes := [⟨[], some (overlayContext (base.getD .null) hash), [], []⟩]
    indent := indent.text
    isMain, bodies }

/-- The name that stands for the body given to an included template. -/
def bodyName : String := "@partial-block"

/-- Finds the template of a name: the body, a defined one, the main one, or the body as a
    default. -/
def findTemplate (main : List Element) (place : Place) (partials : List (String × List Element))
    (name : String) (body : Option (List Element)) : Option (List Element × Bool) :=
  let defined :=
    if name = bodyName then place.bodies.head?
    else (partials.find? (·.1 == name)).map (·.2)
  match defined with
  | some template => some (template, false)
  | none => if name = mainName then some (main, true) else body.map fun body => (body, false)

/-- The name under which a decorator defines a template. -/
def definedName (call : Call) (place : Place) : Except RenderFault String := do
  let operands ← evalParams place call.params
  let _ ← evalHash place call.hash
  if call.name ≠ "inline" then throw (.decoratorNotFound call.name)
  match operands with
  | [] => throw (.paramRequired "inline" 0)
  | operand :: _ =>
    match operand.value with
    | some (.string name) => return name
    | _ => throw .textRequired

/-- Defines a template. -/
def defineTemplate (call : Call) (body : Option (List Element)) (place : Place) : Render Unit := do
  let name ← settle (definedName call place)
  match body with
  | none => throw .bodyRequired
  | some body => modify fun page => { page with partials := (name, body) :: page.partials }

/-- Defines the templates that stand in a body. -/
def defineTemplates (place : Place) : List Element → Render Unit
  | [] => return
  | .decorator call body :: rest => do
    defineTemplate call body place
    defineTemplates place rest
  | _ :: rest => defineTemplates place rest

/-- Writes an included template with `visit`. -/
def renderInclude (main : List Element) (visit : List Element → Place → Render Unit)
    (name : PartialName) (params : List Param) (hash : List (String × Param)) (indent : Indent)
    (body : Option (List Element)) (place : Place) : Render Unit := do
  let name ←
    match name with
    | .word name => pure name
    | .computed param => do
      let operand ← settle (param.eval place)
      pure operand.valueOrNull.display
  let operands ← settle (evalParams place params)
  let hash ← settle (evalHash place hash)
  defineTemplates place (body.getD [])
  if place.isMain && name = mainName then throw .includesItself
  match findTemplate main place (← get).partials name body with
  | none => throw (.partialNotFound name)
  | some (template, isMain) =>
    let bodies :=
      if name = bodyName then place.bodies.drop 1
      else
        match body with
        | some body => body :: place.bodies
        | none => place.bodies
    let inner ← settle (includePlace place operands hash indent isMain bodies)
    modify fun page => { page with atLineStart := indent.first }
    visit template inner

/-- Writes what a helper without a body gives. -/
def renderHelper (call : Call) (place : Place) : Render Unit := do
  let operands ← settle (evalParams place call.params)
  let hash ← settle (evalHash place call.hash)
  let operand ← settle (helperValue call.name operands hash)
  writeText place operand.valueOrNull.display

/-- Writes a value, or what the helper of this name gives. -/
def renderValue (param : Param) (place : Place) : Render Unit := do
  let name ←
    match param with
    | .reference reference => pure reference.text
    | _ => do
      let operand ← settle (param.eval place)
      pure operand.valueOrNull.display
  match Helper.ofName? name with
  | some _ => renderHelper ⟨name, [], []⟩ place
  | none =>
    let operand ← settle (param.eval place)
    match operand.value with
    | some value => writeText place value.display
    | none => throw (.missing operand.text)

mutual

/-- Writes an element; included templates are written with `visit`. -/
def renderElement (main : List Element) (visit : List Element → Place → Render Unit) :
    Element → Place → Render Unit
  | .text text, place => writeText place text
  | .value param, place => renderValue param place
  | .helper call, place => renderHelper call place
  | .decorator call body, place => defineTemplate call body place
  | .include name params hash indent body, place =>
    renderInclude main visit name params hash indent body place
  | .block call names body inverse, place => do
    let operands ← settle (evalParams place call.params)
    let hash ← settle (evalHash place call.hash)
    match Helper.ofName? call.name with
    | none => throw (.helperNotFound call.name)
    | some (.value helper) =>
      let result ← settle (helper.apply operands hash)
      writeText place (result.getD .null).display
    | some (.block .raw) => renderElements main visit body place
    | some (.block .if_) =>
      let (_, value) ← settle (presentParam .if_ operands)
      if value.isTruthy (includesZero hash) then renderElements main visit body place
      else renderInverse main visit inverse place
    | some (.block .unless) =>
      let (_, value) ← settle (presentParam .unless operands)
      if value.isTruthy (includesZero hash) then renderInverse main visit inverse place
      else renderElements main visit body place
    | some (.block .with_) =>
      let (operand, value) ← settle (presentParam .with_ operands)
      if value.isTruthy false then
        renderElements main visit body (place.withPlace operand value names)
      else renderInverse main visit inverse place
    | some (.block .each) =>
      let (operand, value) ← settle (presentParam .each operands)
      match iterations place operand value names with
      | [] => renderInverse main visit inverse place
      | places => places.forM fun place => renderElements main visit body place

/-- Writes the part for the opposite case, if there is one. -/
def renderInverse (main : List Element) (visit : List Element → Place → Render Unit) :
    Option (List Element) → Place → Render Unit
  | none, _ => return
  | some elements, place => renderElements main visit elements place

/-- Writes elements in order. -/
def renderElements (main : List Element) (visit : List Element → Place → Render Unit) :
    List Element → Place → Render Unit
  | [], _ => return
  | element :: rest, place => do
    renderElement main visit element place
    renderElements main visit rest place

end

/-- How many templates may be included in each other. -/
def includeLimit : Nat := 500

/-- Writes elements, with at most the given number of templates included in each other. -/
def renderWithin (main : List Element) : Nat → List Element → Place → Render Unit
  | 0 => fun _ _ => throw .nestedTooDeep
  | depth + 1 => renderElements main (renderWithin main depth)

/-- The place of the main template. -/
def Place.start (data : Json) : Place := ⟨data, [.root], none, true, []⟩

/-- The text of a template with its data. -/
def render (template : List Element) (data : Json) : Except RenderFault String :=
  ((renderWithin template includeLimit template (.start data)).run ⟨"", [], false⟩).map
    fun (_, page) => page.text

end Pipewright.Template
