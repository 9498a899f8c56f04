import Pipewright.Proofs.Template.Iteration

set_option autoImplicit false

/-! # Rendering on a stack of scopes

A template can also be rendered with one stack of scopes that the blocks change in place: `with`
pushes a scope and takes it off again, `each` turns the one scope that it has pushed to one item
after the other, and the conditionals leave the stack alone. A scope is taken off however its block
has ended; what fails undoes nothing else. `OnStack.elements` renders so, and notes on the way which
elements it comes to, in which place, and what they stand in (`Enclosure`).

It gives the same text and the same faults as rendering with a place for each body, and **every
element leaves the stack as it was before** (`elements_mirrors`). What holds of the place and the
enclosures of a block and is handed down to its branches (`HandedDown`) holds wherever rendering
comes. -/

namespace Pipewright.Template

/-! ## What elements stand in -/

/-- A part of a block that an element stands in. -/
inductive Enclosure where
  /-- A part that is rendered in the place of the block: of a conditional, or behind `else`. -/
  | branch
  /-- The body of `with`, for this value. -/
  | object (value : Json)
  /-- The body of `each`, for an item of this value. -/
  | iteration (value : Json) (index : Nat) (item : Item)
  deriving DecidableEq, Repr

/-- An element that rendering has come to, the place that it has come to it in, and the parts that
    it stands in, the innermost first. -/
structure Visit where
  element : Element
  place : Place
  enclosures : List Enclosure

/-- Where rendering stands; its place changes on the way. -/
structure Stage where
  place : Place
  page : Page
  visits : List Visit

/-- A step of rendering on a stack. -/
abbrev OnStack := ExceptT RenderFault (StateM Stage)

/-! ## Scopes that change -/

/-- Sets a variable, where it stands already or behind the others. -/
def setLocal (name : String) (value : Json) : List (String × Json) → List (String × Json)
  | [] => [(name, value)]
  | (other, old) :: rest =>
    if other = name then (name, value) :: rest else (other, old) :: setLocal name value rest

/-- The scope that `with` opens: it takes the variables of the scope that it is put on. -/
def Scope.openedOn (below : List Scope) (operand : Operand) (value : Json) (names : BlockParam) :
    Scope :=
  let scope := Scope.ofOperand operand value
  { scope with
    locals := (below.head?.map (·.locals)).getD scope.locals
    names :=
      match names with
      | .one name => [(name, boundTo operand value)]
      | _ => scope.names }

/-- The scope of `each` turned to an item; all else in it stays. -/
def Scope.turnedTo (operand : Operand) (isObject : Bool) (count index : Nat) (item : Item)
    (names : BlockParam) (scope : Scope) : Scope :=
  let bound := boundTo operand item.value
  let locals := setLocal "index" (.ofNat index)
    (setLocal "last" (.bool (index + 1 = count))
      (setLocal "first" (.bool (index = 0)) scope.locals))
  { path := (operand.location.map (· ++ [item.step])).getD scope.path
    value := if operand.location.isSome then scope.value else some item.value
    locals := if isObject then setLocal "key" item.key locals else locals
    names :=
      match names with
      | .none => scope.names
      | .one name => [(name, bound)]
      | .two name other => [(other, .value item.key), (name, bound)] }

namespace OnStack

variable {α : Type}

/-- What a step gives on a stage, and the stage that it leaves. -/
def runOn (step : OnStack α) (stage : Stage) : Except RenderFault α × Stage := step.run.run stage

/-- Does a step of rendering in the place where the stage stands. -/
def perform (step : Place → Render α) : OnStack α := do
  let stage ← get
  match (step stage.place).run stage.page with
  | .ok (a, page) =>
    set { stage with page }
    return a
  | .error fault => throw fault

/-- Asks a question in the place where the stage stands. -/
def ask (question : Place → Except RenderFault α) : OnStack α :=
  perform fun place => settle (question place)

/-- Notes that rendering has come to an element. -/
def note (element : Element) (enclosures : List Enclosure) : OnStack Unit :=
  modify fun stage =>
    { stage with visits := stage.visits ++ [⟨element, stage.place, enclosures⟩] }

/-- Changes the scopes. -/
def change (scopes : List Scope → List Scope) : OnStack Unit :=
  modify fun stage =>
    { stage with place := { stage.place with scopes := scopes stage.place.scopes } }

/-- Takes the innermost scope off. -/
def pop : OnStack Unit := change List.tail

/-- Does a step on one more scope, which is taken off however the step ends. -/
def within (scope : List Scope → Scope) (step : OnStack Unit) : OnStack Unit := do
  change fun scopes => scope scopes :: scopes
  try step
  catch fault =>
    pop
    throw fault
  pop

section Elements

variable (main : List Element) (visit : List Element → Place → Render Unit)

mutual

/-- Renders an element that stands in these parts. -/
def element (enclosures : List Enclosure) : Element → OnStack Unit
  | .block call names body inverse => do
    note (.block call names body inverse) enclosures
    let operands ← ask fun place => evalParams place call.params
    let hash ← ask fun place => evalHash place call.hash
    match Helper.ofName? call.name with
    | none => throw (.helperNotFound call.name)
    | some (.value helper) =>
      let result ← ask fun _ => helper.apply operands hash
      perform fun place => writeText place (result.getD .null).display
    | some (.block .raw) => elements (.branch :: enclosures) body
    | some (.block .if_) =>
      let (_, value) ← ask fun _ => presentParam .if_ operands
      if value.isTruthy (includesZero hash) then elements (.branch :: enclosures) body
      else otherwise (.branch :: enclosures) inverse
    | some (.block .unless) =>
      let (_, value) ← ask fun _ => presentParam .unless operands
      if value.isTruthy (includesZero hash) then otherwise (.branch :: enclosures) inverse
      else elements (.branch :: enclosures) body
    | some (.block .with_) =>
      let (operand, value) ← ask fun _ => presentParam .with_ operands
      if value.isTruthy false then
        within (fun below => .openedOn below operand value names)
          (elements (.object value :: enclosures) body)
      else otherwise (.branch :: enclosures) inverse
    | some (.block .each) =>
      let (operand, value) ← ask fun _ => presentParam .each operands
      let items := itemsOf value
      if items = [] then otherwise (.branch :: enclosures) inverse
      else
        within (fun _ => .ofOperand operand value)
          (items.zipIdx.forM fun (item, index) => do
            change (List.modifyHead
              (Scope.turnedTo operand (isObject value) items.length index item names))
            elements (.iteration value index item :: enclosures) body)
  | other => do
    note other enclosures
    perform (renderElement main visit other)

/-- Renders the part for the opposite case, if there is one. -/
def otherwise (enclosures : List Enclosure) : Option (List Element) → OnStack Unit
  | none => return
  | some inverse => elements enclosures inverse

/-- Renders elements in order. -/
def elements (enclosures : List Enclosure) : List Element → OnStack Unit
  | [] => return
  | first :: rest => do
    element enclosures first
    elements enclosures rest

end

end Elements

/-! ## Running steps -/

section Steps

variable {β : Type}

theorem runOn_bind (step : OnStack α) (next : α → OnStack β) (stage : Stage) :
    (step >>= next).runOn stage =
      match step.runOn stage with
      | (.ok a, after) => (next a).runOn after
      | (.error fault, after) => (.error fault, after) := by
  unfold runOn
  simp only [ExceptT.run_bind, StateT.run_bind]
  rcases h : step.run.run stage with ⟨_ | a, after⟩ <;> simp <;> rfl

theorem runOn_perform (step : Place → Render α) (stage : Stage) :
    (perform step).runOn stage =
      match (step stage.place).run stage.page with
      | .ok (a, page) => (.ok a, { stage with page })
      | .error fault => (.error fault, stage) := by
  unfold perform
  change runOn (match (step stage.place).run stage.page with
    | .ok (a, page) => (do set { stage with page }; return a)
    | .error fault => throw fault) stage = _
  cases (step stage.place).run stage.page <;> rfl

theorem runOn_tryCatch (step : OnStack α) (handle : RenderFault → OnStack α) (stage : Stage) :
    (tryCatch step handle).runOn stage =
      match step.runOn stage with
      | (.ok a, after) => (.ok a, after)
      | (.error fault, after) => (handle fault).runOn after := by
  change runOn (ExceptT.tryCatch step handle) stage = _
  unfold runOn ExceptT.tryCatch
  simp only [ExceptT.run_mk, StateT.run_bind]
  change (step.run.run stage >>= _ : Id _) = _
  rcases step.run.run stage with ⟨_ | a, after⟩ <;> rfl

/-- The scope is taken off whether the step succeeds or fails. -/
theorem runOn_within (scope : List Scope → Scope) (step : OnStack Unit) (stage : Stage) :
    (within scope step).runOn stage =
      let found := step.runOn { stage with place := stage.place.enter (scope stage.place.scopes) }
      (found.1, { found.2 with
        place := { found.2.place with scopes := found.2.place.scopes.tail } }) := by
  unfold within
  rw [runOn_bind]
  have hpush : (change fun scopes => scope scopes :: scopes).runOn stage =
      (.ok (), { stage with place := stage.place.enter (scope stage.place.scopes) }) := rfl
  rw [hpush]
  dsimp only
  rw [runOn_bind, runOn_tryCatch]
  rcases step.runOn { stage with place := stage.place.enter (scope stage.place.scopes) } with
    ⟨fault | ⟨⟩, after⟩
  · rfl
  · rfl

end Steps

end OnStack

/-! ## Steps that mirror rendering -/

section Mirrors

variable {α β : Type} {good : Visit → Prop} {start middle place : Place} {finish : Place → Prop}

/-- From this place on, the step gives what rendering gives and writes the same page, comes to
    nothing but good visits, and ends in a place of this kind, also where it fails. -/
def Mirrors (good : Visit → Prop) (start : Place) (finish : Place → Prop) (step : OnStack α)
    (render : Render α) : Prop :=
  ∀ page visits, ∃ result last after more,
    step.runOn ⟨start, page, visits⟩ = (result, ⟨last, after, visits ++ more⟩) ∧
      (result.map fun a => (a, after)) = render.run page ∧ finish last ∧
      ∀ visit ∈ more, good visit

theorem mirrors_pure (a : α) (h : finish start) : Mirrors good start finish (pure a) (pure a) :=
  fun page visits => ⟨.ok a, start, page, [], by rw [List.append_nil]; rfl, rfl, h, nofun⟩

theorem mirrors_throw (fault : RenderFault) (h : finish start) :
    Mirrors good start finish (throw fault : OnStack α) (throw fault) :=
  fun page visits => ⟨.error fault, start, page, [], by rw [List.append_nil]; rfl, rfl, h, nofun⟩

theorem Mirrors.mono {other : Place → Prop} {step : OnStack α} {render : Render α}
    (h : Mirrors good start finish step render) (hother : ∀ last, finish last → other last) :
    Mirrors good start other step render := by
  intro page visits
  obtain ⟨result, last, after, more, hrun, hrender, hfinish, hmore⟩ := h page visits
  exact ⟨result, last, after, more, hrun, hrender, hother last hfinish, hmore⟩

theorem Mirrors.bind {first : OnStack α} {next : α → OnStack β} {render : Render α}
    {later : α → Render β} (hfirst : Mirrors good start (· = middle) first render)
    (hmiddle : finish middle)
    (hnext : ∀ a page after, render.run page = .ok (a, after) →
      Mirrors good middle finish (next a) (later a)) :
    Mirrors good start finish (first >>= next) (render >>= later) := by
  intro page visits
  obtain ⟨result, last, after, more, hrun, hrender, rfl, hmore⟩ := hfirst page visits
  have hlater : (render >>= later).run page =
      (render.run page >>= fun found => (later found.1).run found.2) := rfl
  rw [OnStack.runOn_bind, hrun, hlater, ← hrender]
  cases result with
  | error fault => exact ⟨.error fault, last, after, more, rfl, rfl, hmiddle, hmore⟩
  | ok a =>
    obtain ⟨result, final, written, others, hrest, hsame, hfinish, hothers⟩ :=
      hnext a page after hrender.symm after (visits ++ more)
    refine ⟨result, final, written, more ++ others, ?_, hsame, hfinish, ?_⟩
    · rw [← List.append_assoc]
      exact hrest
    · rw [List.forall_mem_append]
      exact ⟨hmore, hothers⟩

theorem mirrors_perform (step : Place → Render α) (h : finish start) :
    Mirrors good start finish (OnStack.perform step) (step start) := by
  intro page visits
  rw [OnStack.runOn_perform]
  dsimp only
  cases hrun : (step start).run page with
  | error fault => exact ⟨.error fault, start, page, [], by rw [List.append_nil], rfl, h, nofun⟩
  | ok found => exact ⟨.ok found.1, start, found.2, [], by rw [List.append_nil], rfl, h, nofun⟩

/-- A question is answered in the place where the step stands. -/
theorem Mirrors.ask (question : Place → Except RenderFault α) {next : α → OnStack β}
    {later : α → Render β} (hstart : finish start)
    (hnext : ∀ a, question start = .ok a → Mirrors good start finish (next a) (later a)) :
    Mirrors good start finish (OnStack.ask question >>= next)
      (settle (question start) >>= later) := by
  have hask : Mirrors good start (· = start) (OnStack.ask question) (settle (question start)) :=
    mirrors_perform (fun place => settle (question place)) rfl
  refine hask.bind hstart fun a page after hrun => hnext a ?_
  cases hquestion : question start with
  | error fault =>
    rw [hquestion] at hrun
    cases hrun
  | ok b =>
    rw [hquestion] at hrun
    cases hrun
    rfl

/-- Noting a good visit changes nothing else. -/
theorem Mirrors.note {element : Element} {enclosures : List Enclosure} {step : OnStack α}
    {render : Render α} (hgood : good ⟨element, start, enclosures⟩)
    (h : Mirrors good start finish step render) :
    Mirrors good start finish (OnStack.note element enclosures >>= fun _ => step) render := by
  intro page visits
  obtain ⟨result, last, after, more, hrun, hrender, hlast, hmore⟩ :=
    h page (visits ++ [⟨element, start, enclosures⟩])
  refine ⟨result, last, after, ⟨element, start, enclosures⟩ :: more, ?_, hrender, hlast, ?_⟩
  · rw [List.append_cons]
    exact hrun
  · exact List.forall_mem_cons.2 ⟨hgood, hmore⟩

/-- A step on one more scope comes back to the place below. -/
theorem Mirrors.within {scope : List Scope → Scope} {step : OnStack Unit} {render : Render Unit}
    (h : Mirrors good (place.enter (scope place.scopes)) (fun last => ∃ top, last = place.enter top)
      step render) : Mirrors good place (· = place) (OnStack.within scope step) render := by
  intro page visits
  obtain ⟨result, _, after, more, hrun, hrender, ⟨top, rfl⟩, hmore⟩ := h page visits
  refine ⟨result, place, after, more, ?_, hrender, rfl, hmore⟩
  rw [OnStack.runOn_within, hrun]
  rfl

end Mirrors

/-! ## The scopes of blocks -/

/-- The operand is located where its value is. -/
def Operand.StandsAt (operand : Operand) (data value : Json) : Prop :=
  ∀ path, operand.location = some path → data.at? path = some value

theorem standsAt_of_presentParam {place : Place} {params : List Param} {operands : List Operand}
    {helper : BlockHelper} {operand : Operand} {value : Json}
    (hparams : evalParams place params = .ok operands)
    (hpresent : presentParam helper operands = .ok (operand, value)) :
    operand.StandsAt place.data value := by
  obtain ⟨hhead, hvalue⟩ := presentParam_eq_ok_iff.mp hpresent
  have halike := (Place.Alike.refl place).evalParams params
  rw [hparams] at halike
  cases halike with
  | ok halike =>
    cases halike with
    | nil => cases hhead
    | cons hfirst _ =>
      cases hhead
      exact (hfirst.located_at hvalue).1

/-- The place inside `each` for an item of its value. -/
abbrev Place.atItem (place : Place) (operand : Operand) (value : Json) (names : BlockParam)
    (index : Nat) (item : Item) : Place :=
  place.enter (itemScope operand (isObject value) (itemsOf value).length index item names)

theorem iterations_eq_map (place : Place) (operand : Operand) (value : Json) (names : BlockParam) :
    iterations place operand value names = (itemsOf value).zipIdx.map fun (item, index) =>
      place.atItem operand value names index item :=
  List.mapIdx_eq_zipIdx_map

/-- What `each` renders, item by item. -/
theorem renderIterations_eq (main : List Element) (visit : List Element → Place → Render Unit)
    (body : List Element) (inverse : Option (List Element)) (place : Place) (operand : Operand)
    (value : Json) (names : BlockParam) :
    (match iterations place operand value names with
    | [] => renderInverse main visit inverse place
    | places => places.forM fun place => renderElements main visit body place) =
      if itemsOf value = [] then renderInverse main visit inverse place
      else (itemsOf value).zipIdx.forM fun (item, index) =>
        renderElements main visit body (place.atItem operand value names index item) := by
  rw [iterations_eq_map]
  cases hitems : itemsOf value with
  | nil => rfl
  | cons item rest =>
    rw [if_neg (List.cons_ne_nil item rest)]
    exact List.forM_map ..

theorem withPlace_eq_enter (place : Place) (operand : Operand) (value : Json)
    (names : BlockParam) :
    place.withPlace operand value names =
      place.enter (.openedOn place.scopes operand value names) := by
  unfold Place.withPlace Scope.openedOn Scope.ofOperand
  cases operand.location <;> cases names <;> rfl

/-- A scope of `each` on its way: the one that it has pushed, or that of one of its items. -/
inductive Scope.Turns (operand : Operand) (value : Json) (names : BlockParam) : Scope → Prop
  | pushed : Turns operand value names (.ofOperand operand value)
  | turned (index : Nat) (item : Item) : Turns operand value names
      (itemScope operand (isObject value) (itemsOf value).length index item names)

section Turns

variable {operand : Operand} {value : Json} {names : BlockParam}

/-- Turning leaves nothing of the item before. -/
theorem Scope.Turns.turnedTo {scope : Scope} (h : scope.Turns operand value names) (index : Nat)
    (item : Item) :
    scope.turnedTo operand (isObject value) (itemsOf value).length index item names =
      itemScope operand (isObject value) (itemsOf value).length index item names := by
  cases h with
  | pushed =>
    unfold Scope.turnedTo itemScope Scope.ofOperand
    cases operand.location <;> cases isObject value <;> cases names <;> rfl
  | turned =>
    unfold Scope.turnedTo itemScope
    cases operand.location <;> cases isObject value <;> cases names <;> rfl

/-- If the steps for the items mirror what is rendered in the places of the items, turning the one
    scope from item to item mirrors rendering them all. -/
theorem Scope.Turns.mirrors {good : Visit → Prop} {place : Place} {step : Item × Nat → OnStack Unit}
    {render : Place → Render Unit} {pairs : List (Item × Nat)}
    (hstep : ∀ pair ∈ pairs, Mirrors good (place.atItem operand value names pair.2 pair.1)
      (· = place.atItem operand value names pair.2 pair.1) (step pair)
      (render (place.atItem operand value names pair.2 pair.1)))
    {scope : Scope} (hscope : scope.Turns operand value names) :
    Mirrors good (place.enter scope) (fun last => ∃ top, last = place.enter top)
      (pairs.forM fun pair => do
        OnStack.change (List.modifyHead
          (Scope.turnedTo operand (isObject value) (itemsOf value).length pair.2 pair.1 names))
        step pair)
      (pairs.forM fun pair => render (place.atItem operand value names pair.2 pair.1)) := by
  induction pairs generalizing scope with
  | nil => exact mirrors_pure () ⟨scope, rfl⟩
  | cons pair rest ih =>
    rw [List.forall_mem_cons] at hstep
    obtain ⟨item, index⟩ := pair
    have hfirst : Mirrors good (place.enter scope) (· = place.atItem operand value names index item)
        (do
          OnStack.change (List.modifyHead
            (Scope.turnedTo operand (isObject value) (itemsOf value).length index item names))
          step (item, index))
        (render (place.atItem operand value names index item)) := by
      intro page visits
      obtain ⟨result, last, after, more, hrun, hrest⟩ := hstep.1 page visits
      refine ⟨result, last, after, more, ?_, hrest⟩
      rw [Place.atItem, ← hscope.turnedTo index item] at hrun
      exact hrun
    exact hfirst.bind ⟨_, rfl⟩ fun _ _ _ _ => ih hstep.2 (.turned index item)

end Turns

/-! ## Rendering on a stack -/

/-- What holds of the parts that a block stands in and of its place holds also of the parts of the
    block, in the places that they are rendered in. -/
structure HandedDown (Good : List Enclosure → Place → Prop) : Prop where
  branch : ∀ {enclosures place}, Good enclosures place → Good (.branch :: enclosures) place
  object : ∀ {enclosures place operand value}, Good enclosures place →
    operand.StandsAt place.data value → ∀ names,
    Good (.object value :: enclosures) (place.withPlace operand value names)
  iteration : ∀ {enclosures place operand value index item}, Good enclosures place →
    operand.StandsAt place.data value → (itemsOf value)[index]? = some item → ∀ names,
    Good (.iteration value index item :: enclosures) (place.atItem operand value names index item)

/-- In this place the step mirrors the rendering, comes only to what is good, and comes back. -/
abbrev MirrorsIn (Good : List Enclosure → Place → Prop) (place : Place) (step : OnStack Unit)
    (render : Render Unit) : Prop :=
  Mirrors (fun visit => Good visit.enclosures visit.place) place (· = place) step render

section Elements

variable {Good : List Enclosure → Place → Prop} {main : List Element}
  {visit : List Element → Place → Render Unit}

/-- A block mirrors the rendering if its parts do so wherever they are good. -/
theorem block_mirrors (hgood : HandedDown Good) (call : Call) (names : BlockParam)
    {body : List Element} {inverse : Option (List Element)}
    (hbody : ∀ {enclosures place}, Good enclosures place → MirrorsIn Good place
      (OnStack.elements main visit enclosures body) (renderElements main visit body place))
    (hinverse : ∀ {enclosures place}, Good enclosures place → MirrorsIn Good place
      (OnStack.otherwise main visit enclosures inverse) (renderInverse main visit inverse place))
    {enclosures : List Enclosure} {place : Place} (h : Good enclosures place) :
    MirrorsIn Good place (OnStack.element main visit enclosures (.block call names body inverse))
      (renderElement main visit (.block call names body inverse) place) := by
  have hbranch : Good (.branch :: enclosures) place := hgood.branch h
  unfold OnStack.element renderElement
  refine Mirrors.note h ?_
  refine Mirrors.ask (fun place => evalParams place call.params) rfl fun operands hparams => ?_
  refine Mirrors.ask (fun place => evalHash place call.hash) rfl fun hash _ => ?_
  cases Helper.ofName? call.name with
  | none => exact mirrors_throw _ rfl
  | some helper =>
    cases helper with
    | value helper =>
      refine Mirrors.ask (fun _ => helper.apply operands hash) rfl fun result _ => ?_
      exact mirrors_perform (fun place => writeText place (result.getD .null).display) rfl
    | block helper =>
      cases helper with
      | raw => exact hbody hbranch
      | if_ =>
        refine Mirrors.ask (fun _ => presentParam .if_ operands) rfl fun ⟨_, value⟩ _ => ?_
        dsimp only
        split
        · exact hbody hbranch
        · exact hinverse hbranch
      | «unless» =>
        refine Mirrors.ask (fun _ => presentParam .unless operands) rfl fun ⟨_, value⟩ _ => ?_
        dsimp only
        split
        · exact hinverse hbranch
        · exact hbody hbranch
      | with_ =>
        refine Mirrors.ask (fun _ => presentParam .with_ operands) rfl
          fun ⟨operand, value⟩ hpresent => ?_
        have hstands := standsAt_of_presentParam hparams hpresent
        dsimp only
        split
        · refine Mirrors.within ?_
          rw [← withPlace_eq_enter]
          exact (hbody (hgood.object h hstands names)).mono
            fun last hlast => ⟨_, hlast.trans (withPlace_eq_enter ..)⟩
        · exact hinverse hbranch
      | each =>
        refine Mirrors.ask (fun _ => presentParam .each operands) rfl
          fun ⟨operand, value⟩ hpresent => ?_
        have hstands := standsAt_of_presentParam hparams hpresent
        dsimp only
        refine (renderIterations_eq main visit body inverse place operand value names).symm.subst
          (motive := Mirrors _ place _ _) ?_
        split
        · exact hinverse hbranch
        · refine Mirrors.within (Scope.Turns.mirrors (fun (item, index) hitem => ?_) .pushed)
          have hat : (itemsOf value)[index]? = some item := List.mem_zipIdx_iff_getElem?.1 hitem
          exact hbody (hgood.iteration h hstands hat names)

-- The induction is on the elements; what is good around a block is so in each part of it.
mutual

theorem element_mirrors (hgood : HandedDown Good) (element : Element)
    {enclosures : List Enclosure} {place : Place} (h : Good enclosures place) :
    MirrorsIn Good place (OnStack.element main visit enclosures element)
      (renderElement main visit element place) := by
  match element with
  | .block call names body inverse =>
    exact block_mirrors hgood call names (elements_mirrors hgood body)
      (otherwise_mirrors hgood inverse) h
  | .text _ | .value _ | .helper _ | .decorator .. | .include .. =>
    unfold OnStack.element
    exact Mirrors.note h (mirrors_perform _ rfl)

theorem otherwise_mirrors (hgood : HandedDown Good) (inverse : Option (List Element))
    {enclosures : List Enclosure} {place : Place} (h : Good enclosures place) :
    MirrorsIn Good place (OnStack.otherwise main visit enclosures inverse)
      (renderInverse main visit inverse place) := by
  match inverse with
  | none =>
    unfold OnStack.otherwise renderInverse
    exact mirrors_pure () rfl
  | some elements =>
    unfold OnStack.otherwise renderInverse
    exact elements_mirrors hgood elements h

/-- **Rendering on a stack mirrors rendering in places**: it gives the same and writes the same,
    comes only to what holds of parts and places where it is handed down, and leaves the stack as
    it was. -/
theorem elements_mirrors (hgood : HandedDown Good) (elements : List Element)
    {enclosures : List Enclosure} {place : Place} (h : Good enclosures place) :
    MirrorsIn Good place (OnStack.elements main visit enclosures elements)
      (renderElements main visit elements place) := by
  match elements with
  | [] =>
    unfold OnStack.elements renderElements
    exact mirrors_pure () rfl
  | first :: rest =>
    unfold OnStack.elements renderElements
    exact (element_mirrors hgood first h).bind rfl fun _ _ _ _ => elements_mirrors hgood rest h

end

/-- Every element leaves the place as it was, however it ends. -/
theorem element_place (main : List Element) (visit : List Element → Place → Render Unit)
    (enclosures : List Enclosure) (element : Element) (stage : Stage) :
    ((OnStack.element main visit enclosures element).runOn stage).2.place = stage.place := by
  have hgood : HandedDown fun _ _ => True :=
    ⟨fun _ => trivial, fun _ _ _ => trivial, fun _ _ _ _ => trivial⟩
  have hmirrors : MirrorsIn (fun _ _ => True) stage.place
      (OnStack.element main visit enclosures element)
      (renderElement main visit element stage.place) :=
    element_mirrors hgood element trivial
  obtain ⟨result, last, after, more, hrun, -, hlast, -⟩ := hmirrors stage.page stage.visits
  rw [hrun]
  exact hlast

end Elements

end Pipewright.Template
