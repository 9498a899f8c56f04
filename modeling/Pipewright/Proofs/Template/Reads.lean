import Pipewright.Proofs.Json.Reading
import Pipewright.Proofs.Template.Strict

set_option autoImplicit false

/-! # What rendering reads

Rendering looks up one reference after the other until it meets a fault. `reads` lists these lookups
for any template, in their order; a template that includes another one, or defines one, is taken to
look the whole data up.

**Data that agree off a way give the same text and the same faults as long as no lookup finds its
value on that way** (`render_of_agreeOff`): where all lookups find the same, so do the scopes that
blocks open, and with them all lookups that come later. -/

namespace Pipewright.Template

/-! ## Lookups of parameters -/

/-- Where in the data the reference finds its value, if it finds one there. -/
def Lookup.location? (lookup : Lookup) : Option (List String) :=
  match lookup.place.resolve lookup.reference with
  | .ok operand => operand.location
  | .error _ => none

/-- The reference finds no value at a place that the way leads through. -/
def Lookup.Avoids (way : List String) (lookup : Lookup) : Prop :=
  ∀ path, lookup.location? = some path → ¬ path <+: way

/-- What is looked up next if a question has an answer. -/
def readsOn {α : Type} (result : Except RenderFault α) (next : α → List Lookup) : List Lookup :=
  match result with
  | .ok a => next a
  | .error _ => []

mutual

/-- What evaluating a parameter looks up. -/
def Param.reads (place : Place) : Param → List Lookup
  | .literal _ => []
  | .reference reference => [⟨reference, place⟩]
  | .call _ params hash =>
    paramReads place params ++ readsOn (evalParams place params) fun _ => hashReads place hash

/-- What evaluating parameters looks up; those behind a fault are not evaluated. -/
def paramReads (place : Place) : List Param → List Lookup
  | [] => []
  | param :: rest => param.reads place ++ readsOn (param.eval place) fun _ => paramReads place rest

/-- What evaluating named parameters looks up. -/
def hashReads (place : Place) : List (String × Param) → List Lookup
  | [] => []
  | (_, param) :: rest =>
    param.reads place ++ readsOn (param.eval place) fun _ => hashReads place rest

end

/-- What evaluating the parameters of a call looks up. -/
def Call.reads (call : Call) (place : Place) : List Lookup :=
  paramReads place call.params ++
    readsOn (evalParams place call.params) fun _ => hashReads place call.hash

/-! ## Lookups of elements -/

/-- What a block comes down to. -/
inductive Branch where
  /-- To a text. -/
  | text (text : String)
  /-- To its body, in each of these places. -/
  | body (places : List Place)
  /-- To what stands after its `else`. -/
  | otherwise

/-- What a block comes down to in a place. -/
def Call.branch (call : Call) (names : BlockParam) (place : Place) : Except RenderFault Branch := do
  let operands ← evalParams place call.params
  let hash ← evalHash place call.hash
  match Helper.ofName? call.name with
  | none => throw (.helperNotFound call.name)
  | some (.value helper) =>
    let result ← helper.apply operands hash
    return .text (result.getD .null).display
  | some (.block .raw) => return .body [place]
  | some (.block .if_) =>
    let (_, value) ← presentParam .if_ operands
    return if value.isTruthy (includesZero hash) then .body [place] else .otherwise
  | some (.block .unless) =>
    let (_, value) ← presentParam .unless operands
    return if value.isTruthy (includesZero hash) then .otherwise else .body [place]
  | some (.block .with_) =>
    let (operand, value) ← presentParam .with_ operands
    return if value.isTruthy false then .body [place.withPlace operand value names] else .otherwise
  | some (.block .each) =>
    let (operand, value) ← presentParam .each operands
    match iterations place operand value names with
    | [] => return .otherwise
    | places => return .body places

/-- What a step looks up, and then another one, if there is no fault in between. -/
def readsThen (step : Render Unit) (first next : Page → List Lookup) (page : Page) : List Lookup :=
  first page ++ readsOn (step.run page) fun (_, after) => next after

/-- What steps in one place after the other look up. -/
def readsEach (step : Place → Render Unit) (reads : Place → Page → List Lookup) :
    List Place → Page → List Lookup
  | [] => fun _ => []
  | place :: rest => readsThen (step place) (reads place) (readsEach step reads rest)

/-- What writing a value looks up: nothing for what turns out to be the name of a helper. -/
def valueReads (param : Param) (place : Place) : List Lookup :=
  match param with
  | .reference reference =>
    if (Helper.ofName? reference.text).isSome then [] else [⟨reference, place⟩]
  | _ => param.reads place

/-- The reference to the whole data. -/
def wholeData : Reference := .path [.root] "@root"

section Elements

variable (main : List Element) (visit : List Element → Place → Render Unit)

mutual

/-- What writing an element looks up. -/
def Element.reads : Element → Place → Page → List Lookup
  | .text _, _ => fun _ => []
  | .value param, place => fun _ => valueReads param place
  | .helper call, place => fun _ => call.reads place
  | .decorator .., place | .include .., place => fun _ => [⟨wholeData, place⟩]
  | .block call names body inverse, place => fun page =>
    call.reads place ++ readsOn (call.branch names place) fun
      | .text _ => []
      | .body places =>
        readsEach (fun place => renderElements main visit body place)
          (fun place => elementReads body place) places page
      | .otherwise => inverseReads inverse place page

/-- What writing the part after `else` looks up, if there is such a part. -/
def inverseReads : Option (List Element) → Place → Page → List Lookup
  | none, _ => fun _ => []
  | some elements, place => elementReads elements place

/-- What writing elements looks up. -/
def elementReads : List Element → Place → Page → List Lookup
  | [], _ => fun _ => []
  | element :: rest, place =>
    readsThen (renderElement main visit element place) (element.reads place)
      (elementReads rest place)

end

end Elements

/-- What rendering a template with its data looks up. -/
def reads (template : List Element) (data : Json) : List Lookup :=
  elementReads template (renderWithin template (includeLimit - 1)) template (.start data)
    ⟨"", [], false⟩

/-! ## Data that agree off a way -/

/-- The first data have a value on each part of the way, and the other data have the same values
    off the way. -/
structure AgreeOff (way : List String) (data other : Json) : Prop where
  present : ∀ path, path <+: way → ∃ value, follow path (some data) = .ok (some value)
  same : ∀ path, ¬ path <+: way → follow path (some other) = follow path (some data)

/-- The place over other data. -/
def Place.over (other : Json) (place : Place) : Place := { place with data := other }

/-- A reference is looked up at one path in all data, or it does not depend on them. -/
theorem Place.resolve_over (place : Place) (reference : Reference) :
    (∀ other, (place.over other).resolve reference = place.resolve reference) ∨
      ∃ text path, ∀ other,
        (place.over other).resolve reference = (place.over other).atPath text path := by
  have hscope : ∀ (scope : Option Scope) (text : String) (names : List String),
      (∀ other, (place.over other).fromScope scope text names = place.fromScope scope text names) ∨
        ∃ text' path, ∀ other,
          (place.over other).fromScope scope text names = (place.over other).atPath text' path := by
    intro scope text names
    unfold Place.fromScope
    cases scope with
    | none => exact .inr ⟨text, names, fun _ => rfl⟩
    | some scope =>
      dsimp only
      cases scope.value with
      | some value => exact .inl fun _ => rfl
      | none => exact .inr ⟨text, scope.path ++ names, fun _ => rfl⟩
  match reference with
  | .variable _ _ _ => exact .inl fun _ => rfl
  | .path steps text =>
    unfold Place.resolve
    simp only [Place.over]
    cases (firstName? steps).bind fun name => bound? name place.scopes with
    | some found =>
      rcases found with ⟨_ | value, path⟩
      · exact .inr ⟨text, path ++ stepNames (steps.drop 1), fun _ => rfl⟩
      · exact .inl fun _ => rfl
    | none =>
      dsimp only
      cases ascent steps with
      | zero =>
        by_cases hroot : steps.head? = some .root
        · simp only [hroot, if_true]
          exact .inr ⟨text, stepNames steps, fun _ => rfl⟩
        · simp only [hroot, if_false]
          exact hscope _ text _
      | succ level => exact hscope _ text _

/-- The second result is the first one, unless this has found its value on the way. -/
def SameOff (way : List String) (result other : Except RenderFault Operand) : Prop :=
  (∀ operand path, result = .ok operand → operand.location = some path → ¬ path <+: way) →
    other = result

section Lookups

variable {way : List String} {place : Place} {other : Json} (h : AgreeOff way place.data other)

include h

theorem AgreeOff.atPath (text : String) (path : List String) :
    SameOff way (place.atPath text path) ((place.over other).atPath text path) := by
  intro havoids
  have hoff : ¬ path <+: way := by
    intro hon
    obtain ⟨value, hvalue⟩ := h.present path hon
    refine havoids ⟨some text, some value, some path⟩ path ?_ rfl hon
    rw [Place.atPath, hvalue]
    rfl
  rw [Place.atPath, Place.atPath, Place.over, h.same path hoff]

theorem AgreeOff.resolve (reference : Reference) :
    SameOff way (place.resolve reference) ((place.over other).resolve reference) := by
  rcases place.resolve_over reference with hsame | ⟨text, path, hpath⟩
  · exact fun _ => hsame other
  · have hhere : place.resolve reference = place.atPath text path := hpath place.data
    rw [hpath other, hhere]
    exact h.atPath text path

/-- A lookup that avoids the way finds the same in both data. -/
theorem AgreeOff.resolve_eq {reference : Reference}
    (havoids : (Lookup.mk reference place).Avoids way) :
    (place.over other).resolve reference = place.resolve reference := by
  refine h.resolve reference fun operand path hoperand hlocation => havoids path ?_
  unfold Lookup.location?
  rw [hoperand]
  exact hlocation

end Lookups

/-! ## Parameters and blocks over both data -/

section Steps

variable {way : List String} {place : Place} {other : Json}

mutual

/-- A parameter whose lookups avoid the way has the same operand over both data. -/
theorem AgreeOff.eval_eq (h : AgreeOff way place.data other) {param : Param}
    (havoids : ∀ lookup ∈ param.reads place, lookup.Avoids way) :
    param.eval (place.over other) = param.eval place := by
  match param with
  | .literal _ => simp only [Param.eval]
  | .reference reference =>
    simp only [Param.eval]
    exact h.resolve_eq (havoids _ (by simp [Param.reads]))
  | .call helper params hash =>
    rw [Param.reads, List.forall_mem_append] at havoids
    simp only [Param.eval, h.evalParams_eq havoids.1]
    cases heval : evalParams place params with
    | error fault => rfl
    | ok operands =>
      rw [heval] at havoids
      rw [h.evalHash_eq havoids.2]

theorem AgreeOff.evalParams_eq (h : AgreeOff way place.data other) {params : List Param}
    (havoids : ∀ lookup ∈ paramReads place params, lookup.Avoids way) :
    evalParams (place.over other) params = evalParams place params := by
  match params with
  | [] => simp only [evalParams]
  | param :: rest =>
    rw [paramReads, List.forall_mem_append] at havoids
    simp only [evalParams, h.eval_eq havoids.1]
    cases heval : param.eval place with
    | error fault => rfl
    | ok operand =>
      rw [heval] at havoids
      rw [h.evalParams_eq havoids.2]

theorem AgreeOff.evalHash_eq (h : AgreeOff way place.data other) {hash : List (String × Param)}
    (havoids : ∀ lookup ∈ hashReads place hash, lookup.Avoids way) :
    evalHash (place.over other) hash = evalHash place hash := by
  match hash with
  | [] => simp only [evalHash]
  | (name, param) :: rest =>
    rw [hashReads, List.forall_mem_append] at havoids
    simp only [evalHash, h.eval_eq havoids.1]
    cases heval : param.eval place with
    | error fault => rfl
    | ok operand =>
      rw [heval] at havoids
      rw [h.evalHash_eq havoids.2]

end

theorem bind_eq_map {α β γ : Type} {x : Except RenderFault α} {f : β → γ}
    {next : α → Except RenderFault β} {next' : α → Except RenderFault γ}
    (hnext : ∀ a, next' a = (next a).map f) : (x >>= next') = (x >>= next).map f := by
  cases x with
  | error fault => rfl
  | ok a => exact hnext a

/-- The same branch, with its places over other data. -/
def Branch.over (other : Json) : Branch → Branch
  | .text written => .text written
  | .body places => .body (places.map (·.over other))
  | .otherwise => .otherwise

theorem iterations_over (operand : Operand) (value : Json) (names : BlockParam) :
    iterations (place.over other) operand value names =
      (iterations place operand value names).map (·.over other) := by
  simp only [iterations, List.mapIdx_eq_zipIdx_map, List.map_map]
  rfl

/-- A block whose parameters avoid the way comes down to the same over both data. -/
theorem AgreeOff.branch_eq (h : AgreeOff way place.data other) {call : Call} (names : BlockParam)
    (havoids : ∀ lookup ∈ call.reads place, lookup.Avoids way) :
    call.branch names (place.over other) = (call.branch names place).map (·.over other) := by
  rw [Call.reads, List.forall_mem_append] at havoids
  unfold Call.branch
  rw [h.evalParams_eq havoids.1]
  cases heval : evalParams place call.params with
  | error fault => rfl
  | ok operands =>
    rw [heval] at havoids
    rw [h.evalHash_eq havoids.2]
    refine bind_eq_map fun operands => bind_eq_map fun hash => ?_
    cases Helper.ofName? call.name with
    | none => rfl
    | some helper =>
      cases helper with
      | value helper => exact bind_eq_map fun _ => rfl
      | block helper =>
        cases helper with
        | raw => rfl
        | if_ | «unless» | with_ =>
          refine bind_eq_map fun ⟨operand, value⟩ => ?_
          dsimp only
          split <;> rfl
        | each =>
          refine bind_eq_map fun ⟨operand, value⟩ => ?_
          dsimp only
          rw [iterations_over]
          cases iterations place operand value names <;> rfl

end Steps

/-! ## Elements over both data -/

/-- From every page on which its lookups avoid the way, the first step does what the second does. -/
def Agrees (way : List String) (reads : Page → List Lookup) (step other : Render Unit) : Prop :=
  ∀ page, (∀ lookup ∈ reads page, lookup.Avoids way) → other.run page = step.run page

theorem Agrees.refl {way : List String} {reads : Page → List Lookup} (step : Render Unit) :
    Agrees way reads step step := fun _ _ => rfl

theorem Agrees.seq {way : List String} {early late : Page → List Lookup}
    {first first' second second' : Render Unit} (hfirst : Agrees way early first first')
    (hsecond : Agrees way late second second') :
    Agrees way (readsThen first early late) (do first; second) (do first'; second') := by
  intro page havoids
  rw [readsThen, List.forall_mem_append] at havoids
  change (first'.run page >>= _) = (first.run page >>= _)
  rw [hfirst page havoids.1]
  cases hrun : first.run page with
  | error fault => rfl
  | ok after =>
    rw [hrun] at havoids
    exact hsecond after.2 havoids.2

theorem agrees_each {way : List String} {reads : Place → Page → List Lookup}
    {step : Place → Render Unit} {other : Json} {places : List Place}
    (h : ∀ place ∈ places, Agrees way (reads place) (step place) (step (place.over other))) :
    Agrees way (readsEach step reads places) (places.forM step)
      ((places.map (·.over other)).forM step) := by
  induction places with
  | nil => exact .refl _
  | cons place rest ih =>
    rw [List.forall_mem_cons] at h
    exact h.1.seq (ih h.2)

section Elements

variable {way : List String} {place : Place} {other : Json} {main : List Element}
  {visit : List Element → Place → Render Unit}

/-- Writing what a block comes down to. -/
def renderBranch (main : List Element) (visit : List Element → Place → Render Unit)
    (body : List Element) (inverse : Option (List Element)) (place : Place) : Branch → Render Unit
  | .text text => writeText place text
  | .body places => places.forM fun place => renderElements main visit body place
  | .otherwise => renderInverse main visit inverse place

theorem settle_bind {α β γ : Type} (x : Except RenderFault α) (f : α → Except RenderFault β)
    (next : β → Render γ) :
    (settle (x >>= f) >>= next) = (settle x >>= fun a => settle (f a) >>= next) := by
  cases x <;> rfl

/-- A block is written as the branch that it comes down to. -/
theorem renderBlock_branch (call : Call) (names : BlockParam) (body : List Element)
    (inverse : Option (List Element)) (place : Place) :
    renderElement main visit (.block call names body inverse) place =
      settle (call.branch names place) >>= renderBranch main visit body inverse place := by
  have hone : ∀ place : Place, renderElements main visit body place =
      renderBranch main visit body inverse place (.body [place]) := fun _ => (bind_pure _).symm
  unfold renderElement Call.branch
  rw [settle_bind]
  refine bind_congr fun operands => ?_
  rw [settle_bind]
  refine bind_congr fun hash => ?_
  cases Helper.ofName? call.name with
  | none => rfl
  | some helper =>
    cases helper with
    | value helper =>
      dsimp only
      rw [settle_bind]
      rfl
    | block helper =>
      cases helper with
      | raw => exact hone place
      | if_ | «unless» | with_ =>
        dsimp only
        rw [settle_bind]
        refine bind_congr fun ⟨operand, value⟩ => ?_
        dsimp only
        split
        · first | exact hone _ | rfl
        · first | exact hone _ | rfl
      | each =>
        dsimp only
        rw [settle_bind]
        refine bind_congr fun ⟨operand, value⟩ => ?_
        dsimp only
        cases iterations place operand value names <;> rfl

/-- The places that a block opens are places in the same data. -/
theorem branch_data {call : Call} {names : BlockParam} {places : List Place}
    (hbranch : call.branch names place = .ok (.body places)) :
    ∀ inner ∈ places, inner.data = place.data := by
  obtain ⟨operands, -, hbranch⟩ := Except.bind_ok_iff.mp hbranch
  obtain ⟨hash, -, hbranch⟩ := Except.bind_ok_iff.mp hbranch
  cases hhelper : Helper.ofName? call.name with
  | none =>
    rw [hhelper] at hbranch
    cases hbranch
  | some helper =>
    rw [hhelper] at hbranch
    cases helper with
    | value helper =>
      obtain ⟨result, -, hbranch⟩ := Except.bind_ok_iff.mp hbranch
      cases hbranch
    | block helper =>
      cases helper with
      | raw =>
        cases hbranch
        simp
      | if_ | «unless» | with_ =>
        obtain ⟨⟨operand, value⟩, -, hbranch⟩ := Except.bind_ok_iff.mp hbranch
        dsimp only at hbranch
        split at hbranch
        all_goals
          cases hbranch
          try exact List.forall_mem_singleton.mpr rfl
      | each =>
        obtain ⟨⟨operand, value⟩, -, hbranch⟩ := Except.bind_ok_iff.mp hbranch
        dsimp only at hbranch
        split at hbranch
        · cases hbranch
        · cases hbranch
          intro inner hinner
          obtain ⟨_, _, rfl⟩ := List.mem_mapIdx.mp hinner
          rfl

/-- Looking the whole data up does not avoid any way. -/
theorem not_avoids_wholeData : ¬ (Lookup.mk wholeData place).Avoids way :=
  fun havoids => havoids [] rfl List.nil_prefix

theorem AgreeOff.renderHelper (h : AgreeOff way place.data other) (call : Call) :
    Agrees way (fun _ => call.reads place) (renderHelper call place)
      (Template.renderHelper call (place.over other)) := by
  intro page havoids
  rw [Call.reads, List.forall_mem_append] at havoids
  unfold Template.renderHelper
  rw [h.evalParams_eq havoids.1]
  cases heval : evalParams place call.params with
  | error fault => rfl
  | ok operands =>
    rw [heval] at havoids
    rw [h.evalHash_eq havoids.2]
    rfl

theorem AgreeOff.renderValue (h : AgreeOff way place.data other) (param : Param) :
    Agrees way (fun _ => valueReads param place) (renderValue param place)
      (Template.renderValue param (place.over other)) := by
  intro page havoids
  have heval : ∀ havoids : ∀ lookup ∈ param.reads place, lookup.Avoids way,
      Template.renderValue param (place.over other) = Template.renderValue param place := by
    intro havoids
    unfold Template.renderValue
    rw [h.eval_eq havoids]
    rfl
  cases param with
  | literal value => rw [heval havoids]
  | call helper params hash => rw [heval havoids]
  | reference reference =>
    by_cases hhelper : (Helper.ofName? reference.text).isSome
    · obtain ⟨helper, hname⟩ := Option.isSome_iff_exists.mp hhelper
      unfold Template.renderValue
      simp only [hname, pure_bind]
      rfl
    · simp only [valueReads, if_neg hhelper] at havoids
      rw [heval (by simpa only [Param.reads] using havoids)]

-- The induction is on the elements, with the place left free: a body is written in each place that
-- its block opens, and all of these are places in the same data.
mutual

theorem AgreeOff.element {data : Json} (h : AgreeOff way data other) (element : Element)
    {place : Place} (hplace : place.data = data) :
    Agrees way (element.reads main visit place) (renderElement main visit element place)
      (renderElement main visit element (place.over other)) := by
  subst hplace
  match element with
  | .text text => exact fun _ _ => rfl
  | .value param =>
    unfold Element.reads renderElement
    exact h.renderValue param
  | .helper call =>
    unfold Element.reads renderElement
    exact h.renderHelper call
  | .decorator .. | .include .. =>
    intro page havoids
    refine absurd (havoids ⟨wholeData, place⟩ ?_) not_avoids_wholeData
    simp only [Element.reads, List.mem_singleton]
  | .block call names body inverse =>
    intro page havoids
    unfold Element.reads at havoids
    rw [List.forall_mem_append] at havoids
    rw [renderBlock_branch, renderBlock_branch, h.branch_eq names havoids.1]
    cases hbranch : call.branch names place with
    | error fault => rfl
    | ok branch =>
      rw [hbranch] at havoids
      cases branch with
      | text written => rfl
      | body places =>
        refine agrees_each (fun inner hinner => ?_) page havoids.2
        exact h.elements body (branch_data hbranch inner hinner)
      | otherwise => exact h.inverse inverse rfl page havoids.2

theorem AgreeOff.inverse {data : Json} (h : AgreeOff way data other)
    (inverse : Option (List Element)) {place : Place} (hplace : place.data = data) :
    Agrees way (inverseReads main visit inverse place) (renderInverse main visit inverse place)
      (renderInverse main visit inverse (place.over other)) := by
  match inverse with
  | none =>
    unfold renderInverse
    exact .refl _
  | some elements =>
    unfold renderInverse inverseReads
    exact h.elements elements hplace

theorem AgreeOff.elements {data : Json} (h : AgreeOff way data other) (elements : List Element)
    {place : Place} (hplace : place.data = data) :
    Agrees way (elementReads main visit elements place) (renderElements main visit elements place)
      (renderElements main visit elements (place.over other)) := by
  match elements with
  | [] =>
    unfold renderElements
    exact .refl _
  | element :: rest =>
    unfold renderElements elementReads
    exact (h.element element hplace).seq (h.elements rest hplace)

end

end Elements

/-- **Noninterference.** Data that agree off a way give the same text, or the same fault, as long as
    nothing that rendering looks up is found on the way. -/
theorem render_of_agreeOff {way : List String} {template : List Element} {data other : Json}
    (h : AgreeOff way data other) (havoids : ∀ lookup ∈ reads template data, lookup.Avoids way) :
    render template other = render template data := by
  have helements : Agrees way
      (elementReads template (renderWithin template (includeLimit - 1)) template (.start data))
      (renderElements template (renderWithin template (includeLimit - 1)) template (.start data))
      (renderElements template (renderWithin template (includeLimit - 1)) template
        (.start other)) := h.elements template rfl
  have hrun := helements ⟨"", [], false⟩ havoids
  unfold render
  exact congrArg (Except.map fun (_, page) => page.text) hrun

end Pipewright.Template
