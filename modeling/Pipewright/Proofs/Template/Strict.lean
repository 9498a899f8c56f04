import Pipewright.Proofs.Template.Lookup

set_option autoImplicit false

/-! # Strict rendering

A template is plain if it is made of text, paths, and the blocks `if`, `unless`, `each` and `with`
with one parameter each. What evaluating a plain template looks up is a list, in the order of
evaluation (`lookups`): a block whose parameter has no value looks nothing else up, any other opens
places for its body (`opened`), and where it opens none, what stands after its `else` is evaluated
in the place of the block itself.

**Rendering a plain template fails exactly if evaluation reaches an absent reference**
(`IsPlain.render_error_iff`), and with the fault of this reference (`IsPlain.render_error`). -/

namespace Pipewright.Template

/-! ## Plain templates -/

/-- A parameter without a helper. -/
def Param.IsDirect : Param → Prop
  | .literal _ => True
  | .reference _ => True
  | .call .. => False

/-- A call of a block helper with one direct parameter and nothing else. -/
structure Call.Opens (call : Call) (helper : BlockHelper) (param : Param) : Prop where
  name_eq : call.name = helper.name
  params_eq : call.params = [param]
  hash_eq : call.hash = []
  isDirect : param.IsDirect
  ne_raw : helper ≠ .raw

mutual

/-- Text, a path that is not named like a helper, or a block of one parameter with plain parts. -/
def Element.IsPlain : Element → Prop
  | .text _ => True
  | .value (.reference reference) => Helper.ofName? reference.text = none
  | .block call _ body inverse =>
    (∃ helper param, call.Opens helper param) ∧ IsPlain body ∧ IsPlainInverse inverse
  | _ => False

/-- Every element is plain. -/
def IsPlain : List Element → Prop
  | [] => True
  | element :: rest => element.IsPlain ∧ IsPlain rest

/-- What stands after `else` is plain, if there is anything. -/
def IsPlainInverse : Option (List Element) → Prop
  | none => True
  | some elements => IsPlain elements

end

/-! ## What evaluation looks up -/

/-- The operand of a parameter and its value, if it has one. -/
def Param.present? (place : Place) (param : Param) : Option (Operand × Json) :=
  match param.eval place with
  | .ok operand => operand.value.map fun value => (operand, value)
  | .error _ => none

/-- The lookup of a parameter that is a path. -/
def Param.lookups (place : Place) : Param → List Lookup
  | .reference path => [⟨path, place⟩]
  | _ => []

/-- The places in which the body of `each` is evaluated, in order: one for each element of an array,
    with its position, and one for each member of an object, with its key. -/
def itemPlaces (place : Place) (operand : Operand) (names : BlockParam) : Json → List Place
  | .array elements => elements.mapIdx fun index element =>
    place.enter (itemScope operand false elements.length index
      ⟨.ofNat index, toString index, element⟩ names)
  | .object members => members.mapIdx fun index (key, member) =>
    place.enter (itemScope operand true members.length index ⟨.string key, key, member⟩ names)
  | _ => []

/-- The places in which a block's body is evaluated, in order; with none, it is its inverse that is
    evaluated, in the place of the block. -/
def opened (place : Place) (operand : Operand) (value : Json) (names : BlockParam) :
    BlockHelper → List Place
  | .if_ => if value.isTruthy false then [place] else []
  | .unless => if value.isTruthy false then [] else [place]
  | .with_ => if value.isTruthy false then [place.withPlace operand value names] else []
  | .each => itemPlaces place operand names value
  | .raw => [place]

/-- The places that a call opens, if its parameter has a value. -/
def Call.opened? (call : Call) (names : BlockParam) (place : Place) : Option (List Place) :=
  match Helper.ofName? call.name, call.params with
  | some (.block helper), param :: _ =>
    (param.present? place).map fun (operand, value) => opened place operand value names helper
  | _, _ => none

mutual

/-- What evaluating an element looks up, in order. -/
def Element.lookups : Element → Place → List Lookup
  | .value param, place => param.lookups place
  | .block call names body inverse, place =>
    call.params.flatMap (Param.lookups place) ++
      match call.opened? names place with
      | none => []
      | some [] => inverseLookups inverse place
      | some places => places.flatMap fun place => lookups body place
  | _, _ => []

/-- What evaluating the part after `else` looks up, if there is such a part. -/
def inverseLookups : Option (List Element) → Place → List Lookup
  | none, _ => []
  | some elements, place => lookups elements place

/-- What evaluating elements looks up, in order. -/
def lookups : List Element → Place → List Lookup
  | [], _ => []
  | element :: rest, place => element.lookups place ++ lookups rest place

end

/-- Evaluation comes to a lookup: those before it have found a value. -/
def Reaches (template : List Element) (place : Place) (lookup : Lookup) : Prop :=
  ∃ before after, lookups template place = before ++ lookup :: after ∧
    ∀ earlier ∈ before, ¬ earlier.isAbsent

/-! ## Steps that look up -/

/-- A step fails with the fault of the first of its lookups that is absent, and does not fail if
    none is. -/
def Follows (step : Render Unit) (lookups : List Lookup) : Prop :=
  ∀ page,
    match lookups.find? (·.isAbsent) with
    | none => ∃ after, step.run page = .ok ((), after)
    | some lookup => step.run page = .error lookup.fault

theorem follows_pure : Follows (pure ()) [] := fun page => ⟨page, rfl⟩

theorem Follows.seq {first second : Render Unit} {early late : List Lookup}
    (hfirst : Follows first early) (hsecond : Follows second late) :
    Follows (do first; second) (early ++ late) := by
  intro page
  have h := hfirst page
  rw [List.find?_append]
  cases hfind : early.find? (·.isAbsent) with
  | some lookup =>
    rw [hfind] at h
    change ((first.run page) >>= _) = _
    rw [h]
    rfl
  | none =>
    rw [hfind] at h
    obtain ⟨after, hrun⟩ := h
    have hrest := hsecond after
    rw [Option.none_or]
    have hseq : (do first; second : Render Unit).run page = second.run after := by
      change ((first.run page) >>= _) = _
      rw [hrun]
      rfl
    rw [hseq]
    exact hrest

/-- Lookups that find their values change nothing before the others. -/
theorem Follows.of_present {step : Render Unit} {found late : List Lookup}
    (h : Follows step late) (hfound : ∀ lookup ∈ found, ¬ lookup.isAbsent) :
    Follows step (found ++ late) := by
  intro page
  have hnone : found.find? (·.isAbsent) = none :=
    List.find?_eq_none.mpr fun lookup hmem => by simpa using hfound lookup hmem
  rw [List.find?_append, hnone, Option.none_or]
  exact h page

theorem follows_forM {step : Place → Render Unit} {found : Place → List Lookup}
    (h : ∀ place, Follows (step place) (found place)) (places : List Place) :
    Follows (places.forM step) (places.flatMap found) := by
  induction places with
  | nil => exact follows_pure
  | cons place rest ih =>
    rw [List.flatMap_cons]
    exact (h place).seq ih

theorem writeText_follows (place : Place) (text : String) : Follows (writeText place text) [] := by
  intro page
  unfold writeText
  by_cases h : text = ""
  · rw [if_pos h]
    exact ⟨page, rfl⟩
  · rw [if_neg h]
    exact ⟨_, rfl⟩

/-! ## The parameter of a block -/

theorem settle_ok {α β : Type} (a : α) (next : α → Render β) : (settle (.ok a) >>= next) = next a :=
  rfl

theorem Helper.ofName?_name (helper : BlockHelper) :
    Helper.ofName? helper.name = some (.block helper) := by
  cases helper <;> rfl

/-- Evaluating a path gives the value that it stands for. -/
theorem eval_reference (place : Place) (reference : Reference) :
    (Param.reference reference).eval place = place.resolve reference := by
  simp only [Param.eval]

/-- Evaluating an absent path meets its fault, or gives an operand without a value. -/
theorem eval_absent {lookup : Lookup} (h : lookup.isAbsent) :
    (Param.reference lookup.reference).eval lookup.place = .error lookup.fault ∨
      ∃ operand, (Param.reference lookup.reference).eval lookup.place = .ok operand ∧
        operand.value = none ∧ lookup.fault = .missing operand.text := by
  have hnone := Option.isNone_iff_eq_none.mp h
  have hgives := lookup.place.resolve_gives lookup.reference
  unfold Lookup.fault
  rw [eval_reference]
  cases hresolve : lookup.place.resolve lookup.reference with
  | error fault => exact .inl rfl
  | ok operand =>
    rw [hresolve, hnone] at hgives
    exact .inr ⟨operand, rfl, hgives.2.1, rfl⟩

/-- A direct parameter without a value is an absent path. -/
theorem Param.IsDirect.absent {place : Place} {param : Param} (h : param.IsDirect)
    (habsent : param.present? place = none) :
    ∃ path, param = .reference path ∧ (Lookup.mk path place).isAbsent := by
  match param with
  | .literal value => simp [Param.present?, Param.eval, Operand.ofValue] at habsent
  | .reference path =>
    refine ⟨path, rfl, Option.isNone_iff_eq_none.mpr ?_⟩
    have hgives := place.resolve_gives path
    unfold Param.present? at habsent
    rw [eval_reference] at habsent
    cases hresolve : place.resolve path with
    | error fault =>
      rw [hresolve] at hgives
      exact hgives
    | ok operand =>
      rw [hresolve] at hgives habsent
      have hnone : operand.value = none := by simpa using habsent
      rw [← hgives.2.1, hnone]

/-- A direct parameter with a value looks up nothing absent. -/
theorem Param.IsDirect.present {place : Place} {param : Param} {operand : Operand} {value : Json}
    (h : param.IsDirect) (hpresent : param.present? place = some (operand, value)) :
    param.eval place = .ok operand ∧ operand.value = some value ∧
      ∀ lookup ∈ param.lookups place, ¬ lookup.isAbsent := by
  unfold Param.present? at hpresent
  cases heval : param.eval place with
  | error fault => simp [heval] at hpresent
  | ok found =>
    simp only [heval, Option.map_eq_some_iff, Prod.mk.injEq] at hpresent
    obtain ⟨_, hvalue, rfl, rfl⟩ := hpresent
    refine ⟨rfl, hvalue, ?_⟩
    match param with
    | .literal _ => simp [Param.lookups]
    | .reference path =>
      intro lookup hmem
      have hgives := place.resolve_gives path
      rw [eval_reference] at heval
      rw [heval] at hgives
      rw [Param.lookups, List.mem_singleton] at hmem
      subst hmem
      unfold Lookup.isAbsent
      rw [← hgives.2.1, hvalue]
      simp

/-! ## Blocks -/

section Blocks

variable {main : List Element} {visit : List Element → Place → Render Unit} {call : Call}
  {helper : BlockHelper} {param : Param} {names : BlockParam} {body : List Element}
  {inverse : Option (List Element)} {place : Place}

theorem iterations_eq_itemPlaces (place : Place) (operand : Operand) (value : Json)
    (names : BlockParam) :
    iterations place operand value names = itemPlaces place operand names value := by
  cases value with
  | array elements =>
    simp only [iterations, itemsOf, itemPlaces, isObject, List.mapIdx_mapIdx, List.length_mapIdx]
    rfl
  | object members =>
    simp only [iterations, itemsOf, itemPlaces, isObject, List.mapIdx_eq_zipIdx_map,
      List.zipIdx_map, List.map_map, List.length_map]
    rfl
  | _ => rfl

/-- A block whose parameter has a value evaluates its body in each place that it opens, or its
    inverse if it opens none. -/
theorem renderBlock_present (h : call.Opens helper param) {operand : Operand} {value : Json}
    (heval : param.eval place = .ok operand) (hvalue : operand.value = some value) :
    renderElement main visit (.block call names body inverse) place =
      match opened place operand value names helper with
      | [] => renderInverse main visit inverse place
      | places => places.forM fun place => renderElements main visit body place := by
  have hoperands : evalParams place call.params = .ok [operand] := by
    simp [h.params_eq, evalParams, heval, bind, Except.bind, pure, Except.pure]
  have hhash : evalHash place call.hash = .ok [] := by simp [h.hash_eq, evalHash]
  have hpresent : presentParam helper [operand] = .ok (operand, value) := by
    simp [presentParam, hvalue]
  have hone : ∀ place : Place, ([place].forM fun place => renderElements main visit body place) =
      renderElements main visit body place := fun _ => bind_pure _
  unfold renderElement
  rw [hoperands, hhash, h.name_eq, Helper.ofName?_name]
  simp only [settle_ok]
  cases helper with
  | raw => exact absurd rfl h.ne_raw
  | if_ =>
    rw [hpresent]
    cases htruthy : value.isTruthy false <;> simp [settle_ok, opened, includesZero, htruthy, hone]
  | «unless» =>
    rw [hpresent]
    cases htruthy : value.isTruthy false <;> simp [settle_ok, opened, includesZero, htruthy, hone]
  | with_ =>
    rw [hpresent]
    cases htruthy : value.isTruthy false <;> simp [settle_ok, opened, htruthy, hone]
  | each =>
    have hopened : opened place operand value names .each =
        iterations place operand value names :=
      (iterations_eq_itemPlaces place operand value names).symm
    rw [hpresent]
    simp only [settle_ok]
    cases hplaces : iterations place operand value names with
    | nil => simp only [hopened, hplaces]
    | cons first rest => simp only [hopened, hplaces]

/-- A block with an absent parameter fails, whatever stands in it and after its `else`. -/
theorem renderBlock_absent {path : Reference} (h : call.Opens helper (.reference path))
    (habsent : (Lookup.mk path place).isAbsent) (page : Page) :
    (renderElement main visit (.block call names body inverse) place).run page =
      .error (Lookup.mk path place).fault := by
  unfold renderElement
  rcases eval_absent habsent with herror | ⟨operand, hok, hnone, hfault⟩
  · have hoperands : evalParams place call.params = .error (Lookup.mk path place).fault := by
      simp [h.params_eq, evalParams, herror, bind, Except.bind]
    rw [hoperands]
    rfl
  · have hoperands : evalParams place call.params = .ok [operand] := by
      simp [h.params_eq, evalParams, hok, bind, Except.bind, pure, Except.pure]
    have hhash : evalHash place call.hash = .ok [] := by simp [h.hash_eq, evalHash]
    have hmissing : presentParam helper [operand] = .error (.missing operand.text) := by
      simp [presentParam, hnone]
    rw [hoperands, hhash, h.name_eq, Helper.ofName?_name, hfault]
    simp only [settle_ok]
    cases helper with
    | raw => exact absurd rfl h.ne_raw
    | if_ | «unless» | with_ | each =>
      rw [hmissing]
      rfl

end Blocks

/-! ## Whole templates -/

section Templates

variable (main : List Element) (visit : List Element → Place → Render Unit)

theorem renderValue_follows (place : Place) (path : Reference)
    (h : Helper.ofName? path.text = none) :
    Follows (renderValue (.reference path) place) [⟨path, place⟩] := by
  intro page
  have hgives := place.resolve_gives path
  simp only [renderValue, pure_bind, h, eval_reference, List.find?_singleton]
  unfold Lookup.isAbsent Lookup.fault
  cases hresolve : place.resolve path with
  | error fault =>
    rw [hresolve] at hgives
    have habsent : place.value? path = none := hgives
    simp only [habsent, Option.isNone_none, if_true, hresolve]
    rfl
  | ok operand =>
    rw [hresolve] at hgives
    rw [settle_ok]
    simp only [← hgives.2.1]
    cases hvalue : operand.value with
    | none =>
      simp only [Option.isNone_none, if_true, hresolve]
      rfl
    | some value => exact writeText_follows place value.display page

-- The induction is on the elements, with the place left free: a body is rendered in each place that
-- its block opens.
mutual

theorem Element.IsPlain.follows {element : Element} (h : element.IsPlain) (place : Place) :
    Follows (renderElement main visit element place) (element.lookups place) := by
  match element with
  | .text text =>
    simp only [renderElement, Element.lookups]
    exact writeText_follows place text
  | .value (.reference path) =>
    simp only [renderElement, Element.lookups, Param.lookups]
    exact renderValue_follows place path h
  | .value (.literal _) | .value (.call ..) | .helper _ | .decorator .. | .include .. =>
    exact absurd h (by simp [Element.IsPlain])
  | .block call names body inverse =>
    simp only [Element.IsPlain] at h
    obtain ⟨⟨helper, param, hopens⟩, hbody, hinverse⟩ := h
    simp only [Element.lookups, Call.opened?, hopens.name_eq, Helper.ofName?_name,
      hopens.params_eq, List.flatMap_cons, List.flatMap_nil, List.append_nil]
    cases hpresent : param.present? place with
    | none =>
      obtain ⟨path, rfl, habsent⟩ := hopens.isDirect.absent hpresent
      intro page
      simp only [Param.lookups, Option.map_none, List.append_nil, List.find?_singleton, habsent,
        if_true]
      exact renderBlock_absent hopens habsent page
    | some found =>
      obtain ⟨operand, value⟩ := found
      obtain ⟨heval, hvalue, hfound⟩ := hopens.isDirect.present hpresent
      rw [renderBlock_present hopens heval hvalue]
      -- without opened places the inverse is rendered, in the place of the block
      have hbranch : Follows
          (match opened place operand value names helper with
            | [] => renderInverse main visit inverse place
            | places => places.forM fun place => renderElements main visit body place)
          (match some (opened place operand value names helper) with
            | none => []
            | some [] => inverseLookups inverse place
            | some places => places.flatMap fun place => lookups body place) := by
        cases opened place operand value names helper with
        | nil => exact hinverse.follows place
        | cons first rest => exact follows_forM (fun place => hbody.follows place) (first :: rest)
      exact hbranch.of_present hfound

theorem IsPlainInverse.follows {inverse : Option (List Element)} (h : IsPlainInverse inverse)
    (place : Place) :
    Follows (renderInverse main visit inverse place) (inverseLookups inverse place) := by
  match inverse with
  | none =>
    simp only [renderInverse, inverseLookups]
    exact follows_pure
  | some elements =>
    simp only [renderInverse, inverseLookups]
    exact IsPlain.follows h place

theorem IsPlain.follows {elements : List Element} (h : IsPlain elements) (place : Place) :
    Follows (renderElements main visit elements place) (lookups elements place) := by
  match elements with
  | [] =>
    simp only [renderElements, lookups]
    exact follows_pure
  | element :: rest =>
    simp only [IsPlain] at h
    simp only [renderElements, lookups]
    exact (h.1.follows place).seq (h.2.follows place)

end

end Templates

/-- Evaluation reaches an absent lookup exactly if it is the first absent one. -/
theorem reaches_absent_iff (template : List Element) (place : Place) (lookup : Lookup) :
    (Reaches template place lookup ∧ lookup.isAbsent) ↔
      (lookups template place).find? (·.isAbsent) = some lookup := by
  rw [List.find?_eq_some_iff_append]
  unfold Reaches
  constructor
  · rintro ⟨⟨before, after, hlookups, hbefore⟩, habsent⟩
    exact ⟨habsent, before, after, hlookups, fun earlier hmem => by simpa using hbefore _ hmem⟩
  · rintro ⟨habsent, before, after, hlookups, hbefore⟩
    exact ⟨⟨before, after, hlookups, fun earlier hmem => by simpa using hbefore _ hmem⟩, habsent⟩

/-- A plain template without absent lookups is rendered, and any other fails with the fault of the
    first of them. -/
theorem IsPlain.render {template : List Element} (h : IsPlain template) (data : Json) :
    match (lookups template (.start data)).find? (·.isAbsent) with
    | none => ∃ text, render template data = .ok text
    | some lookup => render template data = .error lookup.fault := by
  have hfollows : Follows (renderWithin template includeLimit template (.start data)) _ :=
    h.follows template (renderWithin template 499) (.start data)
  have hrun := hfollows ⟨"", [], false⟩
  unfold Template.render
  cases hfind : (lookups template (.start data)).find? (·.isAbsent) with
  | none =>
    rw [hfind] at hrun
    obtain ⟨after, hrun⟩ := hrun
    exact ⟨after.text, by rw [hrun]; rfl⟩
  | some lookup =>
    rw [hfind] at hrun
    simp only [hrun]
    rfl

/-- **Strict rendering.** Rendering a plain template fails exactly if evaluation reaches an absent
    reference. -/
theorem IsPlain.render_error_iff {template : List Element} (h : IsPlain template) (data : Json) :
    (∃ fault, Template.render template data = .error fault) ↔
      ∃ lookup, Reaches template (.start data) lookup ∧ lookup.isAbsent := by
  have hrender := h.render data
  simp only [reaches_absent_iff]
  cases hfind : (lookups template (.start data)).find? (·.isAbsent) with
  | none =>
    rw [hfind] at hrender
    obtain ⟨text, hrender⟩ := hrender
    simp [hrender]
  | some lookup =>
    rw [hfind] at hrender
    exact ⟨fun _ => ⟨lookup, rfl⟩, fun _ => ⟨lookup.fault, hrender⟩⟩

/-- The fault of a plain template is that of the absent reference that evaluation reaches. -/
theorem IsPlain.render_error {template : List Element} (h : IsPlain template) {data : Json}
    {lookup : Lookup} (hreaches : Reaches template (.start data) lookup)
    (habsent : lookup.isAbsent) : Template.render template data = .error lookup.fault := by
  have hrender := h.render data
  rw [(reaches_absent_iff template (.start data) lookup).mp ⟨hreaches, habsent⟩] at hrender
  exact hrender

end Pipewright.Template
