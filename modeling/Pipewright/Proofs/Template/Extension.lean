import Pipewright.Project.Context
import Pipewright.Proofs.Template.Branches

set_option autoImplicit false

/-! # Further arguments

A rendered text does not rest on an argument that is not there: where a template of text, paths and
blocks is rendered without an argument, it is rendered with it to the same text
(`IsOrdinary.render_withArgument`). What a reference finds is found again in data with a further
argument, unless it is the whole data or all arguments (`Extends.resolve_eq`).

`includeZero` is the one parameter that may be absent: it then counts as not given, so that an
argument of that name may turn the branch (`render_unset_includeZero`). -/

namespace Pipewright

namespace Template

/-! ## Ordinary templates -/

/-- A call of a block helper with one direct parameter; with `includeZero`, `if` and `unless` may
    say whether zeros count as true. -/
structure Call.Chooses (call : Call) (helper : BlockHelper) (param : Param) : Prop where
  name_eq : call.name = helper.name
  params_eq : call.params = [param]
  hash_eq : call.hash = [] ∨ (helper = .if_ ∨ helper = .unless) ∧
    ∃ flag : Param, flag.IsDirect ∧ call.hash = [("includeZero", flag)]
  isDirect : param.IsDirect
  ne_raw : helper ≠ .raw

mutual

/-- Text, a path, or a block of one parameter with ordinary parts. -/
def Element.IsOrdinary : Element → Prop
  | .text _ => True
  | .value (.reference _) => True
  | .block call _ body inverse =>
    (∃ helper param, call.Chooses helper param) ∧ IsOrdinary body ∧ IsOrdinaryInverse inverse
  | _ => False

/-- Every element is ordinary. -/
def IsOrdinary : List Element → Prop
  | [] => True
  | element :: rest => element.IsOrdinary ∧ IsOrdinary rest

/-- What stands after `else` is ordinary, if there is anything. -/
def IsOrdinaryInverse : Option (List Element) → Prop
  | none => True
  | some elements => IsOrdinary elements

end

/-- The lookups of what an element writes, or of the parameter of a block. -/
def Element.operands : Element → Place → List Lookup
  | .value param, place => valueReads param place
  | .block call .., place => paramReads place call.params
  | _, _ => []

/-- The lookups of the named parameters of a block. -/
def Element.flags : Element → Place → List Lookup
  | .block call .., place => hashReads place call.hash
  | _, _ => []

/-- A reference that is absent is neither true nor a fault over other data. -/
def Lookup.StaysUnset (other : Json) (lookup : Lookup) : Prop :=
  lookup.isAbsent →
    ((lookup.place.over other).resolve lookup.reference).toOption.any
      (·.value ≠ some (.bool true))

instance (other : Json) : DecidablePred (Lookup.StaysUnset other) := fun _ =>
  inferInstanceAs (Decidable (_ → _))

/-! ## Data that extend others -/

/-- The other data have what the data have, except that the objects at some places may be others. -/
structure Extends (places : List (List String)) (data other : Json) : Prop where
  same : ∀ path value, path ∉ places → follow path (some data) = .ok (some value) →
    follow path (some other) = .ok (some value)
  objects : ∀ path ∈ places,
    (∃ members, follow path (some data) = .ok (some (.object members))) ∧
      ∃ members, follow path (some other) = .ok (some (.object members))

section Lookups

variable {places : List (List String)} {place : Place} {other : Json} {reference : Reference}
  {operand : Operand}

theorem Place.atPath_eq_ok_iff {text : String} {path : List String} :
    place.atPath text path = .ok operand ↔
      ∃ value, follow path (some place.data) = .ok value ∧
        operand = ⟨some text, value, if value.isSome then some path else none⟩ := by
  unfold Place.atPath
  rw [Except.bind_ok_iff]
  exact exists_congr fun value => and_congr_right fun _ => ⟨fun h => by cases h; rfl,
    fun h => by rw [h]; rfl⟩

/-- A value that is found apart from the objects is found again. -/
theorem Extends.resolve_eq (h : Extends places place.data other) {value : Json}
    (hresolve : place.resolve reference = .ok operand) (hvalue : operand.value = some value)
    (happart : ∀ path ∈ places, operand.location ≠ some path) :
    (place.over other).resolve reference = .ok operand := by
  rcases place.resolve_over reference with hsame | ⟨text, path, hpath⟩
  · rw [hsame, hresolve]
  · have hhere : place.resolve reference = place.atPath text path := hpath place.data
    rw [hhere, Place.atPath_eq_ok_iff] at hresolve
    obtain ⟨found, hfollow, rfl⟩ := hresolve
    cases hvalue
    have hnotin : path ∉ places := fun hmem => happart path hmem rfl
    rw [hpath, Place.atPath_eq_ok_iff]
    exact ⟨some value, h.same path value hnotin hfollow, rfl⟩

/-- One of the objects is found as an object again. -/
theorem Extends.resolve_object (h : Extends places place.data other)
    (hresolve : place.resolve reference = .ok operand) {path : List String}
    (hlocation : operand.location = some path) (hmem : path ∈ places) :
    (∃ members, operand.value = some (.object members)) ∧
      ∃ again members, (place.over other).resolve reference = .ok again ∧
        again.value = some (.object members) := by
  obtain ⟨⟨members, hmembers⟩, further, hfurther⟩ := h.objects path hmem
  have hvalue : operand.value = some (.object members) := by
    have hgives := place.resolve_gives reference
    rw [hresolve] at hgives
    rw [hgives.2.1, ← hgives.2.2 path hlocation, ← toOption_follow, hmembers]
    rfl
  rcases place.resolve_over reference with hsame | ⟨text, path', hpath⟩
  · rw [hsame]
    exact ⟨⟨members, hvalue⟩, operand, members, hresolve, hvalue⟩
  · have hhere : place.resolve reference = place.atPath text path' := hpath place.data
    rw [hhere, Place.atPath_eq_ok_iff] at hresolve
    obtain ⟨found, -, rfl⟩ := hresolve
    cases hvalue
    cases hlocation
    refine ⟨⟨members, rfl⟩, ⟨some text, some (.object further), some path⟩, further, ?_, rfl⟩
    rw [hpath, Place.atPath_eq_ok_iff]
    exact ⟨_, hfurther, rfl⟩

/-- Whether a reference is true is the same over data that extend others, unless it was absent. -/
theorem Extends.resolve_flag (h : Extends places place.data other)
    (hresolve : place.resolve reference = .ok operand)
    (hunset : (Lookup.mk reference place).StaysUnset other) :
    ∃ again, (place.over other).resolve reference = .ok again ∧
      (again.value = some (.bool true) ↔ operand.value = some (.bool true)) := by
  cases hvalue : operand.value with
  | none =>
    have habsent : (Lookup.mk reference place).isAbsent := by
      have hgives := place.resolve_gives reference
      rw [hresolve] at hgives
      simp [Lookup.isAbsent, ← hgives.2.1, hvalue]
    have hany := hunset habsent
    cases hagain : (place.over other).resolve reference with
    | error fault => simp [hagain, Except.toOption] at hany
    | ok again => exact ⟨again, rfl, by simpa [hagain, Except.toOption] using hany⟩
  | some value =>
    by_cases hobject : ∃ path ∈ places, operand.location = some path
    · obtain ⟨path, hmem, hlocation⟩ := hobject
      obtain ⟨⟨members, hmembers⟩, again, further, hagain, hfurther⟩ :=
        h.resolve_object hresolve hlocation hmem
      rw [hvalue] at hmembers
      exact ⟨again, hagain, by simp [hfurther, hmembers]⟩
    · refine ⟨operand, h.resolve_eq hresolve hvalue fun path hmem hlocation => ?_, by rw [hvalue]⟩
      exact hobject ⟨path, hmem, hlocation⟩

/-- Whether zeros count as true is the same over data that extend others, as long as no absent
    reference decides it. -/
theorem Extends.includesZero_eq (h : Extends places place.data other)
    {hash : List (String × Param)} {operands : List (String × Operand)}
    (hhash : hash = [] ∨ ∃ flag : Param, flag.IsDirect ∧ hash = [("includeZero", flag)])
    (heval : evalHash place hash = .ok operands)
    (hunset : ∀ lookup ∈ hashReads place hash, lookup.StaysUnset other) :
    ∃ again, evalHash (place.over other) hash = .ok again ∧
      includesZero again = includesZero operands := by
  rcases hhash with rfl | ⟨flag, hdirect, rfl⟩
  · simp only [evalHash, Except.ok.injEq] at heval ⊢
    exact ⟨[], rfl, congrArg includesZero heval⟩
  rw [evalHash_singleton, Except.map_ok_iff] at heval
  obtain ⟨operand, hoperand, rfl⟩ := heval
  rw [evalHash_singleton]
  match flag with
  | .literal value =>
    cases hoperand
    exact ⟨_, rfl, rfl⟩
  | .reference reference =>
    rw [eval_reference] at hoperand ⊢
    have hmem : Lookup.mk reference place ∈
        hashReads place [("includeZero", .reference reference)] := by
      simp [hashReads, Param.reads]
    obtain ⟨again, hagain, htrue⟩ := h.resolve_flag hoperand (hunset _ hmem)
    refine ⟨[("includeZero", again)], by rw [hagain]; rfl, ?_⟩
    exact decide_eq_decide.mpr htrue

end Lookups

/-! ## Rendering over data that extend others -/

/-- What rendering an element looks up is found apart from the objects, and no absent `includeZero`
    is true over the other data. -/
structure Fits (places : List (List String)) (other : Json) (element : Element) (place : Place) :
    Prop where
  apart : ∀ lookup ∈ element.operands place, ∀ path ∈ places, lookup.location? ≠ some path
  unset : ∀ flag ∈ element.flags place, flag.StaysUnset other

/-- The second step does what the first one does, unless this meets a fault. -/
def Carries (step other : Render Unit) : Prop :=
  ∀ page after, step.run page = .ok after → other.run page = .ok after

theorem Carries.refl (step : Render Unit) : Carries step step := fun _ _ hrun => hrun

theorem Carries.seq {first first' second second' : Render Unit} (hfirst : Carries first first')
    (hsecond : Carries second second') : Carries (do first; second) (do first'; second') := by
  intro page after hrun
  change (first.run page >>= fun found => second.run found.2) = .ok after at hrun
  obtain ⟨middle, hmiddle, hafter⟩ := Except.bind_ok_iff.mp hrun
  change (first'.run page >>= fun found => second'.run found.2) = .ok after
  rw [hfirst page middle hmiddle]
  exact hsecond middle.2 after hafter

theorem carries_each {step : Place → Render Unit} {other : Json} {inner : List Place}
    (h : ∀ place ∈ inner, Carries (step place) (step (place.over other))) :
    Carries (inner.forM step) ((inner.map (·.over other)).forM step) := by
  induction inner with
  | nil => exact .refl _
  | cons place rest ih =>
    rw [List.forall_mem_cons] at h
    exact h.1.seq (ih h.2)

section Elements

variable {places : List (List String)} {place : Place} {other : Json} {main : List Element}
  {visit : List Element → Place → Render Unit}

theorem Extends.renderValue (h : Extends places place.data other) {reference : Reference}
    (hfits : Fits places other (.value (.reference reference)) place) :
    Carries (renderValue (.reference reference) place)
      (Template.renderValue (.reference reference) (place.over other)) := by
  unfold Template.renderValue
  simp only [pure_bind, eval_reference]
  cases hhelper : Helper.ofName? reference.text with
  | some helper => exact .refl _
  | none =>
    intro page after hrun
    cases hresolve : place.resolve reference with
    | error fault =>
      rw [hresolve] at hrun
      cases hrun
    | ok operand =>
      cases hvalue : operand.value with
      | none =>
        simp only [hresolve, settle_ok, hvalue] at hrun
        cases hrun
      | some value =>
        have hmem : Lookup.mk reference place ∈ (Element.value (.reference reference)).operands
            place := by
          simp [Element.operands, valueReads, hhelper]
        have happart : ∀ path ∈ places, operand.location ≠ some path := by
          simpa only [Lookup.location?, hresolve] using hfits.apart _ hmem
        rw [hresolve] at hrun
        rw [h.resolve_eq hresolve hvalue happart]
        exact hrun

/-- A block that comes down to a branch comes down to the same one over data that extend others. -/
theorem Extends.branch_eq (h : Extends places place.data other) {call : Call}
    {helper : BlockHelper} {param : Param} (hcall : call.Chooses helper param)
    {names : BlockParam} {body : List Element} {inverse : Option (List Element)}
    (hfits : Fits places other (.block call names body inverse) place) {branch : Branch}
    (hbranch : call.branch names place = .ok branch) :
    call.branch names (place.over other) = .ok (branch.over other) := by
  rw [Call.branch_of_name hcall.name_eq hcall.ne_raw, Except.bind_ok_iff] at hbranch ⊢
  obtain ⟨operands, hoperands, hbranch⟩ := hbranch
  obtain ⟨hash, hhash, hbranch⟩ := Except.bind_ok_iff.mp hbranch
  obtain ⟨⟨operand, value⟩, hpresent, hbranch⟩ := Except.bind_ok_iff.mp hbranch
  cases hbranch
  -- the parameter has a value, so it has the same operand over the other data
  have hagain : evalParams (place.over other) call.params = .ok operands := by
    have hhead := presentParam_eq_ok_iff.mp hpresent
    rw [hcall.params_eq] at hoperands ⊢
    rw [evalParams_singleton, Except.map_ok_iff] at hoperands
    obtain ⟨found, hfound, rfl⟩ := hoperands
    cases hhead.1
    rw [evalParams_singleton]
    match param, hcall.isDirect with
    | .literal value, _ =>
      cases hfound
      rfl
    | .reference reference, _ =>
      rw [eval_reference] at hfound ⊢
      have hmem : Lookup.mk reference place ∈ (Element.block call names body inverse).operands
          place := by
        simp [Element.operands, hcall.params_eq, paramReads, Param.reads]
      have happart : ∀ path ∈ places, operand.location ≠ some path := by
        simpa only [Lookup.location?, hfound] using hfits.apart _ hmem
      rw [h.resolve_eq hfound hhead.2 happart]
      rfl
  obtain ⟨again, hhash', hincludes⟩ :=
    h.includesZero_eq (hcall.hash_eq.imp_right And.right) hhash hfits.unset
  refine ⟨operands, hagain, ?_⟩
  rw [hhash', ← BlockHelper.branch_over, ← hincludes]
  exact Except.bind_ok_iff.mpr ⟨again, rfl, Except.bind_ok_iff.mpr ⟨_, hpresent, rfl⟩⟩

-- The induction is on the elements, with the place left free: a body is written in each place that
-- its block opens, and all of these are places in the same data.
mutual

theorem Element.IsOrdinary.carries {element : Element} (hordinary : element.IsOrdinary)
    {data : Json} (h : Extends places data other) {place : Place} (hplace : place.data = data)
    (hfits : ∀ found ∈ element.evaluated place, Fits places other found.1 found.2) :
    Carries (renderElement main visit element place)
      (renderElement main visit element (place.over other)) := by
  subst hplace
  match element with
  | .text text => exact fun _ _ hrun => hrun
  | .value (.reference reference) =>
    simp only [renderElement]
    exact h.renderValue (hfits (.value (.reference reference), place) (by simp [Element.evaluated]))
  | .value (.literal _) | .value (.call ..) | .helper _ | .decorator .. | .include .. =>
    exact absurd hordinary (by simp [Element.IsOrdinary])
  | .block call names body inverse =>
    simp only [Element.IsOrdinary] at hordinary
    obtain ⟨⟨helper, param, hcall⟩, hbody, hinverse⟩ := hordinary
    rw [Element.evaluated, List.forall_mem_cons] at hfits
    rw [renderBlock_branch, renderBlock_branch]
    cases hbranch : call.branch names place with
    | error fault =>
      intro page after hrun
      cases hrun
    | ok branch =>
      rw [h.branch_eq hcall hfits.1 hbranch, settle_ok, settle_ok]
      rw [hbranch] at hfits
      cases branch with
      | text written => exact fun _ _ hrun => hrun
      | body inner =>
        refine carries_each fun place hmem => ?_
        exact hbody.carries h (branch_data hbranch place hmem) fun found hfound =>
          hfits.2 found (List.mem_flatMap.mpr ⟨place, hmem, hfound⟩)
      | otherwise => exact hinverse.carries h rfl hfits.2

theorem IsOrdinaryInverse.carries {inverse : Option (List Element)}
    (hordinary : IsOrdinaryInverse inverse) {data : Json} (h : Extends places data other)
    {place : Place} (hplace : place.data = data)
    (hfits : ∀ found ∈ inverseEvaluated inverse place, Fits places other found.1 found.2) :
    Carries (renderInverse main visit inverse place)
      (renderInverse main visit inverse (place.over other)) := by
  match inverse with
  | none =>
    simp only [renderInverse]
    exact .refl _
  | some elements =>
    simp only [renderInverse]
    exact IsOrdinary.carries hordinary h hplace hfits

theorem IsOrdinary.carries {elements : List Element} (hordinary : IsOrdinary elements)
    {data : Json} (h : Extends places data other) {place : Place} (hplace : place.data = data)
    (hfits : ∀ found ∈ evaluated elements place, Fits places other found.1 found.2) :
    Carries (renderElements main visit elements place)
      (renderElements main visit elements (place.over other)) := by
  match elements with
  | [] =>
    simp only [renderElements]
    exact .refl _
  | element :: rest =>
    simp only [IsOrdinary] at hordinary
    rw [evaluated, List.forall_mem_append] at hfits
    simp only [renderElements]
    exact (hordinary.1.carries h hplace hfits.1).seq (hordinary.2.carries h hplace hfits.2)

end

end Elements

/-- Data that extend others give the same text. -/
theorem IsOrdinary.render_of_extends {template : List Element} (hordinary : IsOrdinary template)
    {places : List (List String)} {data other : Json} (h : Extends places data other)
    (hfits : ∀ found ∈ evaluated template (.start data), Fits places other found.1 found.2)
    {text : String} (hrender : render template data = .ok text) :
    render template other = .ok text := by
  unfold render at hrender ⊢
  obtain ⟨after, hrun, htext⟩ := Except.map_ok_iff.mp hrender
  refine Except.map_ok_iff.mpr ⟨after, ?_, htext⟩
  exact hordinary.carries h rfl hfits _ _ hrun

end Template

/-! ## Arguments of a project -/

/-- The data of a project with a further argument. -/
def ProjectData.withArgument (key : String) (value : Json) (data : ProjectData) : ProjectData :=
  { data with arguments := Dictionary.insert key value data.arguments }

/-- A further argument changes the arguments as a whole, and thereby the whole data, but nothing
    else. -/
theorem ProjectData.extends_withArgument {data : ProjectData} {key : String}
    (hnew : Dictionary.get? key data.arguments = none) (value : Json) :
    Template.Extends [[], ["args"]] data.toJson (data.withArgument key value).toJson where
  same path found hpath hfollow := by
    match path with
    | [] => simp at hpath
    | name :: rest =>
      by_cases hname : name = "args"
      · subst hname
        match rest with
        | [] => simp at hpath
        | step :: rest =>
          -- a value is found only behind an argument that is there, so not behind the further one
          change Template.follow rest (Dictionary.get? step data.arguments) = _ at hfollow
          have hstep : key ≠ step := by
            rintro rfl
            rw [hnew, Template.follow_none] at hfollow
            cases hfollow
          change Template.follow rest
            (Dictionary.get? step (Dictionary.insert key value data.arguments)) = _
          rw [Dictionary.get?_insert, if_neg hstep, hfollow]
      · have hother : ¬ "args" = name := fun h => hname h.symm
        have hselect : Template.select name (some (data.withArgument key value).toJson) =
            Template.select name (some data.toJson) :=
          congrArg Except.ok ((if_neg hother).trans (if_neg hother).symm)
        rw [← hfollow, Template.follow, Template.follow, hselect]
  objects := by
    rw [List.forall_mem_cons, List.forall_mem_singleton]
    exact ⟨⟨⟨_, rfl⟩, _, rfl⟩, ⟨_, rfl⟩, _, rfl⟩

open Template

/-- **Rendering does not rest on what is absent.** An ordinary template that is rendered without an
    argument is rendered to the same text with it, if neither the whole data nor all arguments are
    looked up, and no absent `includeZero` is true with the argument. -/
theorem render_withArgument {template : List Element} (hordinary : IsOrdinary template)
    {data : ProjectData} {key : String} {value : Json}
    (hnew : Dictionary.get? key data.arguments = none)
    (hoperands : ∀ found ∈ evaluated template (.start data.toJson),
      ∀ lookup ∈ found.1.operands found.2,
        lookup.location? ≠ some [] ∧ lookup.location? ≠ some ["args"])
    (hflags : ∀ found ∈ evaluated template (.start data.toJson), ∀ flag ∈ found.1.flags found.2,
      flag.StaysUnset (data.withArgument key value).toJson)
    {text : String} (hrender : render template data.toJson = .ok text) :
    render template (data.withArgument key value).toJson = .ok text := by
  refine hordinary.render_of_extends (data.extends_withArgument hnew value) ?_ hrender
  refine fun found hfound => ⟨fun lookup hlookup => ?_, hflags found hfound⟩
  simpa using hoperands found hfound lookup hlookup

/-- The reference to an argument. -/
def argument (name : String) : Param := .reference (.path [.name "args", .name name] name)

/-- A block that tells whether an argument is true, another one saying whether zero is. -/
def zeroSwitch : Element :=
  .block ⟨"if", [argument "zero"], [("includeZero", argument "flag")]⟩ .none [.text "T"]
    (some [.text "F"])

theorem zeroSwitch_isOrdinary : IsOrdinary [zeroSwitch] := by
  simp only [zeroSwitch, IsOrdinary, Element.IsOrdinary, IsOrdinaryInverse, and_true]
  exact ⟨.if_, argument "zero", rfl, rfl, .inr ⟨.inl rfl, argument "flag", trivial, rfl⟩, trivial,
    by decide⟩

/-- The data of a project with one argument, which is zero. -/
def zeroData : ProjectData := ⟨.empty, [], "", "", "", [("zero", .ofNat 0)]⟩

theorem render_withArgument_false :
    render [zeroSwitch] zeroData.toJson = .ok "F" ∧
      render [zeroSwitch] (zeroData.withArgument "flag" (.bool false)).toJson = .ok "F" :=
  ⟨rfl, render_withArgument zeroSwitch_isOrdinary rfl (by decide +kernel) (by decide +kernel) rfl⟩

/-- An absent `includeZero` is not a fault but counts as not given, and an argument of its name
    turns the branch. -/
theorem render_unset_includeZero :
    IsOrdinary [zeroSwitch] ∧ Dictionary.get? "flag" zeroData.arguments = none ∧
      (∀ found ∈ evaluated [zeroSwitch] (.start zeroData.toJson),
        ∀ lookup ∈ found.1.operands found.2,
          lookup.location? ≠ some [] ∧ lookup.location? ≠ some ["args"]) ∧
      render [zeroSwitch] zeroData.toJson = .ok "F" ∧
      render [zeroSwitch] (zeroData.withArgument "flag" (.bool true)).toJson = .ok "T" :=
  ⟨zeroSwitch_isOrdinary, rfl, by decide +kernel, rfl, rfl⟩

end Pipewright
