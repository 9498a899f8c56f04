import Pipewright.Proofs.Template.ScopeStack

set_option autoImplicit false

/-! # Loop variables

A variable of a loop is that of the innermost iteration around it: `if`, `unless` and `with`
between the two make no difference, and of an outer iteration nothing shows through, so that inside
an array there is no key even where the array stands in an object. A path starts at the value of the
innermost `with` or iteration. What stands behind `else` is outside of its own block
(`Enclosure.branch`).

`InForce` says this of a place, and it holds of every place that rendering comes to, behind blocks
that have ended as well as inside of them (`loopVariables_inForce`). -/

namespace Pipewright

namespace Template

/-! ## What is in force -/

/-- The variables of an iteration; only the items of objects have keys. -/
def iterationVariable? (value : Json) (index : Nat) (item : Item) : String → Option Json
  | "first" => some (.bool (index = 0))
  | "last" => some (.bool (index + 1 = (itemsOf value).length))
  | "index" => some (.ofNat index)
  | "key" => if isObject value then some item.key else none
  | _ => none

/-- A variable inside these parts of a template that is rendered in a place: the innermost
    iteration has it, and the place only where there is no iteration. -/
def variableIn? (outer : Place) (name : String) : List Enclosure → Option Json
  | [] => outer.value? (.variable 0 name name)
  | .iteration value index item :: _ => iterationVariable? value index item name
  | _ :: rest => variableIn? outer name rest

/-- The current object inside these parts. -/
def objectIn? (outer : Place) : List Enclosure → Option Json
  | [] => outer.startOf? 0
  | .object value :: _ => some value
  | .iteration _ _ item :: _ => some item.value
  | .branch :: rest => objectIn? outer rest

/-- In the place, variables and paths are what they are inside these parts of a template that is
    rendered in the outer place. -/
structure InForce (outer : Place) (enclosures : List Enclosure) (place : Place) : Prop where
  data_eq : place.data = outer.data
  /-- An iteration is that of an item of its value. -/
  iterates : ∀ value index item, .iteration value index item ∈ enclosures →
    (itemsOf value)[index]? = some item
  /-- A variable is that of the innermost iteration. -/
  tells : ∀ name text, place.resolve (.variable 0 name text) =
    .ok ⟨some text, variableIn? outer name enclosures, none⟩
  /-- A path starts at the current object, `this` being the empty one, unless a block has given its
      first name. -/
  starts : ∀ path text, (∀ name ∈ path.head?, bound? name place.scopes = none) →
    Gives outer.data text ((objectIn? outer enclosures).bind (Json.at? path))
      (place.resolve (.path (path.map .name) text))

section Places

variable {outer place : Place} {operand : Operand} {value : Json} {enclosures : List Enclosure}

/-- Where the current object is known, so is what paths give. -/
theorem resolve_names_gives (path : List String) (text : String)
    (hfree : ∀ name ∈ path.head?, bound? name place.scopes = none) :
    Gives place.data text ((place.startOf? 0).bind (Json.at? path))
      (place.resolve (.path (path.map .name) text)) := by
  rw [← value?_names text hfree]
  exact place.resolve_gives (.path (path.map .name) text)

/-- `with` takes the variables over. -/
theorem withPlace_variable (names : BlockParam) (name text : String) :
    (place.withPlace operand value names).resolve (.variable 0 name text) =
      place.resolve (.variable 0 name text) := by
  unfold Place.withPlace Place.enter Place.resolve
  cases place.scopes <;> rfl

theorem itemScope_locals (names : BlockParam) (index : Nat) (item : Item) (name : String) :
    ((itemScope operand (isObject value) (itemsOf value).length index item names).locals.find?
      (·.1 == name)).map (·.2) = iterationVariable? value index item name := by
  unfold iterationVariable?
  split
  · rfl
  · rfl
  · rfl
  · cases isObject value <;> rfl
  · next hfirst hlast hindex hkey =>
    cases isObject value <;>
      simp [itemScope, Ne.symm hfirst, Ne.symm hlast, Ne.symm hindex, Ne.symm hkey]

/-- `each` has variables of its own. -/
theorem atItem_variable (names : BlockParam) (index : Nat) (item : Item) (name text : String) :
    (place.atItem operand value names index item).resolve (.variable 0 name text) =
      .ok ⟨some text, iterationVariable? value index item name, none⟩ :=
  congrArg (fun found => Except.ok (Operand.mk (some text) found none))
    (itemScope_locals names index item name)

theorem inForce_outer (outer : Place) : InForce outer [] outer where
  data_eq := rfl
  iterates := nofun
  tells _ _ := rfl
  starts := resolve_names_gives

theorem InForce.branch (h : InForce outer enclosures place) :
    InForce outer (.branch :: enclosures) place where
  data_eq := h.data_eq
  iterates value index item hmem := h.iterates value index item (by simpa using hmem)
  tells := h.tells
  starts := h.starts

theorem InForce.object_with (h : InForce outer enclosures place)
    (hstands : operand.StandsAt place.data value) (names : BlockParam) :
    InForce outer (.object value :: enclosures) (place.withPlace operand value names) where
  data_eq := h.data_eq
  iterates value index item hmem := h.iterates value index item (by simpa using hmem)
  tells name text := (withPlace_variable names name text).trans (h.tells name text)
  starts path text hfree := by
    have hgives := resolve_names_gives path text hfree
    rw [startOf?_withPlace hstands] at hgives
    exact h.data_eq ▸ hgives

theorem InForce.iteration (hitems : HoldsItems outer.data) (h : InForce outer enclosures place)
    (hstands : operand.StandsAt place.data value) {index : Nat} {item : Item}
    (hitem : (itemsOf value)[index]? = some item) (names : BlockParam) :
    InForce outer (.iteration value index item :: enclosures)
      (place.atItem operand value names index item) where
  data_eq := h.data_eq
  iterates other position found hmem := by
    rcases List.mem_cons.1 hmem with hsame | hmem
    · cases hsame
      exact hitem
    · exact h.iterates other position found hmem
  tells := atItem_variable names index item
  starts path text hfree := by
    have hgives := resolve_names_gives path text hfree
    have hholds : HoldsItems place.data := h.data_eq ▸ hitems
    rw [startOf?_itemScope fun _ => hholds.located hstands (List.mem_of_getElem? hitem)] at hgives
    exact h.data_eq ▸ hgives

/-- What is in force in a block decides what is in force in its parts. -/
theorem inForce_handedDown (hitems : HoldsItems outer.data) : HandedDown (InForce outer) where
  branch h := h.branch
  object h hstands := h.object_with hstands
  iteration h hstands hitem := h.iteration hitems hstands hitem

end Places

end Template

open Template

/-- **Loop variables.** Let a template be rendered in any place, as the main one or included, with
    the scopes on a stack that its blocks change. This gives what rendering in places gives and
    writes the same page; wherever it comes to an element, the variables are those of the innermost
    iteration that the element stands in, whatever stands in between, and paths start at the
    innermost object; and every element, however it ends, leaves the scopes as they were before it,
    so that behind a block that has ended the enclosing iteration is in force again. -/
theorem loopVariables_inForce (outer : Place) (hsorted : outer.data.IsSorted)
    (hfits : outer.data.FitsIndexes) (main : List Element) (depth : Nat) (elements : List Element)
    (page : Page) :
    let visit := renderWithin main depth
    let run := (OnStack.elements main visit [] elements).runOn ⟨outer, page, []⟩
    (run.1.map fun _ => ((), run.2.page)) =
      (renderWithin main (depth + 1) elements outer).run page ∧
    (∀ visit ∈ run.2.visits, InForce outer visit.enclosures visit.place) ∧
    ∀ enclosures element stage,
      ((OnStack.element main visit enclosures element).runOn stage).2.place = stage.place := by
  intro visit run
  have hhanded : HandedDown (InForce outer) := inForce_handedDown (hsorted.holdsItems hfits)
  have hmirrors : MirrorsIn (InForce outer) outer (OnStack.elements main visit [] elements)
      (renderElements main visit elements outer) :=
    elements_mirrors hhanded elements (inForce_outer outer)
  obtain ⟨result, last, after, more, hrun, hrender, -, hmore⟩ := hmirrors page []
  rw [show run = (result, ⟨last, after, [] ++ more⟩) from hrun]
  exact ⟨hrender, hmore, fun enclosures element stage => element_place main visit ..⟩

/-- Systems with the jobs that run on them. -/
def jobsData : Json :=
  .object [("linux", .object [("build", .null), ("test", .bool true)]),
    ("macos", .object [("lint", .bool true)])]

/-- The name of each job, then that of its system. -/
def jobsBlock : Element :=
  let this : Param := .reference (.path [] "this")
  let key : Element := .value (.reference (.variable 0 "key" "@key"))
  .block ⟨"each", [this], []⟩ .none
    [.block ⟨"each", [this], []⟩ .none
      [.block ⟨"if", [this], []⟩ .none [key] (some [.text "(", key, .text ")"])] none,
      .block ⟨"with", [this], []⟩ .none [.text " on ", key, .text ";"] none] none

theorem loopVariables_inForce_jobs :
    (((renderWithin [] 1 [jobsBlock] (.start jobsData)).run ⟨"", [], false⟩).map (·.2.text)) =
      .ok "(build)test on linux;lint on macos;" ∧
    ∀ visit ∈ ((OnStack.elements [] (renderWithin [] 0) [] [jobsBlock]).runOn
      ⟨.start jobsData, ⟨"", [], false⟩, []⟩).2.visits,
      InForce (.start jobsData) visit.enclosures visit.place := by
  have hsorted : jobsData.IsSorted := by
    simp only [jobsData, Json.IsSorted, Json.IsSortedMembers, Dictionary.IsSorted]
    decide +kernel
  have hfits : jobsData.FitsIndexes := by
    simp [jobsData, Json.FitsIndexes, Json.FitsIndexesMembers]
  have h := loopVariables_inForce (.start jobsData) hsorted hfits [] 0 [jobsBlock]
    ⟨"", [], false⟩
  refine ⟨?_, h.2.1⟩
  rw [← h.1]
  decide +kernel

end Pipewright
