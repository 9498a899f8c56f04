import Pipewright.Proofs.Template.Branches
import Pipewright.Proofs.Template.Likeness

set_option autoImplicit false

/-! # Iteration

`each` renders its body once for each item of its value, in order, and writes one result behind the
other; without items it renders what stands after its `else` (`each_iterates`). In the place of an
item, paths start at the item, and the variables and the names of the block tell which item it is
(`ItemPlace`). Whether the value stands in the data or was computed makes no difference. -/

namespace Pipewright

/-! ## Values whose items can be found -/

namespace Json

mutual

/-- Every array, at any depth, is so short that 64 bits count its items. -/
def FitsIndexes : Json → Prop
  | .null | .bool _ | .number _ | .string _ => True
  | .array items => items.length ≤ twoPow 64 ∧ FitsIndexesItems items
  | .object members => FitsIndexesMembers members

/-- `FitsIndexes` of every item. -/
def FitsIndexesItems : List Json → Prop
  | [] => True
  | json :: rest => json.FitsIndexes ∧ FitsIndexesItems rest

/-- `FitsIndexes` of every member. -/
def FitsIndexesMembers : List (String × Json) → Prop
  | [] => True
  | (_, json) :: rest => json.FitsIndexes ∧ FitsIndexesMembers rest

end

theorem fitsIndexesItems_iff {items : List Json} :
    FitsIndexesItems items ↔ ∀ item ∈ items, item.FitsIndexes := by
  induction items with
  | nil => simp [FitsIndexesItems]
  | cons item rest ih => rw [FitsIndexesItems, ih, List.forall_mem_cons]

theorem fitsIndexesMembers_iff {members : List (String × Json)} :
    FitsIndexesMembers members ↔ ∀ member ∈ members, member.2.FitsIndexes := by
  induction members with
  | nil => simp [FitsIndexesMembers]
  | cons member rest ih =>
    obtain ⟨key, json⟩ := member
    rw [FitsIndexesMembers, ih, List.forall_mem_cons]

theorem isSortedItems_iff {items : List Json} :
    IsSortedItems items ↔ ∀ item ∈ items, item.IsSorted := by
  induction items with
  | nil => simp [IsSortedItems]
  | cons item rest ih => rw [IsSortedItems, ih, List.forall_mem_cons]

/-- What holds of a value and is handed down to items and members holds at every path. -/
theorem at?_induction {P : Json → Prop} (hitem : ∀ items, P (.array items) → ∀ item ∈ items, P item)
    (hmember : ∀ members, P (.object members) → ∀ member ∈ members, P member.2)
    {path : List String} {data value : Json} (hdata : P data) (hat : data.at? path = some value) :
    P value := by
  induction path generalizing data with
  | nil => exact Option.some.inj hat ▸ hdata
  | cons name rest ih =>
    cases data with
    | object members =>
      obtain ⟨inner, hinner, hrest⟩ := Option.bind_eq_some_iff.mp hat
      exact ih (hmember members hdata _ (Dictionary.mem_of_get? hinner)) hrest
    | array items =>
      obtain ⟨inner, hinner, hrest⟩ := Option.bind_eq_some_iff.mp hat
      obtain ⟨index, -, hindex⟩ := Option.bind_eq_some_iff.mp hinner
      exact ih (hitem items hdata inner (List.mem_of_getElem? hindex)) hrest
    | _ => cases hat

/-- Sorted data with arrays that 64 bits count hold their items. -/
theorem IsSorted.holdsItems {data : Json} (hsorted : data.IsSorted) (hfits : data.FitsIndexes) :
    Template.HoldsItems data := by
  intro path value hat
  have hvalue : value.IsSorted ∧ value.FitsIndexes := by
    refine at?_induction (P := fun value => value.IsSorted ∧ value.FitsIndexes) ?_ ?_
      ⟨hsorted, hfits⟩ hat
    · rintro items ⟨hsorted, hfits⟩ item hmem
      exact ⟨isSortedItems_iff.mp hsorted item hmem, fitsIndexesItems_iff.mp hfits.2 item hmem⟩
    · rintro members ⟨hsorted, hfits⟩ member hmem
      exact ⟨isSortedMembers_iff.mp hsorted.2 member hmem,
        fitsIndexesMembers_iff.mp hfits member hmem⟩
  cases value with
  | array items => exact Template.leadsToItems_array hvalue.2.1
  | object members => exact Template.leadsToItems_object hvalue.1.1
  | _ => exact fun _ hitem => absurd hitem List.not_mem_nil

end Json

namespace Template

/-! ## The place of an item -/

section Items

variable {place : Place} {operand : Operand} {value : Json}

theorem stepNames_map (path : List String) : stepNames (path.map .name) = path := by
  induction path with
  | nil => rfl
  | cons name rest ih => exact congrArg (name :: ·) ih

/-- A path of names whose first one no block has given starts at the current scope. -/
theorem value?_names {path : List String} (text : String)
    (hfree : ∀ name ∈ path.head?, bound? name place.scopes = none) :
    place.value? (.path (path.map .name) text) = (place.startOf? 0).bind (Json.at? path) := by
  cases path with
  | nil => rfl
  | cons name rest =>
    have hname : bound? name place.scopes = none := hfree name rfl
    have hsteps := stepNames_map (name :: rest)
    simp only [List.map_cons] at hsteps ⊢
    simp [Place.value?, firstName?, hname, ascent, hsteps]

/-- The value that a name of a block stands for, the path being that of its scope. -/
def Bound.value? (data : Json) (path : List String) : Bound → Option Json
  | .here => data.at? path
  | .value own => some own

end Items

/-! ## Rendering every item -/

/-- A call of `each` whose first parameter has this value in a place. -/
structure Call.Iterates (call : Call) (place : Place) (operand : Operand) (value : Json) :
    Prop where
  name_eq : call.name = BlockHelper.each.name
  params : ∃ rest, evalParams place call.params = .ok (operand :: rest)
  hash : ∃ hash, evalHash place call.hash = .ok hash
  value_eq : operand.value = some value

section Calls

variable {call call' : Call} {place : Place} {operand operand' : Operand} {value : Json}
  {main : List Element} {visit : List Element → Place → Render Unit} {names : BlockParam}
  {body : List Element} {inverse : Option (List Element)}

/-- The operand of a call is located where its value is. -/
theorem Call.Iterates.located (h : call.Iterates place operand value) {path : List String}
    (hpath : operand.location = some path) : place.data.at? path = some value := by
  obtain ⟨rest, hparams⟩ := h.params
  have halike := (Place.Alike.refl place).evalParams call.params
  rw [hparams] at halike
  cases halike with
  | ok halike =>
    cases halike with
    | cons hoperand _ => exact (hoperand.located_at h.value_eq).1 path hpath

end Calls

end Template

open Template

end Pipewright
