import Pipewright.Proofs.Json.Sorted
import Pipewright.Proofs.Template.Strict

set_option autoImplicit false

/-! # The scopes that blocks open

Paths in the body of a block start at the value that the block is about. In `with` this is the
value of its parameter (`startOf?_withPlace`), in `each` the item (`startOf?_itemScope`); `if` and
`unless` stay where they are. An item of `each` is found again by the step that leads to it, which
holds of objects with each key once and of arrays whose indexes fit 64 bits (`LeadsToItems`). -/

namespace Pipewright

namespace Template

/-- A number of 64 bits is the index that its digits stand for. -/
theorem index?_toString {n : Nat} (h : n < twoPow 64) : index? (toString n) = some n := by
  have hdigits : ∀ c ∈ Nat.toDigits 10 n, c.isDigit := fun c hc =>
    Nat.isDigit_of_mem_toDigits (by decide) (by decide) hc
  have hvalue := @Nat.ofDigitChars_ten_toDigits n
  have htext : (toString n).toList = Nat.toDigits 10 n := Nat.toList_repr
  unfold index?
  rw [htext]
  cases hlist : Nat.toDigits 10 n with
  | nil => exact absurd hlist Nat.toDigits_ne_nil
  | cons c rest =>
    rw [hlist] at hdigits hvalue
    have hplus : c ≠ '+' := by
      rintro rfl
      exact absurd (hdigits '+' (List.mem_cons_self ..)) (by decide)
    have hall : (c :: rest).all Char.isDigit := List.all_eq_true.mpr hdigits
    have hfold : (c :: rest).foldl (fun n c => n * 10 + (c.toNat - 48)) 0 = n := by
      rw [Nat.ofDigitChars_eq_foldl] at hvalue
      simpa [Nat.mul_comm] using hvalue
    split
    · next heq => exact absurd (List.cons.inj heq).1 hplus
    · rw [if_pos ⟨List.cons_ne_nil c rest, hall⟩, hfold, if_pos h]

/-- Each item of the value is where its step leads. -/
def LeadsToItems (value : Json) : Prop :=
  ∀ item ∈ itemsOf value, value.at? [item.step] = some item.value

theorem leadsToItems_array {items : List Json} (h : items.length ≤ twoPow 64) :
    LeadsToItems (.array items) := by
  intro item hmem
  obtain ⟨index, hindex, rfl⟩ := List.mem_mapIdx.mp hmem
  simp only [Json.at?, index?_toString (Nat.lt_of_lt_of_le hindex h), Option.bind_some,
    List.getElem?_eq_getElem hindex]

theorem leadsToItems_object {members : Dictionary Json} (h : Dictionary.IsSorted members) :
    LeadsToItems (.object members) := by
  intro item hmem
  obtain ⟨⟨key, value⟩, hpair, rfl⟩ := List.mem_map.mp hmem
  simp only [Json.at?, Dictionary.get?_of_mem h.nodup hpair]
  rfl

variable {place : Place} {operand : Operand} {value : Json}

/-- Paths start at the value of `with` if it is located there. -/
theorem startOf?_withPlace
    (hlocated : ∀ path, operand.location = some path → place.data.at? path = some value)
    (names : BlockParam) : (place.withPlace operand value names).startOf? 0 = some value := by
  unfold Place.startOf? Place.withPlace Place.enter Place.scopeValue? Scope.ofOperand
  cases hlocation : operand.location with
  | none => rfl
  | some path => simpa using hlocated path hlocation

/-- Paths start at the item if it is located where its value is. -/
theorem startOf?_itemScope {item : Item}
    (hlocated : ∀ path, operand.location = some path →
      place.data.at? (path ++ [item.step]) = some item.value)
    (isObject : Bool) (count index : Nat) (names : BlockParam) :
    (place.enter (itemScope operand isObject count index item names)).startOf? 0 =
      some item.value := by
  unfold Place.startOf? Place.enter Place.scopeValue? itemScope
  cases hlocation : operand.location with
  | none => rfl
  | some path => simpa using hlocated path hlocation

end Template

end Pipewright
