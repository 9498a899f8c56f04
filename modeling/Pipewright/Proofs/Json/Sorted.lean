import Pipewright.Proofs.Json.Values

set_option autoImplicit false

/-! # Values with sorted objects

A dictionary of pairs that ascend already is the list of these pairs (`Dictionary.ofList_eq`), and
every dictionary ascends (`Dictionary.isSorted_ofList`). `Json.IsSorted` says of a value that the
members of all its objects ascend, and `Json.sorted` is the value with its members brought into
this order, the last member of a key winning. -/

namespace Pipewright

namespace Dictionary

variable {α : Type}

theorem mem_insert {key : String} {value : α} {dictionary : Dictionary α} {pair : String × α}
    (h : pair ∈ insert key value dictionary) : pair = (key, value) ∨ pair ∈ dictionary := by
  induction dictionary with
  | nil => exact .inl (List.mem_singleton.mp h)
  | cons first rest ih =>
    unfold insert at h
    split at h
    · exact List.mem_cons.mp h
    · split at h
      · exact (List.mem_cons.mp h).imp_right (List.mem_cons_of_mem _)
      · rcases List.mem_cons.mp h with rfl | hrest
        · exact .inr List.mem_cons_self
        · exact (ih hrest).imp_right (List.mem_cons_of_mem _)

theorem mem_of_mem_ofList {pairs : List (String × α)} {pair : String × α}
    (h : pair ∈ ofList pairs) : pair ∈ pairs := by
  suffices ∀ base : Dictionary α, pair ∈ union base pairs → pair ∈ base ∨ pair ∈ pairs from
    (this [] h).resolve_left List.not_mem_nil
  clear h
  induction pairs with
  | nil => exact fun base h => .inl h
  | cons first rest ih =>
    intro base h
    rcases ih _ h with hinsert | hrest
    · rcases mem_insert hinsert with rfl | hbase
      · exact .inr List.mem_cons_self
      · exact .inl hbase
    · exact .inr (List.mem_cons_of_mem _ hrest)

theorem IsSorted.insert {dictionary : Dictionary α} (h : IsSorted dictionary) (key : String)
    (value : α) : IsSorted (insert key value dictionary) := by
  induction dictionary with
  | nil => exact List.pairwise_singleton _ _
  | cons pair rest ih =>
    obtain ⟨first, other⟩ := pair
    obtain ⟨hfirst, hrest⟩ := List.pairwise_cons.mp h
    unfold Dictionary.insert
    split
    · next hlt =>
      -- the new key is less than the first, and so than all others
      refine List.pairwise_cons.mpr ⟨fun later hlater => ?_, h⟩
      rcases List.mem_cons.mp hlater with rfl | hlater
      · exact hlt
      · exact String.lt_trans hlt (hfirst later hlater)
    · next hlt =>
      split
      · next heq =>
        subst heq
        exact List.pairwise_cons.mpr ⟨hfirst, hrest⟩
      · next hne =>
        refine List.pairwise_cons.mpr ⟨List.forall_mem_map.mpr fun later hlater => ?_, ih hrest⟩
        rcases mem_insert hlater with rfl | hlater
        · exact Decidable.byContradiction fun hge =>
            hne (String.le_antisymm (String.not_lt.mp hlt) (String.not_lt.mp hge))
        · exact hfirst later.1 (List.mem_map_of_mem hlater)

theorem isSorted_ofList (pairs : List (String × α)) : IsSorted (ofList pairs) := by
  suffices ∀ base : Dictionary α, IsSorted base → IsSorted (union base pairs) from
    this [] List.Pairwise.nil
  induction pairs with
  | nil => exact fun base h => h
  | cons pair rest ih => exact fun base h => ih _ (h.insert pair.1 pair.2)

/-- A key behind all others is bound at the end. -/
theorem insert_eq_append {key : String} {value : α} {dictionary : Dictionary α}
    (h : ∀ other ∈ dictionary.map (·.1), other < key) :
    insert key value dictionary = dictionary ++ [(key, value)] := by
  induction dictionary with
  | nil => rfl
  | cons pair rest ih =>
    obtain ⟨first, other⟩ := pair
    rw [List.map_cons, List.forall_mem_cons] at h
    have hlt : ¬ key < first := String.lt_asymm h.1
    have hne : first ≠ key := fun heq => String.lt_irrefl key (heq ▸ h.1)
    rw [insert, if_neg hlt, if_neg hne, ih h.2]
    rfl

/-- The dictionary of pairs that ascend is the list of these pairs. -/
theorem ofList_eq {pairs : List (String × α)} (h : IsSorted pairs) : ofList pairs = pairs := by
  suffices ∀ base : Dictionary α, IsSorted (base ++ pairs) → union base pairs = base ++ pairs from
    this [] h
  clear h
  induction pairs with
  | nil => exact fun base _ => (List.append_nil base).symm
  | cons pair rest ih =>
    intro base h
    have happend : base ++ pair :: rest = base ++ [pair] ++ rest := by simp
    have hlast : ∀ other ∈ base.map (·.1), other < pair.1 := by
      intro other hother
      rw [IsSorted, List.map_append, List.pairwise_append] at h
      exact h.2.2 other hother pair.1 (by simp)
    rw [union, List.foldl_cons, insert_eq_append hlast, happend]
    exact ih _ (happend ▸ h)

/-- Without repeated keys, every pair is found in the dictionary. -/
theorem get?_ofList (key : String) {pairs : List (String × α)}
    (h : (pairs.map (·.1)).Nodup) : get? key (ofList pairs) = get? key pairs := by
  induction pairs with
  | nil => rfl
  | cons pair rest ih =>
    obtain ⟨first, value⟩ := pair
    obtain ⟨hfirst, hrest⟩ := List.nodup_cons.mp h
    change get? key (union [(first, value)] rest) = _
    rw [get?_union, ← ofList, ih hrest]
    by_cases heq : first = key
    · subst heq
      simp [get?, get?_eq_none_iff.mpr hfirst]
    · simp [get?, heq]

theorem IsSorted.nodup {dictionary : Dictionary α} (h : IsSorted dictionary) :
    (dictionary.map (·.1)).Nodup :=
  List.Pairwise.imp String.ne_of_lt h

end Dictionary

namespace Json

mutual

/-- The members of every object ascend, at any depth. -/
def IsSorted : Json → Prop
  | .null | .bool _ | .number _ | .string _ => True
  | .array items => IsSortedItems items
  | .object members => Dictionary.IsSorted members ∧ IsSortedMembers members

/-- `IsSorted` of every item. -/
def IsSortedItems : List Json → Prop
  | [] => True
  | json :: rest => json.IsSorted ∧ IsSortedItems rest

/-- `IsSorted` of every member. -/
def IsSortedMembers : List (String × Json) → Prop
  | [] => True
  | (_, json) :: rest => json.IsSorted ∧ IsSortedMembers rest

end

mutual

/-- The value with the members of every object in ascending order. -/
def sorted : Json → Json
  | .null => .null
  | .bool b => .bool b
  | .number n => .number n
  | .string s => .string s
  | .array items => .array (sortedItems items)
  | .object members => .object (Dictionary.ofList (sortedMembers members))

/-- `sorted` of every item. -/
def sortedItems : List Json → List Json
  | [] => []
  | json :: rest => json.sorted :: sortedItems rest

/-- `sorted` of every member. -/
def sortedMembers : List (String × Json) → List (String × Json)
  | [] => []
  | (key, json) :: rest => (key, json.sorted) :: sortedMembers rest

end

mutual

/-- A value that is sorted stays as it is. -/
theorem IsSorted.sorted_eq : ∀ {json : Json}, json.IsSorted → json.sorted = json
  | .null, _ | .bool _, _ | .number _, _ | .string _, _ => rfl
  | .array items, h => by
    rw [IsSorted] at h
    rw [sorted, h.sortedItems_eq]
  | .object members, h => by
    rw [IsSorted] at h
    rw [sorted, h.2.sortedMembers_eq, Dictionary.ofList_eq h.1]

theorem IsSortedItems.sortedItems_eq : ∀ {items : List Json}, IsSortedItems items →
    sortedItems items = items
  | [], _ => rfl
  | json :: rest, h => by
    rw [IsSortedItems] at h
    rw [sortedItems, h.1.sorted_eq, h.2.sortedItems_eq]

theorem IsSortedMembers.sortedMembers_eq : ∀ {members : List (String × Json)},
    IsSortedMembers members → sortedMembers members = members
  | [], _ => rfl
  | (key, json) :: rest, h => by
    rw [IsSortedMembers] at h
    rw [sortedMembers, h.1.sorted_eq, h.2.sortedMembers_eq]

end

theorem isSortedMembers_iff {members : List (String × Json)} :
    IsSortedMembers members ↔ ∀ member ∈ members, member.2.IsSorted := by
  induction members with
  | nil => simp [IsSortedMembers]
  | cons member rest ih =>
    obtain ⟨key, json⟩ := member
    rw [IsSortedMembers, ih, List.forall_mem_cons]

theorem isSortedMembers_ofList {pairs : List (String × Json)} (h : IsSortedMembers pairs) :
    IsSortedMembers (Dictionary.ofList pairs) :=
  isSortedMembers_iff.mpr fun member hmember =>
    isSortedMembers_iff.mp h member (Dictionary.mem_of_mem_ofList hmember)

end Json

end Pipewright
