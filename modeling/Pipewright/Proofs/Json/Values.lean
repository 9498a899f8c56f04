import Pipewright.Json.Value

set_option autoImplicit false

/-! # The parts of values

What a value is made of, seen from its members: `IsText`, `IsArray` and `IsObject` say what kind
of value it is, `itemsAt` gives the items of the array at a key, `depth` is how far containers
nest, and `KeysOnce` says that no object repeats a key. The parts of a value nest less than the
value does, and repeat no keys if it repeats none. -/

namespace Pipewright

namespace Dictionary

variable {α : Type}

theorem get?_eq_none_iff {key : String} {pairs : List (String × α)} :
    get? key pairs = none ↔ key ∉ pairs.map (·.1) := by
  induction pairs with
  | nil => simp [get?]
  | cons pair rest ih =>
    obtain ⟨k, v⟩ := pair
    by_cases hk : k = key
    · simp [get?, hk]
    · simp [get?, hk, ih, Ne.symm hk]

theorem mem_of_get? {key : String} {value : α} {pairs : List (String × α)}
    (h : get? key pairs = some value) : (key, value) ∈ pairs := by
  induction pairs with
  | nil => cases h
  | cons pair rest ih =>
    obtain ⟨k, v⟩ := pair
    unfold get? at h
    split at h
    · next hk => subst hk; cases h; exact List.mem_cons_self
    · exact List.mem_cons_of_mem _ (ih h)

/-- Without repeated keys, every pair is found by its key. -/
theorem get?_of_mem {key : String} {value : α} {pairs : List (String × α)}
    (h : (pairs.map (·.1)).Nodup) (hmem : (key, value) ∈ pairs) : get? key pairs = some value := by
  induction pairs with
  | nil => cases hmem
  | cons pair rest ih =>
    obtain ⟨k, v⟩ := pair
    obtain ⟨hfirst, hrest⟩ := List.nodup_cons.mp h
    unfold get?
    rcases List.mem_cons.mp hmem with heq | hmem
    · cases heq
      rw [if_pos rfl]
    · have hne : k ≠ key := fun hk => hfirst (List.mem_map.mpr ⟨_, hmem, hk.symm⟩)
      rw [if_neg hne]
      exact ih hrest hmem

theorem get?_append (key : String) (first second : List (String × α)) :
    get? key (first ++ second) = (get? key first).or (get? key second) := by
  induction first with
  | nil => rfl
  | cons pair rest ih =>
    obtain ⟨k, v⟩ := pair
    by_cases hk : k = key
    · simp [get?, hk]
    · simp [get?, hk, ih]

theorem get?_map {β : Type} (f : α → β) (key : String) (pairs : List (String × α)) :
    get? key (pairs.map fun pair => (pair.1, f pair.2)) = (get? key pairs).map f := by
  induction pairs with
  | nil => rfl
  | cons pair rest ih =>
    obtain ⟨k, v⟩ := pair
    by_cases hk : k = key
    · simp [get?, hk]
    · simp [get?, hk, ih]

theorem get?_filter {key other : String} (pairs : List (String × α)) (hne : key ≠ other) :
    get? key (pairs.filter (·.1 ≠ other)) = get? key pairs := by
  induction pairs with
  | nil => rfl
  | cons pair rest ih =>
    obtain ⟨k, v⟩ := pair
    by_cases hk : k = other
    · subst hk
      simpa [get?, Ne.symm hne] using ih
    · rw [List.filter_cons_of_pos (by simpa using hk)]
      simp only [get?, ih]

end Dictionary

namespace Json

/-! ## Kinds of values -/

def IsText (json : Json) : Prop := ∃ text, json = .string text

def IsArray (json : Json) : Prop := ∃ items, json = .array items

def IsObject (json : Json) : Prop := ∃ members, json = .object members

instance (json : Json) : Decidable json.IsText :=
  match json with
  | .string text => isTrue ⟨text, rfl⟩
  | .null | .bool _ | .number _ | .array _ | .object _ => isFalse fun ⟨_, h⟩ => nomatch h

instance (json : Json) : Decidable json.IsArray :=
  match json with
  | .array items => isTrue ⟨items, rfl⟩
  | .null | .bool _ | .number _ | .string _ | .object _ => isFalse fun ⟨_, h⟩ => nomatch h

instance (json : Json) : Decidable json.IsObject :=
  match json with
  | .object members => isTrue ⟨members, rfl⟩
  | .null | .bool _ | .number _ | .string _ | .array _ => isFalse fun ⟨_, h⟩ => nomatch h

/-- The items of the array at a key, none if there is no array. -/
def itemsAt (key : String) (json : Json) : List Json :=
  match json.member? key with
  | some (.array items) => items
  | _ => []

/-! ## Depth and repeated keys -/

mutual

/-- How many containers are open at once in a value. -/
def depth : Json → Nat
  | .null | .bool _ | .number _ | .string _ => 0
  | .array items => depthItems items + 1
  | .object members => depthMembers members + 1

/-- The greatest depth of an item. -/
def depthItems : List Json → Nat
  | [] => 0
  | json :: rest => max json.depth (depthItems rest)

/-- The greatest depth of a member. -/
def depthMembers : List (String × Json) → Nat
  | [] => 0
  | (_, json) :: rest => max json.depth (depthMembers rest)

end

mutual

/-- No object repeats a key, at any depth. -/
def KeysOnce : Json → Prop
  | .null | .bool _ | .number _ | .string _ => True
  | .array items => KeysOnceItems items
  | .object members => (members.map (·.1)).Nodup ∧ KeysOnceMembers members

/-- `KeysOnce` of every item. -/
def KeysOnceItems : List Json → Prop
  | [] => True
  | json :: rest => json.KeysOnce ∧ KeysOnceItems rest

/-- `KeysOnce` of every member. -/
def KeysOnceMembers : List (String × Json) → Prop
  | [] => True
  | (_, json) :: rest => json.KeysOnce ∧ KeysOnceMembers rest

end

theorem depth_le_depthItems {json : Json} {items : List Json} (h : json ∈ items) :
    json.depth ≤ depthItems items := by
  induction items with
  | nil => cases h
  | cons first rest ih =>
    rw [depthItems]
    rcases List.mem_cons.mp h with rfl | hrest
    · exact Nat.le_max_left _ _
    · exact Nat.le_trans (ih hrest) (Nat.le_max_right _ _)

theorem depth_le_depthMembers {key : String} {json : Json} {members : List (String × Json)}
    (h : (key, json) ∈ members) : json.depth ≤ depthMembers members := by
  induction members with
  | nil => cases h
  | cons first rest ih =>
    obtain ⟨k, v⟩ := first
    rw [depthMembers]
    rcases List.mem_cons.mp h with heq | hrest
    · cases heq; exact Nat.le_max_left _ _
    · exact Nat.le_trans (ih hrest) (Nat.le_max_right _ _)

theorem KeysOnceItems.of_mem {json : Json} {items : List Json} (h : KeysOnceItems items)
    (hmem : json ∈ items) : json.KeysOnce := by
  induction items with
  | nil => cases hmem
  | cons first rest ih =>
    rw [KeysOnceItems] at h
    rcases List.mem_cons.mp hmem with rfl | hrest
    · exact h.1
    · exact ih h.2 hrest

theorem KeysOnceMembers.of_mem {key : String} {json : Json} {members : List (String × Json)}
    (h : KeysOnceMembers members) (hmem : (key, json) ∈ members) : json.KeysOnce := by
  induction members with
  | nil => cases hmem
  | cons first rest ih =>
    obtain ⟨k, v⟩ := first
    rw [KeysOnceMembers] at h
    rcases List.mem_cons.mp hmem with heq | hrest
    · cases heq; exact h.1
    · exact ih h.2 hrest

theorem KeysOnce.nodup {members : List (String × Json)} (h : (Json.object members).KeysOnce) :
    (members.map (·.1)).Nodup := by
  rw [KeysOnce] at h
  exact h.1

theorem KeysOnce.of_member? {key : String} {json value : Json} (h : json.KeysOnce)
    (hmember : json.member? key = some value) : value.KeysOnce := by
  cases json with
  | object members =>
    rw [KeysOnce] at h
    exact h.2.of_mem (Dictionary.mem_of_get? hmember)
  | _ => cases hmember

theorem depth_lt_of_member? {key : String} {json value : Json}
    (hmember : json.member? key = some value) : value.depth < json.depth := by
  cases json with
  | object members =>
    rw [depth]
    exact Nat.lt_succ_of_le (depth_le_depthMembers (Dictionary.mem_of_get? hmember))
  | _ => cases hmember

theorem KeysOnce.of_itemsAt {key : String} {json item : Json} (h : json.KeysOnce)
    (hitem : item ∈ json.itemsAt key) : item.KeysOnce := by
  unfold itemsAt at hitem
  split at hitem
  · next items hmember =>
    have hitems := h.of_member? hmember
    rw [KeysOnce] at hitems
    exact hitems.of_mem hitem
  · cases hitem

theorem depth_lt_of_itemsAt {key : String} {json item : Json} (hitem : item ∈ json.itemsAt key) :
    item.depth + 1 < json.depth := by
  unfold itemsAt at hitem
  split at hitem
  · next items hmember =>
    have hlist := depth_lt_of_member? hmember
    have hle := depth_le_depthItems hitem
    rw [depth] at hlist
    omega
  · cases hitem

end Json

end Pipewright
