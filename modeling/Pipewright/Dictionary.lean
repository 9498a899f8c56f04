set_option autoImplicit false

/-! # Dictionaries

A dictionary is a list of key–value pairs in ascending order of the keys, so that it has one
written form.

* `get?` looks a key up, `insert` binds it (the last binding of a key wins), `union` overlays one
  dictionary on another, and `ofList` inserts one pair after another.
* `IsSorted` is the invariant; `insert`, `union` and `ofList` keep it.
* `get?_insert` says what `insert` does to `get?`. -/

namespace Pipewright

/-- Pairs in ascending order of their keys. -/
abbrev Dictionary (α : Type) := List (String × α)

namespace Dictionary

variable {α : Type}

/-- The value of a key. -/
def get? (key : String) : Dictionary α → Option α
  | [] => none
  | (k, v) :: rest => if k = key then some v else get? key rest

/-- Binds a key to a value, in place of the value that it had. -/
def insert (key : String) (value : α) : Dictionary α → Dictionary α
  | [] => [(key, value)]
  | (k, v) :: rest =>
    if key < k then (key, value) :: (k, v) :: rest
    else if k = key then (key, value) :: rest
    else (k, v) :: insert key value rest

/-- The first dictionary with every pair of the second inserted. -/
def union (base overlay : Dictionary α) : Dictionary α :=
  overlay.foldl (fun dictionary pair => insert pair.1 pair.2 dictionary) base

/-- The dictionary of a list of pairs, the last pair of a key winning. -/
def ofList (pairs : List (String × α)) : Dictionary α := union [] pairs

/-- The keys ascend strictly. -/
def IsSorted (dictionary : Dictionary α) : Prop :=
  (dictionary.map (·.1)).Pairwise (· < ·)

theorem get?_insert (key other : String) (value : α) (dictionary : Dictionary α) :
    get? other (insert key value dictionary) =
      if key = other then some value else get? other dictionary := by
  induction dictionary with
  | nil => simp [insert, get?]
  | cons pair rest ih =>
    obtain ⟨k, v⟩ := pair
    unfold insert
    split
    · rfl
    · split
      · next h => subst h; simp only [get?]; split <;> rfl
      · next h =>
        simp only [get?, ih]
        by_cases hk : k = other
        · subst hk; simp [Ne.symm h]
        · simp [hk]

theorem get?_union (key : String) (base overlay : Dictionary α) :
    get? key (union base overlay) = (get? key (union [] overlay)).or (get? key base) := by
  unfold union
  generalize hempty : ([] : Dictionary α) = start
  have hstart : get? key base = (get? key start).or (get? key base) := by
    subst hempty; simp [get?]
  clear hempty
  suffices ∀ (first second : Dictionary α), get? key first = (get? key second).or (get? key base) →
      get? key (overlay.foldl (fun dictionary pair => insert pair.1 pair.2 dictionary) first) =
        (get? key
          (overlay.foldl (fun dictionary pair => insert pair.1 pair.2 dictionary) second)).or
          (get? key base) from this base start hstart
  induction overlay with
  | nil => exact fun _ _ h => h
  | cons pair rest ih =>
    intro first second h
    apply ih
    rw [get?_insert, get?_insert]
    split
    · simp
    · exact h

end Dictionary

end Pipewright
