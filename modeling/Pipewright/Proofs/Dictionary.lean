import Mathlib.Data.List.Nodup
import Pipewright.Proofs.Json.Sorted

set_option autoImplicit false

/-! # Dictionaries laid over each other

A dictionary is determined by what is found in it (`IsSorted.eq_of_get?_eq`), so a law about whole
dictionaries follows from what it says of a single key. In this way overlays one after the other are
one overlay (`union_union`), and a dictionary over itself is the same again (`union_self`). A
dictionary that is made of a list of pairs holds the last pair of each key (`get?_ofList_reverse`).
-/

namespace Pipewright.Dictionary

variable {α : Type} {base overlay first second : Dictionary α}

/-! ## Dictionaries by their values -/

theorem IsSorted.mem_iff (h : IsSorted base) {key : String} {value : α} :
    (key, value) ∈ base ↔ get? key base = some value :=
  ⟨get?_of_mem h.nodup, mem_of_get?⟩

/-- Dictionaries in which the same is found are the same. -/
theorem IsSorted.eq_of_get?_eq (hfirst : IsSorted first) (hsecond : IsSorted second)
    (h : ∀ key, get? key first = get? key second) : first = second := by
  have hmem : ∀ pair, pair ∈ first ↔ pair ∈ second := by
    rintro ⟨key, value⟩
    rw [hfirst.mem_iff, hsecond.mem_iff, h key]
  have hperm : first.Perm second :=
    (List.perm_ext_iff_of_nodup hfirst.nodup.of_map hsecond.nodup.of_map).2 hmem
  -- the keys ascend in both, which leaves one order
  have hascend : ∀ {pairs : Dictionary α}, IsSorted pairs → pairs.Pairwise fun a b => a.1 < b.1 :=
    fun h => List.pairwise_map.1 h
  exact hperm.eq_of_pairwise (fun _ _ _ _ hlt hgt => absurd hgt (String.lt_asymm hlt))
    (hascend hfirst) (hascend hsecond)

/-! ## Overlays -/

theorem isSorted_union (h : IsSorted base) (overlay : Dictionary α) :
    IsSorted (union base overlay) := by
  induction overlay generalizing base with
  | nil => exact h
  | cons pair rest ih => exact ih (h.insert pair.1 pair.2)

/-- An overlay counts more than what lies below it. -/
theorem IsSorted.get?_union (h : IsSorted overlay) (base : Dictionary α) (key : String) :
    get? key (union base overlay) = (get? key overlay).or (get? key base) := by
  rw [Dictionary.get?_union, ← ofList, ofList_eq h]

/-- The keys of both, and no others. -/
theorem IsSorted.mem_keys_union (h : IsSorted overlay) (base : Dictionary α) (key : String) :
    key ∈ (union base overlay).map (·.1) ↔ key ∈ overlay.map (·.1) ∨ key ∈ base.map (·.1) := by
  rw [← not_iff_not, not_or, ← get?_eq_none_iff, ← get?_eq_none_iff, ← get?_eq_none_iff,
    h.get?_union, Option.or_eq_none_iff]

/-- Overlays one after the other are one overlay. -/
theorem union_union (hbase : IsSorted base) (hfirst : IsSorted first) (hsecond : IsSorted second) :
    union (union base first) second = union base (union first second) := by
  refine IsSorted.eq_of_get?_eq (isSorted_union (isSorted_union hbase first) second)
    (isSorted_union hbase _) fun key => ?_
  rw [hsecond.get?_union, hfirst.get?_union, (isSorted_union hfirst second).get?_union,
    hsecond.get?_union, Option.or_assoc]

theorem union_self (h : IsSorted overlay) : union overlay overlay = overlay :=
  IsSorted.eq_of_get?_eq (isSorted_union h overlay) h fun key => by
    rw [h.get?_union, Option.or_self]

/-- The last pair of a key is the one that is kept. -/
theorem get?_ofList_reverse (key : String) (pairs : List (String × α)) :
    get? key (ofList pairs) = get? key pairs.reverse := by
  induction pairs with
  | nil => rfl
  | cons pair rest ih =>
    change get? key (union [pair] rest) = _
    rw [Dictionary.get?_union, ← ofList, ih, List.reverse_cons, get?_append]

theorem get?_eq_some_iff {key : String} {value : α} {pairs : List (String × α)} :
    get? key pairs = some value ↔
      ∃ before after, pairs = before ++ (key, value) :: after ∧ key ∉ before.map (·.1) := by
  induction pairs with
  | nil => simp [get?]
  | cons pair rest ih =>
    obtain ⟨other, found⟩ := pair
    rw [get?]
    by_cases hkey : other = key
    · subst hkey
      rw [if_pos rfl, Option.some.injEq]
      constructor
      · rintro rfl
        exact ⟨[], rest, rfl, List.not_mem_nil⟩
      · rintro ⟨_ | ⟨first, before⟩, after, hpairs, hnew⟩
        · cases hpairs
          rfl
        · cases hpairs
          exact absurd List.mem_cons_self hnew
    · rw [if_neg hkey, ih]
      constructor
      · rintro ⟨before, after, rfl, hnew⟩
        exact ⟨(other, found) :: before, after, rfl, by simp [Ne.symm hkey, hnew]⟩
      · rintro ⟨_ | ⟨first, before⟩, after, hpairs, hnew⟩
        · cases hpairs
          exact absurd rfl hkey
        · cases hpairs
          exact ⟨before, after, rfl, fun h => hnew (List.mem_cons_of_mem _ h)⟩

theorem get?_ofList_eq_some_iff {key : String} {value : α} {pairs : List (String × α)} :
    get? key (ofList pairs) = some value ↔
      ∃ before after, pairs = before ++ (key, value) :: after ∧ key ∉ after.map (·.1) := by
  rw [get?_ofList_reverse, get?_eq_some_iff]
  constructor
  · rintro ⟨after, before, hpairs, hlast⟩
    refine ⟨before.reverse, after.reverse, ?_, by simpa using hlast⟩
    rw [← List.reverse_reverse pairs, hpairs]
    simp
  · rintro ⟨before, after, rfl, hlast⟩
    exact ⟨after.reverse, before.reverse, by simp, by simpa using hlast⟩

end Pipewright.Dictionary
