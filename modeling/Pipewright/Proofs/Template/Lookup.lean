import Pipewright.Template.Render

set_option autoImplicit false

/-! # Looking references up

`Place.value?` says what a reference stands for: a path starts at the value of a scope, at what a
block has named, or at the whole data, and leads on by members and items (`Json.at?`). A reference
is absent where this gives nothing; null is a value like any other.

`Place.resolve` finds this value (`resolve_gives`); where there is none it either meets a fault or
gives an operand without a value, and `Lookup.fault` is the fault that becomes of it. -/

namespace Pipewright

/-- The value that names lead to, by one member or item after another. -/
def Json.at? : List String → Json → Option Json
  | [], value => some value
  | name :: rest, .object members => (Dictionary.get? name members).bind (at? rest)
  | name :: rest, .array items =>
    ((Template.index? name).bind fun index => items[index]?).bind (at? rest)
  | _ :: _, _ => none

namespace Template

namespace Place

/-- The value of a scope: its own, or the one at its place in the data. -/
def scopeValue? (place : Place) (scope : Scope) : Option Json :=
  scope.value.or (place.data.at? scope.path)

/-- The value of the scope that a path of this many steps up starts from. -/
def startOf? (place : Place) (level : Nat) : Option Json :=
  match (place.scopes[level]?).or place.scopes.head? with
  | some scope => place.scopeValue? scope
  | none => some place.data

/-- The value that a reference stands for, if there is one. -/
def value? (place : Place) : Reference → Option Json
  | .variable level name _ =>
    (place.scopes[level]?).bind fun scope => (scope.locals.find? (·.1 == name)).map (·.2)
  | .path steps _ =>
    match (firstName? steps).bind fun name => bound? name place.scopes with
    | some (.value value, _) => value.at? (stepNames (steps.drop 1))
    | some (.here, path) => (place.data.at? path).bind (Json.at? (stepNames (steps.drop 1)))
    | none =>
      if steps.head? = some .root then place.data.at? (stepNames steps)
      else (place.startOf? (ascent steps)).bind (Json.at? (stepNames steps))

end Place

/-! ## Following names -/

theorem at?_append (names rest : List String) (value : Json) :
    value.at? (names ++ rest) = (value.at? names).bind (Json.at? rest) := by
  induction names generalizing value with
  | nil => rfl
  | cons name names ih =>
    cases value with
    | object members =>
      simp only [List.cons_append, Json.at?]
      cases Dictionary.get? name members with
      | none => rfl
      | some member => exact ih member
    | array items =>
      simp only [List.cons_append, Json.at?]
      cases (index? name).bind fun index => items[index]? with
      | none => rfl
      | some item => exact ih item
    | _ => rfl

theorem follow_none (names : List String) : follow names none = .ok none := by
  induction names with
  | nil => rfl
  | cons name rest ih => exact ih

/-- Following names gives the value that they lead to, and a fault only where they lead to none. -/
theorem toOption_follow (names : List String) (value : Json) :
    (follow names (some value)).toOption.join = value.at? names := by
  induction names generalizing value with
  | nil => rfl
  | cons name rest ih =>
    cases value with
    | object members =>
      simp only [follow, select, Json.at?, bind, Except.bind]
      cases Dictionary.get? name members with
      | none => rw [follow_none]; rfl
      | some member => exact ih member
    | array items =>
      simp only [follow, select, Json.at?, bind, Except.bind]
      cases index? name with
      | none => rfl
      | some index =>
        cases h : items[index]? with
        | none => simp only [Option.bind, h]; rw [follow_none]; rfl
        | some item => simpa only [Option.bind, h] using ih item
    | _ => simp only [follow, select, Json.at?, bind, Except.bind]; rw [follow_none]; rfl

/-! ## Resolving references -/

/-- What resolving gives where a reference stands for this value, or for none: an operand that
    keeps how the reference was written, with a location only where the value is in the data, or a
    fault if there is no value. -/
def Gives (data : Json) (text : String) (value : Option Json) :
    Except RenderFault Operand → Prop
  | .ok operand => operand.text = some text ∧ operand.value = value ∧
    ∀ path, operand.location = some path → data.at? path = value
  | .error _ => value = none

namespace Place

variable (place : Place) (text : String)

theorem atPath_gives (path : List String) :
    Gives place.data text (place.data.at? path) (place.atPath text path) := by
  have h := toOption_follow path place.data
  unfold atPath
  cases hfollow : follow path (some place.data) with
  | error fault =>
    rw [hfollow] at h
    exact h.symm
  | ok value =>
    rw [hfollow] at h
    refine ⟨rfl, h, fun other hlocation => ?_⟩
    cases value with
    | none => cases hlocation
    | some value => cases hlocation; rfl

theorem inValue_gives (value : Json) (names : List String) :
    Gives place.data text (value.at? names) (inValue value text names) := by
  have h := toOption_follow names value
  unfold inValue
  cases hfollow : follow names (some value) with
  | error fault =>
    rw [hfollow] at h
    exact h.symm
  | ok found =>
    rw [hfollow] at h
    exact ⟨rfl, h, fun _ hlocation => by cases hlocation⟩

theorem fromScope_gives (level : Nat) (names : List String) :
    Gives place.data text ((place.startOf? level).bind (Json.at? names))
      (place.fromScope ((place.scopes[level]?).or place.scopes.head?) text names) := by
  unfold fromScope startOf? scopeValue?
  cases (place.scopes[level]?).or place.scopes.head? with
  | none => exact place.atPath_gives text names
  | some scope =>
    cases hvalue : scope.value with
    | some value => simpa [hvalue] using place.inValue_gives text value names
    | none =>
      simp only [hvalue, Option.none_or]
      rw [← at?_append]
      exact place.atPath_gives text (scope.path ++ names)

/-- Resolving a reference gives the value that it stands for. -/
theorem resolve_gives (reference : Reference) :
    Gives place.data reference.text (place.value? reference) (place.resolve reference) := by
  match reference with
  | .variable level name text => exact ⟨rfl, rfl, fun _ hlocation => by cases hlocation⟩
  | .path steps text =>
    simp only [resolve, value?, Reference.text]
    cases (firstName? steps).bind fun name => bound? name place.scopes with
    | some found =>
      rcases found with ⟨_ | value, path⟩
      · have hplace := place.atPath_gives text (path ++ stepNames (steps.drop 1))
        rw [at?_append] at hplace
        exact hplace
      · exact place.inValue_gives text value _
    | none =>
      by_cases hroot : steps.head? = some .root
      · -- a path from the root has no steps up at its front
        have hascent : ascent steps = 0 := by
          cases steps with
          | nil => rfl
          | cons step rest => cases hroot; rfl
        simp only [hascent, hroot, if_true]
        exact place.atPath_gives text _
      · have hscope := place.fromScope_gives text (ascent steps) (stepNames steps)
        simp only [hroot, if_false]
        cases hascent : ascent steps with
        | zero =>
          have hcurrent : (place.scopes[0]?).or place.scopes.head? = place.scopes.head? := by
            cases place.scopes <;> rfl
          rw [hascent, hcurrent] at hscope
          exact hscope
        | succ level =>
          rw [hascent] at hscope
          exact hscope

end Place

/-! ## Lookups -/

/-- A reference that is looked up from a place. -/
structure Lookup where
  reference : Reference
  place : Place

namespace Lookup

/-- Whether the reference stands for no value there. -/
def isAbsent (lookup : Lookup) : Bool := (lookup.place.value? lookup.reference).isNone

/-- The fault of an absent reference: the one that resolving it meets, or that it is missing. -/
def fault (lookup : Lookup) : RenderFault :=
  match lookup.place.resolve lookup.reference with
  | .error fault => fault
  | .ok operand => .missing operand.text

end Lookup

end Template

end Pipewright
