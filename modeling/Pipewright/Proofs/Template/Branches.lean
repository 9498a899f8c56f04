import Pipewright.Proofs.Template.Reads

set_option autoImplicit false

/-! # The branches of blocks

A block comes down to its body, in one place or several, or to what stands after its `else`. Which
it is follows from the value of its first parameter alone (`BlockHelper.branch`), and a block
without this value fails (`Call.branch_of_name`). The elements that are evaluated are those that
the branches lead to (`evaluated`). -/

namespace Pipewright.Template

/-- The branch that a helper takes with the value of its first parameter. -/
def BlockHelper.branch (place : Place) (operand : Operand) (value : Json) (names : BlockParam)
    (includeZero : Bool) : BlockHelper → Branch
  | .raw => .body [place]
  | .if_ => if value.isTruthy includeZero then .body [place] else .otherwise
  | .unless => if value.isTruthy includeZero then .otherwise else .body [place]
  | .with_ =>
    if value.isTruthy false then .body [place.withPlace operand value names] else .otherwise
  | .each =>
    match iterations place operand value names with
    | [] => .otherwise
    | places => .body places

section Branches

variable {call : Call} {helper : BlockHelper} {names : BlockParam} {place : Place}

/-- A block comes down to a branch of its helper once its parameters are evaluated and the first of
    them has a value. -/
theorem Call.branch_of_name (hname : call.name = helper.name) (hraw : helper ≠ .raw) :
    call.branch names place = do
      let operands ← evalParams place call.params
      let hash ← evalHash place call.hash
      let (operand, value) ← presentParam helper operands
      return helper.branch place operand value names (includesZero hash) := by
  unfold Call.branch
  rw [hname, Helper.ofName?_name]
  refine bind_congr fun operands => bind_congr fun hash => ?_
  cases helper with
  | raw => exact absurd rfl hraw
  | if_ | «unless» | with_ => rfl
  | each =>
    refine bind_congr fun ⟨operand, value⟩ => ?_
    simp only [BlockHelper.branch]
    cases iterations place operand value names <;> rfl

/-- A helper takes the same branch over other data. -/
theorem BlockHelper.branch_over (other : Json) (operand : Operand) (value : Json)
    (names : BlockParam) (includeZero : Bool) :
    helper.branch (place.over other) operand value names includeZero =
      (helper.branch place operand value names includeZero).over other := by
  cases helper with
  | raw => rfl
  | if_ | «unless» | with_ =>
    simp only [BlockHelper.branch]
    split <;> rfl
  | each =>
    simp only [BlockHelper.branch, iterations_over]
    cases iterations place operand value names <;> rfl

theorem presentParam_eq_ok_iff {operands : List Operand} {operand : Operand} {value : Json} :
    presentParam helper operands = .ok (operand, value) ↔
      operands.head? = some operand ∧ operand.value = some value := by
  cases operands with
  | nil => simp [presentParam]
  | cons first rest =>
    simp only [presentParam, List.head?_cons, Option.some.injEq]
    cases hvalue : first.value with
    | none =>
      simp only [reduceCtorEq, false_iff, not_and]
      rintro rfl
      simp [hvalue]
    | some found =>
      simp only [Except.ok.injEq, Prod.mk.injEq]
      constructor
      · rintro ⟨rfl, rfl⟩
        exact ⟨rfl, hvalue⟩
      · rintro ⟨rfl, hfound⟩
        exact ⟨rfl, Option.some.inj (hvalue.symm.trans hfound)⟩

theorem evalParams_singleton (place : Place) (param : Param) :
    evalParams place [param] = (param.eval place).map fun operand => [operand] := by
  cases heval : param.eval place <;>
    simp [evalParams, heval, bind, Except.bind, pure, Except.pure, Except.map]

theorem evalHash_singleton (place : Place) (name : String) (param : Param) :
    evalHash place [(name, param)] = (param.eval place).map fun operand => [(name, operand)] := by
  cases heval : param.eval place <;>
    simp [evalHash, heval, bind, Except.bind, pure, Except.pure, Except.map]

end Branches

/-! ## The elements that are evaluated -/

mutual

/-- An element in its place, and the elements that are evaluated in it, each in its own place. -/
def Element.evaluated : Element → Place → List (Element × Place)
  | .block call names body inverse, place =>
    (.block call names body inverse, place) ::
      match call.branch names place with
      | .ok (.body places) => places.flatMap fun place => evaluated body place
      | .ok .otherwise => inverseEvaluated inverse place
      | _ => []
  | element, place => [(element, place)]

/-- The elements that are evaluated in the part after `else`, if there is such a part. -/
def inverseEvaluated : Option (List Element) → Place → List (Element × Place)
  | none, _ => []
  | some elements, place => evaluated elements place

/-- The elements that are evaluated in a template, each in its place. -/
def evaluated : List Element → Place → List (Element × Place)
  | [], _ => []
  | element :: rest, place => element.evaluated place ++ evaluated rest place

end

end Pipewright.Template
