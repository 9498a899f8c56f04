import Pipewright.Decimal.Reading
import Pipewright.Settings.Layer

set_option autoImplicit false

/-! # Paths of keys

A key such as `layout.source_dir` or `list[2]` is a path of steps; a key that does not have this
form is a single step as it stands. -/

namespace Pipewright.Settings

namespace KeyPath

/-- Whether a character may stand in a name of a path. -/
def isNameChar (c : Char) : Bool := c.isAlphanum || c = ' ' || c = '_' || c = '-'

/-- A position in brackets, behind the opening one. -/
def position? (cs : List Char) : Option (Int × List Char) :=
  let isBlank := fun (c : Char) => c = ' ' || c = '\t'
  let cs := cs.dropWhile isBlank
  let (isNegative, cs) : Bool × List Char :=
    match cs with
    | '-' :: rest => (true, rest)
    | cs => (false, cs)
  let digits := cs.takeWhile Char.isDigit
  match (cs.dropWhile Char.isDigit).dropWhile isBlank with
  | ']' :: rest =>
    let n := digitsNat digits
    if digits = [] || (twoPow 63 ≤ n && !(isNegative && n = twoPow 63)) then none
    else some (if isNegative then -(n : Int) else n, rest)
  | _ => none

/-- The steps behind the first; there are at most as many as fuel. -/
def steps? : Nat → List Char → Option (List Step)
  | _, [] => some []
  | 0, _ => none
  | fuel + 1, '.' :: rest =>
    let name := rest.takeWhile isNameChar
    if name = [] then none
    else (steps? fuel (rest.dropWhile isNameChar)).map (.name (String.ofList name) :: ·)
  | fuel + 1, '[' :: rest => do
    let (index, rest) ← position? rest
    (steps? fuel rest).map (.position index :: ·)
  | _ + 1, _ => none

/-- The steps of a key. -/
def ofText (key : String) : List Step :=
  let cs := key.toList
  let name := cs.takeWhile isNameChar
  match (if name = [] then none else steps? cs.length (cs.dropWhile isNameChar)) with
  | some steps => .name (String.ofList name) :: steps
  | none => [.name key]

example : ofText "a.b[ -1]" = [.name "a", .name "b", .position (-1)] := by decide +kernel
example : ofText "a..b" = [.name "a..b"] := by decide +kernel

end KeyPath

/-- Lays a layer of keys over an entry. -/
def Entry.assignAll (target : Entry) (layer : List (String × Entry)) : Entry :=
  layer.foldl (fun target (key, value) => Entry.assign value (KeyPath.ofText key) target) target

end Pipewright.Settings
