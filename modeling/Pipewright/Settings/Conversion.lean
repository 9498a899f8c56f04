import Pipewright.Decimal.Reading
import Pipewright.Settings.Layer
import Pipewright.Settings.Tool
import Pipewright.Text.Quoted

set_option autoImplicit false

/-! # Settings from layers

What layers say is turned into settings. A value of another kind is converted where that makes
sense: numbers and truth values are written out where a text is asked for, a text is read where a
number or a truth value is asked for, and numbers are rounded. What cannot be converted is a
`Mismatch`.

* `Scalar.toText`, `Entry.toText?`, `Entry.toFlag?` and `Entry.toWord?` are the conversions.
* `ToolSettings.ofEntry?` gives every setting that is not named its default. -/

namespace Pipewright.Settings

/-- An entry that a setting cannot be made of. -/
inductive Mismatch where
  /-- The entry under a key is of another kind. -/
  | kind (found : String) (expected : String) (key : String) (origin : Option String)
  /-- A value stands where a section is needed. -/
  | noSection (found : String) (title : String)
  deriving DecidableEq, Repr

/-- The wording of a mismatch. -/
def Mismatch.message : Mismatch → String
  | .kind found expected key origin =>
    "invalid type: " ++ found ++ ", expected " ++ expected ++
      (if key = "" then "" else " for key `" ++ key ++ "`") ++
      (match origin with
      | some origin => " in " ++ origin
      | none => "")
  | .noSection found title => "invalid type: " ++ found ++ ", expected " ++ title

/-- The text of a single value. -/
def Scalar.toText : Scalar → String
  | .bool b => toString b
  | .integer n => toString n
  | .float x => x.text .plain
  | .text s => s

/-- The value of a text as a truth value. -/
def truth? (text : String) : Option Bool :=
  match Text.lower text with
  | "1" | "true" | "on" | "yes" => some true
  | "0" | "false" | "off" | "no" => some false
  | _ => none

/-- The greatest word. -/
def greatestWord : Nat := twoPow 64 - 1

/-- A number rounded to a word, a half going up; below zero it is zero, and it is never greater
    than the greatest word. -/
def roundToWord (x : Binary64) : Nat :=
  if x.isNaN || x.isNegative then 0
  else if x.isInfinite then greatestWord
  else
    let (num, den) := x.ratio
    min greatestWord ((2 * num + den) / (2 * den))

/-- The value of a text as a word. -/
def word? (text : String) : Option Nat :=
  match Text.lower text with
  | "true" | "on" | "yes" => some 1
  | "false" | "off" | "no" => some 0
  | _ => (readNat? text).filter (· ≤ greatestWord)

namespace Entry

/-- Where an entry came from. -/
def origin : Entry → Option String
  | .nothing => none
  | .scalar origin _ => origin
  | .list origin _ => origin
  | .table origin _ => origin

/-- What an entry is, in words, where it is not of the kind that is asked for. -/
def describe : Entry → String
  | .nothing => "unit value"
  | .scalar _ (.bool b) => "boolean `" ++ toString b ++ "`"
  | .scalar _ (.integer n) => "64-bit integer `" ++ toString n ++ "`"
  | .scalar _ (.float x) => "floating point `" ++ x.text .plain ++ "`"
  | .scalar _ (.text s) => "string " ++ Text.quoted s
  | .list .. => "sequence"
  | .table .. => "map"

/-- A number with a point, if it is finite. -/
def pointed (x : Binary64) : String :=
  let text := x.text .plain
  if x.isFinite && !text.toList.contains '.' then text ++ ".0" else text

/-- What an entry is, in words, where a section is asked for. -/
def describeBare : Entry → String
  | .scalar _ (.integer n) => "integer `" ++ toString n ++ "`"
  | .scalar _ (.float x) => "floating point `" ++ pointed x ++ "`"
  | entry => entry.describe

/-- A mismatch at an entry. -/
def mismatch (expected key : String) (entry : Entry) : Mismatch :=
  .kind entry.describe expected key entry.origin

/-- An entry as a text. -/
def toText? (key : String) : Entry → Except Mismatch String
  | .scalar _ value => .ok value.toText
  | entry => .error (entry.mismatch "a string" key)

/-- An entry as a truth value. -/
def toFlag? (key : String) : Entry → Except Mismatch Bool
  | .scalar _ (.bool b) => .ok b
  | .scalar _ (.integer n) => .ok (n ≠ 0)
  | .scalar _ (.float x) => .ok (!x.isZero)
  | .scalar origin (.text s) =>
    match truth? s with
    | some b => .ok b
    | none => .error (.kind ("string " ++ Text.quoted (Text.lower s)) "a boolean" key origin)
  | entry => .error (entry.mismatch "a boolean" key)

/-- An entry as a word. -/
def toWord? (key : String) : Entry → Except Mismatch Nat
  | .scalar _ (.bool b) => .ok (if b then 1 else 0)
  | .scalar origin (.integer n) =>
    if 0 ≤ n then .ok n.toNat
    else
      .error (.kind ("64-bit integer `" ++ toString n ++ "`")
        "an unsigned 64 bit or less integer" key origin)
  | .scalar _ (.float x) => .ok (roundToWord x)
  | .scalar origin (.text s) =>
    match word? s with
    | some n => .ok n
    | none => .error (.kind ("string " ++ Text.quoted s) "an integer" key origin)
  | entry => .error (entry.mismatch "an integer" key)

/-- An entry that may say nothing. -/
def optional {α : Type} (convert : Entry → Except Mismatch α) : Entry → Except Mismatch (Option α)
  | .nothing => .ok none
  | entry => (convert entry).map some

end Entry

variable {σ : Type}

/-- Gives a field the value of an entry. -/
def FieldKind.assign (key : String) (entry : Entry) (section_ : σ) :
    FieldKind σ → Except Mismatch σ
  | .text _ put => (entry.toText? key).map (put · section_)
  | .flag _ put => (entry.toFlag? key).map (put · section_)
  | .word _ put => (entry.toWord? key).map (put · section_)
  | .optionalText _ put => (Entry.optional (Entry.toText? key) entry).map (put · section_)
  | .optionalPath _ put => (Entry.optional (Entry.toText? key) entry).map (put · section_)
  | .optionalWord _ put => (Entry.optional (Entry.toWord? key) entry).map (put · section_)

/-- Gives the fields that a table names their values. -/
def assignNamed (key : String) (members : List (String × Entry)) :
    List (SectionField σ) → σ → Except Mismatch σ
  | [], section_ => .ok section_
  | field :: rest, section_ =>
    match Dictionary.get? field.name members with
    | none => assignNamed key members rest section_
    | some entry => do
      let section_ ← field.kind.assign (key ++ "." ++ field.name) entry section_
      assignNamed key members rest section_

/-- Gives the first fields the values of a list in their order. -/
def assignInOrder (key : String) (index : Nat) :
    List (SectionField σ) → List Entry → σ → Except Mismatch σ
  | field :: rest, entry :: items, section_ => do
    let section_ ← field.kind.assign (key ++ "[" ++ toString index ++ "]") entry section_
    assignInOrder key (index + 1) rest items section_
  | _, _, section_ => .ok section_

/-- A section; fields that the entry does not name keep their defaults. -/
def sectionOf (title key : String) (fields : List (SectionField σ)) (default : σ) :
    Entry → Except Mismatch σ
  | .table _ members => assignNamed key members fields default
  | .list _ items => assignInOrder key 0 fields items default
  | entry => .error (.noSection entry.describeBare title)

/-- The section under a name. -/
def sectionUnder (title name : String) (fields : List (SectionField σ)) (default : σ)
    (entry : Entry) : Except Mismatch σ :=
  match Dictionary.get? name entry.members with
  | none => .ok default
  | some inner => sectionOf title name fields default inner

end Pipewright.Settings

namespace Pipewright

open Settings

/-- The settings that layers make up. -/
def ToolSettings.ofEntry? (entry : Entry) : Except Mismatch ToolSettings := do
  let toolchain ← sectionUnder toolchainTitle "toolchain" ToolchainSettings.fields .default entry
  let layout ← sectionUnder layoutTitle "layout" LayoutSettings.fields .default entry
  let supervisor ←
    sectionUnder supervisorTitle "supervisor" SupervisorSettings.fields .default entry
  let logging ← sectionUnder loggingTitle "logging" LoggingSettings.fields .default entry
  return { toolchain, layout, supervisor, logging }

end Pipewright
