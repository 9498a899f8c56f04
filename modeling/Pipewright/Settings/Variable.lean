import Pipewright.Decimal.Reading
import Pipewright.Settings.Layer

set_option autoImplicit false

/-! # Settings in environment variables

A variable whose name begins with the tool's name and two underscores is a setting: two underscores
in its name stand for a dot of the key. Its value is a truth value, an integer or a number if it
reads as one, and else a text. -/

namespace Pipewright.Settings

namespace Variable

/-- What the names of settings begin with. -/
def mark : String := "spirit_tool__"

/-- The origin of settings in variables. -/
def origin : String := "the environment"

/-- Two underscores as dots. -/
def dotted : List Char → List Char
  | '_' :: '_' :: rest => '.' :: dotted rest
  | c :: rest => c :: dotted rest
  | [] => []

/-- The key of a variable, if it is a setting. -/
def key? (name : String) : Option String :=
  let cs := (Text.lower name).toList
  if mark.toList.isPrefixOf cs then some (String.ofList (dotted (cs.drop mark.length))) else none

/-- An integer of 64 bits. -/
def integer? (text : String) : Option Int :=
  (readInt? text).filter fun n => -(twoPow 63 : Int) ≤ n && n < (twoPow 63 : Int)

/-- The value of a text. -/
def scalar (text : String) : Scalar :=
  match Text.lower text with
  | "true" => .bool true
  | "false" => .bool false
  | _ =>
    match integer? text with
    | some n => .integer n
    | none =>
      match Binary64.ofText? text with
      | some x => .float x
      | none => .text text

/-- The settings of an environment. -/
def settings (environment : Dictionary String) : List (String × Entry) :=
  environment.filterMap fun (name, value) =>
    (key? name).map fun key => (key, .scalar (some origin) (scalar value))

example : key? "SPIRIT_TOOL__LAYOUT__SOURCE_DIR" = some "layout.source_dir" := by decide +kernel
example : scalar "+5" = .integer 5 := by decide +kernel

end Variable

end Pipewright.Settings
