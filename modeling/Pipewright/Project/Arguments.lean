import Pipewright.Json.Value

set_option autoImplicit false

/-! # Arguments of a template

A template has default arguments, and its caller may give others. `mergeArguments` overlays them:
each key of the caller's takes the caller's value as a whole, all other keys keep their defaults. -/

namespace Pipewright

/-- Arguments by name. -/
abbrev Arguments := Dictionary Json

/-- The defaults, overlaid with the caller's arguments. -/
def mergeArguments (defaults : Arguments) (overrides : Option Arguments) : Arguments :=
  match overrides with
  | none => defaults
  | some overrides => Dictionary.union defaults overrides

end Pipewright
