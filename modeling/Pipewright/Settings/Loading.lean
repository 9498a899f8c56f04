import Pipewright.Settings.Conversion
import Pipewright.Settings.KeyPath
import Pipewright.Settings.Variable
import Pipewright.Toml.Reader
import Pipewright.World

set_option autoImplicit false

/-! # Loading settings

The settings are loaded from a file, if one is named, and from the environment, which is laid over
it; what neither names has its default. `SettingsFile.find` looks for the file, also with its usual
ending, and `ToolSettings.load` does it all. -/

namespace Pipewright

open Settings

namespace Settings

mutual

/-- The entry of a value in a file. -/
def entryOf (origin : String) : Toml.Value → Entry
  | .text s => .scalar (some origin) (.text s)
  | .integer n => .scalar (some origin) (.integer n)
  | .float x => .scalar (some origin) (.float x)
  | .bool b => .scalar (some origin) (.bool b)
  | .moment s => .scalar (some origin) (.text s)
  | .list items => .list (some origin) (entriesOf origin items)
  | .table members => .table (some origin) (namedEntriesOf origin members)

def entriesOf (origin : String) : List Toml.Value → List Entry
  | [] => []
  | item :: rest => entryOf origin item :: entriesOf origin rest

def namedEntriesOf (origin : String) : List (String × Toml.Value) → List (String × Entry)
  | [] => []
  | (key, value) :: rest => (key, entryOf origin value) :: namedEntriesOf origin rest

end

end Settings

namespace SettingsFile

/-- The ending of settings files. -/
def ending : String := ".toml"

/-- The path up to the end of its last name. -/
def upToName (path : Path) : Option Path :=
  match Path.fileName? path, Path.parent? path with
  | some name, some parent => some (Path.join parent name)
  | _, _ => none

def isFile (path : Path) : Job Bool := do
  match ← Job.stat path with
  | .ok (.file ..) => return true
  | _ => return false

/-- The file at a path, or else at the path with the usual ending. -/
def find (path : Path) : Job (Option Path) := do
  if ← isFile path then return some path
  match upToName path with
  | none => return none
  | some path => if ← isFile (path ++ ending) then return some (path ++ ending) else return none

/-- The names and steps up of a path. -/
def components (path : Path) : List String := (Path.segments path).filter (· ≠ ".")

/-- The way from a directory to a path, both given by what follows the root. -/
def wayTo : Location → List String → List String
  | here :: above, name :: rest =>
    if here = name then wayTo above rest
    else ((here :: above).map fun _ => "..") ++ name :: rest
  | directory, names => (directory.map fun _ => "..") ++ names

/-- The path of a file, taken from a directory. -/
def relative (directory : Location) (path : Path) : Path :=
  "/".intercalate
    (if Path.isAbsolute path then wayTo directory (components path) else components path)

/-- What the file of settings says. -/
def load (path : Path) : Job (List (String × Entry)) := do
  let fail := fun (message : String) => Failure.config path message
  match ← find path with
  | none => throw (fail ("configuration file \"" ++ path ++ "\" not found"))
  | some found =>
    let bytes ← Job.orFail (fun e => fail e.describe) (← Job.readFile found)
    let bytes := if [0xEF, 0xBB, 0xBF].isPrefixOf bytes then bytes.drop 3 else bytes
    let origin := relative (← get).directory found
    match Toml.Value.ofText? (Text.Utf8.decodeLossy bytes) with
    | some (.table members) => return namedEntriesOf origin members
    | _ => throw (fail ("TOML parse error in " ++ origin))

end SettingsFile

namespace ToolSettings

/-- The name of settings without a file. -/
def noFile : String := "<defaults>"

/-- The settings that layers make up, which lie over each other in their order. -/
def ofLayers? (layers : List (List (String × Entry))) : Except Mismatch ToolSettings :=
  ofEntry? (layers.foldl Entry.assignAll Entry.empty)

/-- Loads the settings from a file, if one is named, and an environment. -/
def load (path : Option Path) (environment : Dictionary String) : Job ToolSettings := do
  let file ← match path with
    | some path => SettingsFile.load path
    | none => pure []
  match ofLayers? [file, Variable.settings environment] with
  | .error mismatch => throw (.config (path.getD noFile) mismatch.message)
  | .ok settings =>
    ExceptT.mk (pure settings.validate)
    return settings

end ToolSettings

end Pipewright
