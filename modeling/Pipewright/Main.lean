import Pipewright.CommandLine.Session
import Pipewright.Shell.Host

set_option autoImplicit false

/-! # The program

`main` takes a picture of the working directory and of the environment, does what its arguments ask
for in that world, and brings back what has changed: files and directories, what was said on the
console, and the exit code. Programs are those that stand in the picture. -/

namespace Pipewright.Program

/-- The names of the variables that the tool looks at. -/
def variableNames : List String :=
  let names := fun {σ : Type} (title : String) (fields : List (Settings.SectionField σ)) =>
    fields.map fun field => "SPIRIT_TOOL__" ++ (title ++ "__" ++ field.name).toUpper
  ["PATH", "HOME", "GOPATH", "RUST_LOG", "SPIRIT_TOOL_ENV", "APP_ENV"] ++
    names "toolchain" ToolchainSettings.fields ++ names "layout" LayoutSettings.fields ++
    names "supervisor" SupervisorSettings.fields ++ names "logging" LoggingSettings.fields

/-- The environment, as far as the tool looks at it. -/
def environment : IO (Dictionary String) := do
  let pairs ← variableNames.mapM fun name => do
    return (← IO.getEnv name).map fun value => (name, value)
  return Dictionary.ofList (pairs.filterMap id)

/-- Whether a file is taken for a program. -/
def looksExecutable (content : Bytes) : Bool := [0x23, 0x21].isPrefixOf content

/-- A directory entry with everything below it. -/
partial def picture (directory : Location) (entry : IO.FS.DirEntry) :
    IO (List (Location × Node)) := do
  let location := directory ++ [entry.fileName]
  match (← entry.path.metadata).type with
  | .dir =>
    let below ← (← entry.path.readDir).toList.mapM (picture location)
    return (location, .directory) :: below.flatten
  | .file =>
    let content := (← IO.FS.readBinFile entry.path).toList
    return [(location, .file content (looksExecutable content))]
  | _ => return []

/-- The directories above a location, and the location itself. -/
def trail (location : Location) : List (Location × Node) :=
  (List.range location.length).map fun n => (location.take (n + 1), .directory)

/-- The time of day, by the mark of a new file. -/
def now : IO Timestamp := do
  let (_, path) ← IO.FS.createTempFile
  let mark := (← path.metadata).modified
  IO.FS.removeFile path
  return mark.sec.toNat * 1000000000 + mark.nsec.toNat

/-- Brings a node back that is new or has changed. -/
def bringBack (before : FileSystem) (location : Location) (node : Node) : IO Unit := do
  if before.node? location = some node then return
  let path := FileSystem.locationPath location
  match node with
  | .directory => IO.FS.createDirAll path
  | .file content _ => IO.FS.writeBinFile path ⟨content.toArray⟩
  | .link _ | .device => return

end Pipewright.Program

open Pipewright Program in
/-- Runs the tool. -/
def main (arguments : List String) : IO UInt32 := do
  let here ← IO.currentDir
  let directory : Location := Path.segments here.toString
  let below ← (← here.readDir).toList.mapM (picture directory)
  let files : FileSystem := ⟨below.flatten ++ trail directory ++ Shell.installed⟩
  let clock ← now
  let world : World :=
    { files, directory, clock
      environment := ← environment
      pid := clock % 1000000, nextPid := clock % 1000000 + 1
      stdout := [], stderr := [], journal := [], log := [] }
  let (result, world) := CommandLine.Session.run Shell.host arguments world
  for (location, node) in world.files.entries do bringBack files location node
  for record in CommandLine.Session.shown result world do
    IO.println (CommandLine.levelName record.level ++ " " ++ record.part.name)
  IO.print (Text.Utf8.decodeLossy world.stdout)
  IO.eprint (Text.Utf8.decodeLossy world.stderr)
  return result.code.toUInt32
