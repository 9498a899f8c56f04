import Pipewright.Settings.Tool
import Pipewright.Text.Blank
import Pipewright.World

set_option autoImplicit false

/-! # The toolchain

The outside programs that the tool calls: the go tool, which gets, builds and formats, and git,
which checks revisions out.

* `Toolchain.get`, `build`, `format` and `checkout` are the commands.
* `runCommand` runs a command; a command that cannot be started or does not succeed is a
  `CommandFailure`.
* `goFetcher` is the fetcher made of these commands. -/

namespace Pipewright

/-- A command that could not be started or did not succeed. -/
structure CommandFailure where
  command : String
  message : String
  deriving DecidableEq, Repr

/-- The wording of a failed command. -/
def CommandFailure.display (failure : CommandFailure) : String :=
  "`" ++ failure.command ++ "`: " ++ failure.message

/-- The outcome of a completed command: its output, or what it says about its failure. -/
def Completed.result (command : String) (completed : Completed) : Except CommandFailure String :=
  if completed.status.isSuccess then .ok (Text.Utf8.decodeLossy completed.stdout)
  else
    let complaint := Text.trim (Text.Utf8.decodeLossy completed.stderr)
    let status := completed.status.describe
    .error ⟨command, if complaint = "" then status else status ++ ": " ++ complaint⟩

/-- Runs a command to its end. -/
def runCommand (host : Host) (invocation : Invocation) : Job (Except CommandFailure String) := do
  Job.log .debug .toolchain
  Job.update (World.note (.command invocation))
  let world ← get
  let (result, world) := host.run invocation world
  set world
  match result with
  | .error e => return .error ⟨invocation.line, e.describe⟩
  | .ok completed =>
    unless completed.status.isSuccess do Job.log .warn .toolchain
    return completed.result invocation.line

/-- The outside programs, and the workspace that the go tool works on. -/
structure Toolchain where
  settings : ToolchainSettings
  workspace : Path
  deriving DecidableEq, Repr

/-- The source file of a project. -/
def entryPoint : String := "main.go"

/-- The program that a project is built to. -/
def artifactName : String := "main"

namespace Toolchain

/-- A command of the go tool. -/
def go (toolchain : Toolchain) (arguments : List String) (directory : Option Path) : Invocation :=
  { program := toolchain.settings.goBinary
    arguments
    environment :=
      if toolchain.settings.legacyGopath then
        [("GOPATH", toolchain.workspace), ("GO111MODULE", "off")]
      else []
    directory }

/-- Downloads a package; with `update`, also one that is there. -/
def get (toolchain : Toolchain) (uri : String) (update : Bool) : Invocation :=
  toolchain.go (["get", "-d"] ++ (if update then ["-u"] else []) ++ [uri]) none

/-- Checks a revision out. -/
def checkout (toolchain : Toolchain) (sourceDir : Path) (revision : String) : Invocation :=
  { program := toolchain.settings.gitBinary
    arguments := ["checkout", revision]
    environment := []
    directory := some sourceDir }

/-- Builds the program of a project. -/
def build (toolchain : Toolchain) (projectDir : Path) : Invocation :=
  toolchain.go ["build", "-o", artifactName, entryPoint] (some projectDir)

/-- Formats a source file, from the directory it lies in. -/
def format (toolchain : Toolchain) (source : Path) : Invocation :=
  toolchain.go ["fmt", source] (Path.parent? source)

end Toolchain

/-- Runs a command for a package. -/
def runFor (host : Host) (package : Package) (invocation : Invocation) : Job Unit := do
  match ← runCommand host invocation with
  | .ok _ => return
  | .error failure => throw (.fetch package.uri failure.display)

/-- Gets packages that are not there, and with `update` those that are, and then checks out their
    revisions. -/
def goFetcher (host : Host) (toolchain : Toolchain) : Fetcher World := fun package update => do
  let isPresent ← Job.orIo package.sourceDir (← Job.fileExists package.sourceDir)
  if !isPresent then
    Job.log .info .fetching
    runFor host package (toolchain.get package.uri false)
  else if update then
    Job.log .info .fetching
    runFor host package (toolchain.get package.uri true)
  else Job.log .debug .fetching
  if package.isPinned then
    Job.log .info .fetching
    runFor host package (toolchain.checkout package.sourceDir package.revision)

end Pipewright
