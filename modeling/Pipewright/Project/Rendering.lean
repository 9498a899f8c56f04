import Pipewright.Pipeline.Loading
import Pipewright.Project.Context
import Pipewright.Template.Nesting
import Pipewright.Template.Render
import Pipewright.Toolchain

set_option autoImplicit false

/-! # Rendering a project

A project is rendered from a named template: the source file is the template with the project's
data, and a copy of the configuration lies beside it. Nothing is written before the template has
been rendered, except the directory of the project. -/

namespace Pipewright

/-- The files of a template. -/
structure TemplatePaths where
  template : Path
  arguments : Path
  deriving DecidableEq, Repr

/-- A rendered project. -/
structure RenderedProject where
  dir : Path
  sourcePath : Path
  configCopyPath : Path
  deriving DecidableEq, Repr

/-- The file of a template's default arguments. -/
def argumentsFile : String := "args.json"

/-- The directory of a workspace under which packages, projects and templates live. -/
def LayoutSettings.sourceRoot (layout : LayoutSettings) (workspace : Path) : Path :=
  Path.join workspace layout.sourceDir

/-- The files of the template that the options name. -/
def LayoutSettings.templatePaths (layout : LayoutSettings) (options : CreateOptions) :
    TemplatePaths :=
  let dir := Path.join (Path.join (layout.sourceRoot options.workspace) layout.templateRoot)
    options.templateName
  ⟨Path.join dir entryPoint, Path.join dir argumentsFile⟩

namespace Project

/-- Reads a template. -/
def loadTemplate (path : Path) : Job (List Template.Element) := do
  let fail := fun (text : String) => Failure.render path text
  match ← Job.readFile path with
  | .error e => throw (fail e.describe)
  | .ok bytes =>
    match Text.Utf8.decode? bytes with
    | none => throw (fail "stream did not contain valid UTF-8")
    | some text =>
      match Template.parse text with
      | .ok template => return template
      | .error fault => throw (fail fault.message)

/-- Reads a template's default arguments; without a file there are none. -/
def loadArguments (path : Path) : Job Arguments := do
  match ← Job.readFile path with
  | .error e => if e = .absent then return [] else throw (.io path (.system e))
  | .ok bytes =>
    match Json.parse? bytes with
    | .ok (.object members) => return members
    | .ok _ => throw (.config path "template args must be a JSON object")
    | .error fault => throw (.config path ("malformed template args: " ++ fault.message))

/-- Makes the directory of the project. One that is there is only used with `force`. -/
def prepareDirectory (dir : Path) (force : Bool) : Job Unit := do
  if ← Job.orIo dir (← Job.fileExists dir) then
    unless force do throw (.projectExists dir)
    Job.log .warn .rendering
  Job.orIo dir (← Job.makeDirectories dir)

/-- Refuses a configuration whose copy would take the place of the source file. -/
def checkFileName (config : LoadedConfig) : Except Failure Unit :=
  if config.fileName = entryPoint then
    .error (.validation "config"
      ("configuration file " ++ config.path ++ " would overwrite the generated " ++ entryPoint))
  else .ok ()

/-- A project whose directory is made, and of which nothing is rendered yet. -/
structure Prepared where
  dir : Path
  templatePath : Path
  template : List Template.Element
  data : ProjectData

/-- Gathers the template and its data, and makes the directory of the project. -/
def prepare (layout : LayoutSettings) (options : CreateOptions) (packages : List Package)
    (config : LoadedConfig) (overrides : Option Arguments) : Job Prepared := do
  checkFileName config
  let paths := layout.templatePaths options
  Job.log .info .rendering
  let template ← loadTemplate paths.template
  let arguments := mergeArguments (← loadArguments paths.arguments) overrides
  let dir := options.projectDir (layout.sourceRoot options.workspace)
  prepareDirectory dir options.forceWrite
  let world ← get
  let data : ProjectData :=
    { options, packages
      configPath := config.path
      configFileName := config.fileName
      createTime := Timestamp.rfc3339 world.clock
      arguments }
  return { dir, templatePath := paths.template, template, data }

/-- Writes a project. A source file that cannot be formatted stays as it was rendered. -/
def complete (host : Host) (toolchain : Toolchain) (config : LoadedConfig) (prepared : Prepared) :
    Job RenderedProject := do
  match Template.render prepared.template prepared.data.toJson with
  | .error fault => throw (.render prepared.templatePath fault.message)
  | .ok text =>
    let sourcePath := Path.join prepared.dir entryPoint
    Job.orIo sourcePath (← Job.writeFile sourcePath (Text.Utf8.encode text))
    let configCopyPath := Path.join prepared.dir config.fileName
    Job.orIo configCopyPath (← Job.writeFile configCopyPath config.bytes)
    match ← runCommand host (toolchain.format sourcePath) with
    | .ok _ => pure ()
    | .error _ => Job.log .warn .rendering
    Job.log .info .rendering
    return { dir := prepared.dir, sourcePath, configCopyPath }

/-- Renders a project. -/
def render (host : Host) (layout : LayoutSettings) (toolchain : Toolchain) (options : CreateOptions)
    (packages : List Package) (config : LoadedConfig) (overrides : Option Arguments) :
    Job RenderedProject := do
  let prepared ← prepare layout options packages config overrides
  complete host toolchain config prepared

end Project

end Pipewright
