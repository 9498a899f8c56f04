import Pipewright.Project.Rendering
import Pipewright.Supervisor.Watch

set_option autoImplicit false

/-! # Creating and running projects

The stages of the tool, each beginning only when the one before it succeeded: the options are
validated, the configuration is loaded and its URNs are resolved to packages, the packages are
fetched or only given their pins, the project is rendered; and to run it, it is built, launched and
supervised.

* `Tool.resolve`, `Tool.createProject` and `Tool.runProject` are the three workflows.
* `Tool.build` and `launch` make and start a project's program. -/

namespace Pipewright

/-- A configuration with its URNs and the packages that implement them. -/
structure ResolvedPipeline where
  config : LoadedConfig
  urns : List String
  packages : List Package

/-- A created project. -/
structure ProjectContext where
  pipeline : ResolvedPipeline
  project : RenderedProject

/-- The tool: its settings, the outside programs, and its own fetcher, if it has one. -/
structure Tool where
  settings : ToolSettings
  host : Host
  fetcher : Option (Fetcher World)

/-- A stage, whose failure is logged. -/
def stage {α : Type} (action : Job α) : Job α :=
  tryCatch action fun failure => do
    Job.log .error .logging
    throw failure

/-- A fetcher whose calls are noted. -/
def noted (fetcher : Fetcher World) : Fetcher World := fun package update => do
  Job.update (World.note (.fetch package.uri package.revision update))
  fetcher package update

/-- Starts a program in a directory, on the tool's console. -/
def launch (host : Host) (artifact projectDir : Path) : Job StartedProgram := do
  let invocation : Invocation := ⟨artifact, [], [], some projectDir⟩
  Job.update (World.note (.launch invocation))
  let world ← get
  let (result, world) := host.start invocation world
  set world
  let process ← Job.orFail
    (fun e => .runtime ("failed to launch " ++ artifact ++ ": " ++ e.describe)) result
  Job.log .info .building
  return process

namespace Tool

def toolchain (tool : Tool) (workspace : Path) : Toolchain :=
  ⟨tool.settings.toolchain, workspace⟩

/-- Loads a configuration and resolves its URNs. -/
def resolve (tool : Tool) (configPath : Path) (sources : List Path) (workspace : Path) :
    Job ResolvedPipeline := do
  let config ← stage (LoadedConfig.load configPath)
  let urns := config.config.urns
  let packages ← stage (Pipewright.resolve MappingDocument.load
    (tool.settings.layout.sourceRoot workspace) sources urns)
  unless urns.isEmpty do Job.log .debug .resolution
  Job.log .info .resolution
  return { config, urns, packages }

/-- Fetches the packages with the tool's own fetcher, or else with the go tool. -/
def fetch (tool : Tool) (options : CreateOptions) (packages : List Package) :
    Job (List Package) := do
  let fetcher := tool.fetcher.getD (goFetcher tool.host (tool.toolchain options.workspace))
  let packages ← fetchAll (noted fetcher) options.updatePackages options.pins packages
  Job.log .info .fetching
  return packages

/-- Resolves, and fetches if asked to. -/
def gather (tool : Tool) (configPath : Path) (options : CreateOptions) : Job ResolvedPipeline := do
  stage (ExceptT.mk (pure options.validate))
  let pipeline ← tool.resolve configPath options.sources options.workspace
  let packages ←
    if options.getPackages then stage (tool.fetch options pipeline.packages)
    else pure (applyPins options.pins pipeline.packages)
  return { pipeline with packages }

/-- Resolves, fetches if asked to, and renders a project. -/
def createProject (tool : Tool) (configPath : Path) (options : CreateOptions)
    (overrides : Option Arguments) : Job ProjectContext := do
  let pipeline ← tool.gather configPath options
  let project ← stage (Project.render tool.host tool.settings.layout
    (tool.toolchain options.workspace) options pipeline.packages pipeline.config overrides)
  Job.log .info .workflow
  return { pipeline, project }

/-- Builds the program of a project, and gives its absolute path. -/
def build (tool : Tool) (workspace projectDir : Path) : Job Path := do
  let dir ← Job.orIo projectDir (← Job.canonical projectDir)
  Job.log .info .building
  match ← runCommand tool.host ((tool.toolchain workspace).build dir) with
  | .ok _ => return Path.join dir artifactName
  | .error failure => throw (.build dir failure.display)

/-- Builds, launches and supervises the program of a project. -/
def buildAndRun (tool : Tool) (workspace projectDir : Path) : Job SupervisorOutcome := do
  let artifact ← tool.build workspace projectDir
  let process ← launch tool.host artifact ((Path.parent? artifact).getD projectDir)
  superviseProcess tool.settings.supervisor process [] none

/-- Creates a project and runs its program. -/
def runProject (tool : Tool) (configPath : Path) (options : CreateOptions)
    (overrides : Option Arguments) : Job (ProjectContext × SupervisorOutcome) := do
  let context ← tool.createProject configPath options overrides
  let outcome ← stage (tool.buildAndRun options.workspace context.project.dir)
  Job.log .info .workflow
  return (context, outcome)

end Tool

end Pipewright
