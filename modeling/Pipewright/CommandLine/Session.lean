import Pipewright.CommandLine.LogFilter
import Pipewright.CommandLine.Request
import Pipewright.Json.Form
import Pipewright.Settings.Loading
import Pipewright.Workflow

set_option autoImplicit false

/-! # Sessions on the command line

`Session.run` does what a command line asks for, from reading it to the exit code: the settings are
loaded, logging begins, and the command is carried out. What it says goes to the console of the
world; `Session.shown` are the log records that the console shows. -/

namespace Pipewright.CommandLine

/-- How a session ended: its exit code, and what of the log the console shows. -/
structure SessionResult where
  code : Nat
  filter : LogFilter

namespace Session

/-- Writes a line to the console. -/
def say (line : String) : Job Unit :=
  Job.update fun world =>
    { world with stdout := world.stdout ++ Text.Utf8.encode (line ++ "\n") }

/-- Writes a line to the console as a complaint. -/
def complain (line : String) : Job Unit :=
  Job.update fun world =>
    { world with stderr := world.stderr ++ Text.Utf8.encode (line ++ "\n") }

/-- The value of an environment variable. -/
def variable_ (name : String) : Job (Option String) :=
  return Dictionary.get? name (← get).environment

/-! ## Logging -/

/-- The environment that the tool runs in, by name. -/
def environmentName : Job String := do
  return ((← variable_ "SPIRIT_TOOL_ENV").or (← variable_ "APP_ENV")).getD "development"

/-- What is logged in an environment if nothing else is said. -/
def usualLevel (environment : String) : String :=
  if environment = "production" then "info" else "debug"

/-- What is logged: a variable counts more than the settings, and they more than the environment. -/
def levelText (settings : LoggingSettings) (environment : String) : Job String := do
  match (← variable_ "RUST_LOG").filter fun text => !Text.isBlankText text with
  | some text => return text
  | none => return settings.level.getD (usualLevel environment)

/-- Makes a file, and if need be the directories above it. -/
def makeFile (path : Path) : Job Unit := do
  match ← Job.writeFile path [] with
  | .ok () => return
  | .error _ =>
    let _ ← Job.makeDirectories ((Path.parent? path).getD "")
    let _ ← Job.writeFile path []

/-- Begins the log: makes its file, if a directory is set for it, and gives the filter. -/
def beginLog (settings : LoggingSettings) : Job LogFilter := do
  let environment ← environmentName
  let (filter, ignored) := LogFilter.ofText (← levelText settings environment)
  let note := do
    for (text, fault) in ignored do
      complain ("ignoring `" ++ text ++ "`: " ++ fault.message)
  note
  if let some directory := settings.logDir then
    match ← Job.makeDirectories directory with
    | .error e =>
      complain ("unable to create log directory " ++ directory ++ ": " ++ e.describe)
    | .ok () =>
      note
      let world ← get
      makeFile (Path.join directory (environment ++ "." ++ toString world.pid ++ "." ++
        Timestamp.compact world.clock ++ ".log"))
  Job.log .debug .logging
  return filter

/-- The level that a number of flags asks for. -/
def verbosityLevel? : Nat → Option String
  | 0 => none
  | 1 => some "info"
  | 2 => some "debug"
  | _ => some "trace"

/-! ## Commands -/

/-- Why a command cannot be carried out. -/
inductive Refusal where
  | failed (failure : Failure)
  | other (text : String)

/-- The wording of a refusal. -/
def Refusal.message : Refusal → String
  | .failed failure => "error [" ++ failure.category.name ++ "]: " ++ failure.message
  | .other text => "error: " ++ text

/-- The workspace: the one that is given, or the variable `GOPATH`. -/
def workspaceOf (given : Option Path) : Job (Except Refusal Path) := do
  match (given.or (← variable_ "GOPATH")).filter (· ≠ "") with
  | some path => return .ok path
  | none => return .error (.other "no workspace given and GOPATH is not set")

/-- The arguments of the template. -/
def argumentsOf (given : Option String) : Except Refusal (Option Arguments) :=
  match given with
  | none => .ok none
  | some text =>
    match Json.parse? (Text.Utf8.encode text) with
    | .ok (.object members) => .ok (some members)
    | .ok _ => .error (.other "template args must be a JSON object")
    | .error fault => .error (.other ("template args are not valid JSON: " ++ fault.message))

/-- Carries a task out, without failing. -/
def attempt {α : Type} (task : Job α) : Job (Except Refusal α) :=
  tryCatch (Except.ok <$> task) fun failure => return .error (.failed failure)

/-- What the commands that make projects need. -/
def prepare (request : ProjectRequest) :
    Job (Except Refusal (CreateOptions × Option Arguments)) := do
  match ← workspaceOf request.resolve.workspace with
  | .error refusal => return .error refusal
  | .ok workspace =>
    return (argumentsOf request.arguments).map fun arguments =>
      (request.options workspace, arguments)

def create (tool : Tool) (request : ProjectRequest) : Job (Except Refusal Unit) := do
  match ← prepare request with
  | .error refusal => return .error refusal
  | .ok (options, arguments) =>
    match ← attempt (tool.createProject request.resolve.config options arguments) with
    | .error refusal => return .error refusal
    | .ok context =>
      say ("Project created: " ++ context.project.dir)
      say ("  Source: " ++ context.project.sourcePath)
      say ("  Config: " ++ context.project.configCopyPath)
      say ("  Packages: " ++ toString context.pipeline.packages.length)
      return .ok ()

def run_ (tool : Tool) (request : ProjectRequest) : Job (Except Refusal Unit) := do
  match ← prepare request with
  | .error refusal => return .error refusal
  | .ok (options, arguments) =>
    match ← attempt (tool.runProject request.resolve.config options arguments) with
    | .error refusal => return .error refusal
    | .ok (context, outcome) =>
      match outcome.exitStatus with
      | some status =>
        say (context.project.dir ++ " exited (" ++ status.describe ++ ") while " ++
          outcome.finalState.name)
      | none =>
        say (context.project.dir ++ " was killed (pid " ++ Watch.pidText outcome.pid ++ ")")
      return .ok ()

def resolve (tool : Tool) (request : ResolveRequest) : Job (Except Refusal Unit) := do
  match ← workspaceOf request.workspace with
  | .error refusal => return .error refusal
  | .ok workspace =>
    match ← attempt (tool.resolve request.config request.sources workspace) with
    | .error refusal => return .error refusal
    | .ok pipeline =>
      say (toString pipeline.urns.length ++ " urns -> " ++ toString pipeline.packages.length ++
        " packages")
      for package in pipeline.packages do say ("  " ++ package.uri)
      return .ok ()

/-- Carries a command out. -/
def perform (tool : Tool) : Command → Job (Except Refusal Unit)
  | .create request => create tool request
  | .run request => run_ tool request
  | .resolve request => resolve tool request

/-! ## The whole session -/

/-- The filter that lets nothing through. -/
def silent : LogFilter := [⟨none, none⟩]

/-- What is said if the command line is not carried out, and the exit code. -/
def halted : Halt → Job Nat
  | .version => do
    say (toolName ++ " 0.1.0")
    return 0
  | .help => do
    for line in [purpose, "", usageLine] do say line
    return 0
  | .usage fault => do
    for line in fault.lines ++ ["", usageLine] do complain line
    return 2

/-- Carries a request out. -/
def carryOut (host : Host) (request : Request) : Job SessionResult := do
  match ← attempt (ToolSettings.load request.settingsFile (← get).environment) with
  | .error refusal =>
    complain refusal.message
    return ⟨1, silent⟩
  | .ok settings =>
    let level := (verbosityLevel? request.verbosity).or settings.logging.level
    let settings := { settings with logging := { settings.logging with level } }
    let filter ← beginLog settings.logging
    Job.log .info .tool
    match ← perform ⟨settings, host, none⟩ request.command with
    | .ok () => return ⟨0, filter⟩
    | .error refusal =>
      complain refusal.message
      return ⟨1, filter⟩

/-- Does what a command line asks for. -/
def task (host : Host) (arguments : List String) : Job SessionResult :=
  match Request.ofArguments? arguments with
  | .error halt => do return ⟨← halted halt, silent⟩
  | .ok request => carryOut host request

/-- Does what a command line asks for; a failure that was not reported ends the session too. -/
def run (host : Host) (arguments : List String) (world : World) : SessionResult × World :=
  match (task host arguments).run.run world with
  | (.ok result, world) => (result, world)
  | (.error _, world) => (⟨1, silent⟩, world)

/-- The log records that the console shows, in their order. -/
def shown (result : SessionResult) (world : World) : List LogRecord :=
  (world.log.filter result.filter.shows).reverse

end Session

end Pipewright.CommandLine
