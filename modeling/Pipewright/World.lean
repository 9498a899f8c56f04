import Pipewright.Failure
import Pipewright.Package
import Pipewright.Supervisor.State
import Pipewright.Timestamp
import Pipewright.World.FileSystem

set_option autoImplicit false

/-! # The outside world

A `World` is all that the tool acts on: the files, the clock, what has been written to the console
and the log, and the journal of the tool's own effects in their order. What outside programs do is
given by a `Host`: any function of the command and the world.

* `Job` is a step on the world that may fail.
* `readFile`, `writeFile`, `fileExists` and so on are the steps on files, each noted in the
  journal. -/

namespace Pipewright

/-- How a program ended. -/
inductive ExitStatus where
  | exited (code : Nat)
  | signaled (signal : Nat)
  deriving DecidableEq, Repr

namespace ExitStatus

def isSuccess (status : ExitStatus) : Bool := status = .exited 0

/-- The names of the signals, by number. -/
def signalNames : List (Nat × String) := [
  (1, "SIGHUP"), (2, "SIGINT"), (3, "SIGQUIT"), (4, "SIGILL"), (5, "SIGTRAP"), (6, "SIGABRT"),
  (7, "SIGBUS"), (8, "SIGFPE"), (9, "SIGKILL"), (10, "SIGUSR1"), (11, "SIGSEGV"), (12, "SIGUSR2"),
  (13, "SIGPIPE"), (14, "SIGALRM"), (15, "SIGTERM"), (16, "SIGSTKFLT"), (17, "SIGCHLD"),
  (18, "SIGCONT"), (19, "SIGSTOP"), (20, "SIGTSTP"), (21, "SIGTTIN"), (22, "SIGTTOU"),
  (23, "SIGURG"), (24, "SIGXCPU"), (25, "SIGXFSZ"), (26, "SIGVTALRM"), (27, "SIGPROF"),
  (28, "SIGWINCH"), (29, "SIGIO"), (30, "SIGPWR"), (31, "SIGSYS")]

/-- The wording of an exit status. -/
def describe : ExitStatus → String
  | .exited code => "exit status: " ++ toString code
  | .signaled signal =>
    match signalNames.find? (·.1 == signal) with
    | some (_, name) => "signal: " ++ toString signal ++ " (" ++ name ++ ")"
    | none => "signal: " ++ toString signal

end ExitStatus

/-- A command: a program, its arguments, what is added to its environment, and the directory it is
    started in, if not the tool's own. -/
structure Invocation where
  program : String
  arguments : List String
  environment : List (String × String)
  directory : Option Path
  deriving DecidableEq, Repr

/-- The line that shows a command. -/
def Invocation.line (invocation : Invocation) : String :=
  " ".intercalate (invocation.program :: invocation.arguments)

/-- An effect of the tool on the world. -/
inductive Effect where
  | inspect (path : Path)
  | read (path : Path)
  | write (path : Path) (content : Bytes)
  | makeDirectories (path : Path)
  | fetch (uri revision : String) (update : Bool)
  | command (invocation : Invocation)
  | launch (invocation : Invocation)
  deriving DecidableEq, Repr

/-- How much a log record matters. -/
inductive LogLevel where
  | trace
  | debug
  | info
  | warn
  | error
  deriving DecidableEq, Repr

/-- The parts of the tool that write to the log. -/
inductive LogPart where
  | tool
  | logging
  | workflow
  | configuration
  | mapping
  | resolution
  | fetching
  | rendering
  | toolchain
  | building
  | signals
  | supervision
  | states
  deriving DecidableEq, Repr

/-- The name by which log filters know a part. -/
def LogPart.name : LogPart → String
  | .tool => "spirit_tool"
  | .logging => "spirit_tool::logging"
  | .workflow => "spirit_tool::pipeline"
  | .configuration => "spirit_tool::spirit::loader"
  | .mapping => "spirit_tool::resolver::mapping"
  | .resolution => "spirit_tool::resolver"
  | .fetching => "spirit_tool::packages::fetcher"
  | .rendering => "spirit_tool::project::renderer"
  | .toolchain => "spirit_tool::toolchain"
  | .building => "spirit_tool::runner"
  | .signals => "spirit_tool::runner::signals"
  | .supervision => "spirit_tool::runner::supervisor"
  | .states => "spirit_tool::state_machine::supervisor_state_machine"

/-- A log record: its level, and the part of the tool that wrote it. -/
structure LogRecord where
  level : LogLevel
  part : LogPart
  deriving DecidableEq, Repr

/-- All that the tool acts on. -/
structure World where
  files : FileSystem
  /-- The directory that relative paths are taken from. -/
  directory : Location
  environment : Dictionary String
  clock : Timestamp
  /-- The process number of the tool. -/
  pid : Nat
  /-- The process number of the next program. -/
  nextPid : Nat
  stdout : Bytes
  stderr : Bytes
  /-- The tool's own effects, the latest first. -/
  journal : List Effect
  /-- The log, the latest record first. -/
  log : List LogRecord
  deriving Repr

/-- What a program that has been run to its end leaves. -/
structure Completed where
  status : ExitStatus
  stdout : Bytes
  stderr : Bytes
  deriving DecidableEq, Repr

/-- A program that has been started. Times are milliseconds since its start. -/
structure StartedProgram where
  pid : Option Nat
  /-- The requests to stop that it sends to the tool, in order of time. -/
  requests : List (Nat × ShutdownSignal)
  /-- When and how it ends by itself; a program without an end runs until it is killed. -/
  exit : Option (Nat × ExitStatus)
  /-- The world as the program leaves it when it runs no longer than the given time. -/
  worldAt : Nat → World

/-- What outside programs do. -/
structure Host where
  /-- Runs a program to its end and gives what it wrote. -/
  run : Invocation → World → Except Errno Completed × World
  /-- Starts a program that shares the tool's console. -/
  start : Invocation → World → Except Errno StartedProgram × World

/-- A step on the world that may fail. -/
abbrev Job := Action World

namespace World

/-- Notes an effect. -/
def note (effect : Effect) (world : World) : World :=
  { world with journal := effect :: world.journal }

/-- Adds a log record. -/
def record (level : LogLevel) (part : LogPart) (world : World) : World :=
  { world with log := ⟨level, part⟩ :: world.log }

end World

namespace Job

variable {α : Type}

/-- A step that cannot fail. -/
def update (change : World → World) : Job Unit := modify change

/-- Adds a log record. -/
def log (level : LogLevel) (part : LogPart) : Job Unit := update (World.record level part)

/-- The result of a question about the world. -/
def ask (effect : Effect) (question : World → α) : Job α := do
  update (World.note effect)
  return question (← get)

/-- The node that a path names. -/
def stat (path : Path) : Job (Except Errno Node) :=
  ask (.inspect path) fun world => world.files.stat world.directory path

/-- Whether a path names a node. -/
def fileExists (path : Path) : Job (Except Errno Bool) :=
  ask (.inspect path) fun world => world.files.exists? world.directory path

/-- The absolute path of what a path names. -/
def canonical (path : Path) : Job (Except Errno Path) :=
  ask (.inspect path) fun world => world.files.canonical world.directory path

/-- The content of a file. -/
def readFile (path : Path) : Job (Except Errno Bytes) :=
  ask (.read path) fun world => world.files.read world.directory path

/-- Replaces the content of a file, or makes a new one. -/
def writeFile (path : Path) (content : Bytes) : Job (Except Errno Unit) := do
  update (World.note (.write path content))
  let world ← get
  match world.files.write world.directory path content with
  | .ok files =>
    set { world with files }
    return .ok ()
  | .error e => return .error e

/-- Makes a directory and the missing ones above it. -/
def makeDirectories (path : Path) : Job (Except Errno Unit) := do
  update (World.note (.makeDirectories path))
  let world ← get
  let (result, files) := world.files.makeDirectories world.directory path
  set { world with files }
  return result

/-- The value, or the failure that is made of the error. -/
def orFail (fail : Errno → Failure) : Except Errno α → Job α
  | .ok a => return a
  | .error e => throw (fail e)

/-- The value, or a failed file operation. -/
def orIo (path : Path) : Except Errno α → Job α :=
  orFail fun e => .io path (.system e)

end Job

end Pipewright
