import Pipewright.Shell.Syntax
import Pipewright.World

set_option autoImplicit false

/-! # The state of a shell

A `State` is what all programs of one run share, and the frame of the program that is running.
Time is counted in milliseconds from the start of the run; it passes only while a program sleeps or
is started, and the timeline keeps the worlds in between.

* `Run` is a step of a program; `Stop` says why no further step follows.
* `write` sends bytes to where a descriptor leads. -/

namespace Pipewright.Shell

/-- Where output goes. -/
inductive Sink where
  | nowhere
  | console (isError : Bool)
  /-- To the tool that has started the program. -/
  | captured (isError : Bool)
  /-- To the command that takes the output. -/
  | buffer
  | file (location : Location)
  deriving DecidableEq, Repr

/-- What all programs of a run share. -/
structure Shared where
  world : World
  elapsed : Nat
  /-- The worlds at the times from which on time has passed, the latest first. -/
  timeline : List (Nat × World)
  /-- The requests to stop that the tool was sent, the latest first. -/
  requests : List (Nat × ShutdownSignal)
  output : Bytes
  complaints : Bytes
  buffer : Bytes

/-- What a program has of its own. -/
structure Frame where
  pid : Nat
  parent : Nat
  /-- The name that complaints begin with. -/
  name : String
  arguments : List String
  bindings : Dictionary String
  exported : List String
  functions : List (String × Command)
  /-- What is done at the end and on signals, by their names. -/
  traps : List (String × String)
  directory : Location
  sinks : List (Nat × Sink)
  input : Bytes
  status : Nat
  /-- The status of the last command whose output was taken for the running command. -/
  takenStatus : Nat
  /-- Whether the shell ends at the first command that fails. -/
  failsFast : Bool
  /-- Whether the shell ends where a variable without a value is used. -/
  failsOnUnset : Bool
  /-- The line ends of the script. -/
  lineEnds : Nat
  /-- Those of them that follow the beginning of the running command. -/
  followingEnds : Nat

/-- The state of a run. -/
structure State where
  shared : Shared
  frame : Frame

/-- Why no further command is run. -/
inductive Stop where
  | exited (code : Nat)
  | killed (pid signal : Nat)
  | broken (levels : Nat)
  | continued (levels : Nat)
  | returned (code : Nat)
  /-- The run has no end, as far as it was followed. -/
  | endless
  deriving DecidableEq, Repr

/-- A step of a program. -/
abbrev Run := ExceptT Stop (StateM State)

namespace Run

variable {α : Type}

def frame : Run Frame := return (← get).frame

def files : Run FileSystem := return (← get).shared.world.files

def modifyFrame (change : Frame → Frame) : Run Unit :=
  modify fun state => { state with frame := change state.frame }

def modifyShared (change : Shared → Shared) : Run Unit :=
  modify fun state => { state with shared := change state.shared }

def setFiles (files : FileSystem) : Run Unit :=
  modifyShared fun shared => { shared with world := { shared.world with files } }

def setStatus (code : Nat) : Run Unit := modifyFrame fun frame => { frame with status := code }

/-- Where a descriptor leads. -/
def sink (descriptor : Nat) : Run Sink := do
  match (← frame).sinks.find? (·.1 == descriptor) with
  | some (_, sink) => return sink
  | none => return .nowhere

/-- Sends bytes to where a descriptor leads. -/
def write (descriptor : Nat) (bytes : Bytes) : Run Unit := do
  match ← sink descriptor with
  | .nowhere => return
  | .console false =>
    modifyShared fun s => { s with world := { s.world with stdout := s.world.stdout ++ bytes } }
  | .console true =>
    modifyShared fun s => { s with world := { s.world with stderr := s.world.stderr ++ bytes } }
  | .captured false => modifyShared fun s => { s with output := s.output ++ bytes }
  | .captured true => modifyShared fun s => { s with complaints := s.complaints ++ bytes }
  | .buffer => modifyShared fun s => { s with buffer := s.buffer ++ bytes }
  | .file location =>
    let files ← files
    match files.node? location with
    | some (.file content isExecutable) =>
      setFiles (files.put location (.file (content ++ bytes) isExecutable))
    | _ => return

def print (text : String) : Run Unit := write 1 (Text.Utf8.encode text)

/-- Writes a complaint and gives the status of a failure. -/
def complain (text : String) : Run Nat := do
  write 2 (Text.Utf8.encode (text ++ "\n"))
  return 1

/-- A complaint of the shell about a line of its script, given by the line ends that follow. -/
def complainAt (followingEnds : Nat) (text : String) : Run Unit := do
  let frame ← frame
  let line := frame.lineEnds - followingEnds + 1
  let _ ← complain (frame.name ++ ": " ++ toString line ++ ": " ++ text)

/-- A complaint of the shell about the running command. -/
def complainHere (text : String) : Run Unit := do
  complainAt (← frame).followingEnds text

/-- The longest time that a run is followed, in milliseconds. -/
def horizon : Nat := 86400000

/-- Lets time pass. -/
def pass (time : Nat) : Run Unit := do
  modifyShared fun s =>
    { s with timeline := (s.elapsed, s.world) :: s.timeline, elapsed := s.elapsed + time }
  if horizon < (← get).shared.elapsed then throw .endless

/-- The value of a variable. -/
def valueOf? (name : String) : Run (Option String) :=
  return Dictionary.get? name (← frame).bindings

def assign (name value : String) : Run Unit :=
  modifyFrame fun frame => { frame with bindings := Dictionary.insert name value frame.bindings }

def unassign (name : String) : Run Unit :=
  modifyFrame fun frame =>
    { frame with
      bindings := frame.bindings.filter (·.1 ≠ name)
      exported := frame.exported.filter (· ≠ name) }

def export_ (name : String) : Run Unit :=
  modifyFrame fun frame => { frame with exported := name :: frame.exported }

/-- The variables that programs are given. -/
def environment : Run (Dictionary String) := do
  let frame ← frame
  return frame.bindings.filter fun pair => frame.exported.contains pair.1

/-- Runs steps that cannot change the frame. -/
def isolated (run : Run α) : Run α := do
  let frame ← frame
  let result ← tryCatch (Except.ok <$> run) fun stop => return Except.error stop
  modifyFrame fun _ => frame
  match result with
  | .ok a => return a
  | .error stop => throw stop

/-- Runs steps and gives what they write. -/
def collecting (run : Run Unit) : Run Bytes := do
  let outer := (← get).shared.buffer
  modifyShared fun s => { s with buffer := [] }
  let sinks := (← frame).sinks
  modifyFrame fun frame => { frame with sinks := (1, .buffer) :: frame.sinks }
  run
  modifyFrame fun frame => { frame with sinks }
  let inner := (← get).shared.buffer
  modifyShared fun s => { s with buffer := outer }
  return inner

end Run

end Pipewright.Shell
