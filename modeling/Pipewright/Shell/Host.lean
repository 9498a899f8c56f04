import Pipewright.Shell.Evaluation

set_option autoImplicit false

/-! # Outside programs from their files

`Shell.host` runs the programs that stand in the file system: utilities and scripts. A program that
cannot be started has the error that the operating system gives: first that of its directory, then
that of its file.

* `installed` is a file system's part with the shell and the utilities.
* `Shell.worldAt` is the world at a time of a run. -/

namespace Pipewright.Shell

/-- Where programs are installed. -/
def programDirectory : Location := ["usr", "bin"]

/-- The shell and the utilities, as files. -/
def installed : List (Location × Node) :=
  [(["usr"], .directory), (programDirectory, .directory), (["bin"], .link "usr/bin")] ++
    ((["sh", "env", "kill"] ++ Utility.programs.map (·.1)).map fun name =>
      (programDirectory ++ [name], utilityFile name))

/-- How deep a run may nest. -/
def depth : Nat := 2000

/-- The state in which a program is started. -/
def startState (isCaptured : Bool) (environment : Dictionary String) (directory : Location)
    (world : World) : State :=
  { shared :=
      { world, elapsed := 0, timeline := [], requests := [], output := [], complaints := []
        buffer := [] }
    frame :=
      { pid := world.pid, parent := 0, name := "", arguments := []
        bindings := environment
        exported := environment.map (·.1)
        functions := [], traps := [], directory
        sinks :=
          if isCaptured then [(1, .captured false), (2, .captured true)]
          else [(1, .console false), (2, .console true)]
        input := [], status := 0, takenStatus := 0, failsFast := false, failsOnUnset := false
        lineEnds := 0, followingEnds := 0 } }

/-- The directory in which a program is started. -/
def startDirectory (world : World) (path : Option Path) : Except Errno Location :=
  match path with
  | none => .ok world.directory
  | some path =>
    match world.files.locate true world.directory path with
    | .error e => .error e
    | .ok (location, some .directory) => .ok location
    | .ok (_, none) => .error .absent
    | .ok (_, some _) => .error .notDirectory

/-- What a run leaves: how it ended, unless it was endless, and its last state. -/
def runProgram (isCaptured : Bool) (invocation : Invocation) (world : World) :
    Except Errno (Option ExitStatus × State) :=
  match startDirectory world invocation.directory with
  | .error e => .error e
  | .ok directory =>
    let environment :=
      Dictionary.union world.environment (Dictionary.ofList invocation.environment)
    let state := startState isCaptured environment directory world
    match (Evaluation.spawn false depth invocation.program invocation.arguments).run.run state with
    | (.ok (.error e), _) => .error e
    | (.ok (.ok status), state) => .ok (some status, state)
    | (.error (.killed _ signal), state) => .ok (some (.signaled signal), state)
    | (.error _, state) => .ok (none, state)

/-- A world at a later time. -/
def later (time : Nat) (world : World) : World :=
  { world with clock := world.clock + time * 1000000 }

/-- The latest world that was reached before a time. -/
def worldBefore (time : Nat) (start : World) : List (Nat × World) → World
  | [] => start
  | (reached, world) :: earlier =>
    if reached ≤ time then world else worldBefore time start earlier

/-- The world at a time of a run. -/
def worldAt (start : World) (state : State) (time : Nat) : World :=
  later time (if state.shared.elapsed ≤ time then state.shared.world
    else worldBefore time start state.shared.timeline)

/-- Runs the programs that stand in the file system. -/
def host : Host where
  run invocation world :=
    match runProgram true invocation world with
    | .error e => (.error e, world)
    | .ok (status, state) =>
      (.ok ⟨status.getD (.signaled 9), state.shared.output, state.shared.complaints⟩,
        later state.shared.elapsed state.shared.world)
  start invocation world :=
    match runProgram false invocation world with
    | .error e => (.error e, world)
    | .ok (status, state) =>
      (.ok
        { pid := some world.nextPid
          requests := state.shared.requests.reverse
          exit := status.map fun status => (state.shared.elapsed, status)
          worldAt := worldAt world state },
        { world with nextPid := state.shared.world.nextPid })

end Pipewright.Shell
