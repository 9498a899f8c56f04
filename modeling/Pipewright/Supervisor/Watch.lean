import Pipewright.Settings.Tool
import Pipewright.Supervisor.State
import Pipewright.World

set_option autoImplicit false

/-! # Supervision

A supervised program is watched until it is gone. What wakes the watch is the end of the program, a
request to stop, the closing of the channel of requests, the end of the time to stop, or a tick,
which does nothing.

* `Watch.step` is what one wake-up does; `Watch.run` takes wake-ups in their order. Both kill the
  program by a step `kill`, in any monad.
* `Wake.IsReady` says which wake-ups a watch can have: requests come as long as the channel is open,
  and the time to stop ends when a deadline is set and has passed.
* `superviseProcess` watches a started program, whose requests and end come at their times. -/

namespace Pipewright

/-- How supervision ended. -/
structure SupervisorOutcome where
  pid : Option Nat
  finalState : SupervisorState
  /-- How the program ended by itself; nothing, if it was killed. -/
  exitStatus : Option ExitStatus
  deriving DecidableEq, Repr

def SupervisorOutcome.wasKilled (outcome : SupervisorOutcome) : Bool :=
  outcome.finalState = .killed

/-- What wakes the watch. -/
inductive Wake where
  /-- The program has ended; or waiting for it has failed. -/
  | exited (status : Except String ExitStatus)
  | requested (signal : ShutdownSignal)
  | channelClosed
  | deadlinePassed
  | tick
  deriving Repr

/-- What the watch knows between wake-ups. -/
structure Watch where
  machine : Machine
  /-- When the time to stop is over. -/
  deadline : Option Nat
  channelIsOpen : Bool
  deriving DecidableEq, Repr

/-- Which wake-ups a watch can have at a time. -/
def Wake.IsReady (watch : Watch) (now : Nat) : Wake → Prop
  | .exited _ | .tick => True
  | .requested _ | .channelClosed => watch.channelIsOpen = true
  | .deadlinePassed => ∃ deadline ∈ watch.deadline, deadline ≤ now

instance (watch : Watch) (now : Nat) : (wake : Wake) → Decidable (wake.IsReady watch now)
  | .exited _ | .tick => inferInstanceAs (Decidable True)
  | .requested _ | .channelClosed => inferInstanceAs (Decidable (watch.channelIsOpen = true))
  | .deadlinePassed => inferInstanceAs (Decidable (∃ deadline ∈ watch.deadline, deadline ≤ now))

/-- What follows a wake-up. -/
inductive WatchResult where
  | watching (watch : Watch)
  /-- Supervision is over. -/
  | ended (outcome : SupervisorOutcome)
  | failed (failure : Failure)
  deriving DecidableEq, Repr

namespace Watch

/-- The watch of a program that has just been started. -/
def start (pid : Option Nat) : Watch := ⟨.start pid, none, true⟩

/-- A process number in messages. -/
def pidText : Option Nat → String
  | some pid => "Some(" ++ toString pid ++ ")"
  | none => "None"

variable {m : Type → Type} [Monad m]

/-- Kills the program of a watch with `kill`, and ends supervision. -/
def finish (kill : m (Except String Unit)) (machine : Machine) : m WatchResult := do
  match ← kill with
  | .ok () => return .ended ⟨machine.pid, machine.state, none⟩
  | .error e =>
    return .failed (.runtime ("failed to kill process " ++ pidText machine.pid ++ ": " ++ e))

/-- Hands an event to the machine. The deadline is set once, at the first request; `kill` is the
    step that kills the program. -/
def handle (stopTimeout : Option Nat) (kill : m (Except String Unit)) (now : Nat) (watch : Watch)
    (event : SupervisorEvent) : m WatchResult :=
  match watch.machine.step event with
  | (.error _, _) => return .watching watch
  | (.ok .awaitExit, machine) =>
    return .watching { watch with
      machine
      deadline := watch.deadline.or (stopTimeout.map (now + ·)) }
  | (.ok .kill, machine) => finish kill machine

/-- What one wake-up does. -/
def step (stopTimeout : Option Nat) (kill : m (Except String Unit)) (now : Nat) (watch : Watch) :
    Wake → m WatchResult
  | .exited (.ok status) => return .ended ⟨watch.machine.pid, watch.machine.state, some status⟩
  | .exited (.error e) =>
    return .failed
      (.runtime ("failed to wait for process " ++ pidText watch.machine.pid ++ ": " ++ e))
  | .requested signal => handle stopTimeout kill now watch (.shutdown signal)
  | .channelClosed => return .watching { watch with channelIsOpen := false }
  | .deadlinePassed => handle stopTimeout kill now watch .stopTimeoutElapsed
  | .tick => return .watching watch

/-- Takes wake-ups, each at its time, until supervision is over. -/
def run (stopTimeout : Option Nat) (kill : m (Except String Unit)) :
    Watch → List (Nat × Wake) → m WatchResult
  | watch, [] => return .watching watch
  | watch, (now, wake) :: rest => do
    match ← watch.step stopTimeout kill now wake with
    | .watching watch => run stopTimeout kill watch rest
    | result => return result

end Watch

/-! ## Watching a started program -/

/-- Puts a wake-up in its place in time, behind those of the same time. -/
def insertWake (time : Nat) (wake : Wake) : List (Nat × Wake) → List (Nat × Wake)
  | [] => [(time, wake)]
  | (other, first) :: rest =>
    if time < other then (time, wake) :: (other, first) :: rest
    else (other, first) :: insertWake time wake rest

/-- The wake-ups of a program, in order of time: a first tick, requests, the closing of their
    channel, and the end of the program. Later ticks do nothing and are left out. -/
def StartedProgram.wakes (process : StartedProgram) (requests : List (Nat × ShutdownSignal))
    (closing : Option Nat) : List (Nat × Wake) :=
  let signals := process.requests ++ requests
  let all := signals.map (fun (time, signal) => (time, Wake.requested signal)) ++
    (closing.toList.map fun time => (time, Wake.channelClosed)) ++
    (process.exit.toList.map fun (time, status) => (time, Wake.exited (.ok status)))
  all.foldl (fun wakes (time, wake) => insertWake time wake wakes) [(0, .tick)]

/-- What one wake-up does to a program that can be killed. -/
def Watch.stepProcess (stopTimeout : Option Nat) (now : Nat) (watch : Watch) (wake : Wake) :
    WatchResult :=
  Id.run (watch.step stopTimeout (pure (.ok ())) now wake)

/-- Watches a program through its wake-ups; a deadline that passes before the next of them comes
    first, and a wake-up that is not ready is passed over. Gives the result and when it came
    about. -/
def watchProcess (stopTimeout : Option Nat) : Watch → List (Nat × Wake) → WatchResult × Nat
  | watch, [] =>
    match watch.deadline with
    | some deadline => (watch.stepProcess stopTimeout deadline .deadlinePassed, deadline)
    | none => (.watching watch, 0)
  | watch, (now, wake) :: rest =>
    let early := watch.deadline.filter (· ≤ now)
    match early with
    | some deadline => (watch.stepProcess stopTimeout deadline .deadlinePassed, deadline)
    | none =>
      if wake.IsReady watch now then
        match watch.stepProcess stopTimeout now wake with
        | .watching watch => watchProcess stopTimeout watch rest
        | result => (result, now)
      else watchProcess stopTimeout watch rest

/-- Supervises a started program until it is gone, and leaves the world as the program does. -/
def superviseProcess (settings : SupervisorSettings) (process : StartedProgram)
    (requests : List (Nat × ShutdownSignal)) (closing : Option Nat) : Job SupervisorOutcome := do
  Job.log .info .supervision
  Job.log .trace .supervision
  let (result, time) := watchProcess settings.stopTimeout (.start process.pid)
    (process.wakes requests closing)
  let world := process.worldAt time
  let before ← get
  set { world with journal := before.journal, log := before.log, nextPid := world.nextPid }
  if process.requests.any (·.1 ≤ time) then Job.log .info .signals
  match result with
  | .ended outcome =>
    unless outcome.finalState = .running do Job.log .info .states
    Job.log .info .supervision
    return outcome
  | .failed failure => throw failure
  | .watching _ => throw (.runtime "the program does not end")

end Pipewright
