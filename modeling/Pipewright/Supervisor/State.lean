import Pipewright.Json.Decoder

set_option autoImplicit false

/-! # The supervisor's states

A supervised program is running, then stopping after a first request to stop, then killed after a
second request or when its time to stop is over. `SupervisorState.next` is the table of these
transitions; `Machine` is a program's current state, and `Machine.step` takes an event or refuses
it. -/

namespace Pipewright

open Json

/-- The signals by which a program is asked to stop. -/
inductive ShutdownSignal where
  | interrupt
  | terminate
  deriving DecidableEq, Repr

namespace ShutdownSignal

/-- The name of a signal in messages. -/
def display : ShutdownSignal → String
  | .interrupt => "SIGINT"
  | .terminate => "SIGTERM"

/-- The name of a signal in documents. -/
def key : ShutdownSignal → String
  | .interrupt => "interrupt"
  | .terminate => "terminate"

def choices : List (String × ShutdownSignal) :=
  [.interrupt, .terminate].map fun signal => (signal.key, signal)

def decode : Decoder ShutdownSignal := Decoder.choice choices

def toJson (signal : ShutdownSignal) : Json := .string signal.key

end ShutdownSignal

/-- The states of a supervised program. -/
inductive SupervisorState where
  | running
  | stopping
  | killed
  deriving DecidableEq, Repr

namespace SupervisorState

/-- The name of a state. -/
def name : SupervisorState → String
  | .running => "running"
  | .stopping => "stopping"
  | .killed => "killed"

def choices : List (String × SupervisorState) :=
  [.running, .stopping, .killed].map fun state => (state.name, state)

/-- The state of this name. -/
def ofName? (name : String) : Option SupervisorState :=
  (choices.find? (·.1 == name)).map (·.2)

def decode : Decoder SupervisorState := Decoder.choice choices

def toJson (state : SupervisorState) : Json := .string state.name

/-- Whether no event is taken any more. -/
def isTerminal : SupervisorState → Bool
  | .killed => true
  | _ => false

def isShuttingDown : SupervisorState → Bool
  | .running => false
  | _ => true

end SupervisorState

/-- What drives the supervisor. -/
inductive SupervisorEvent where
  /-- A request to stop. -/
  | shutdown (signal : ShutdownSignal)
  /-- The time to stop is over. -/
  | stopTimeoutElapsed
  deriving DecidableEq, Repr

namespace SupervisorEvent

/-- The kind of an event in messages. -/
def kind : SupervisorEvent → String
  | .shutdown _ => "shutdown"
  | .stopTimeoutElapsed => "stop_timeout_elapsed"

def signal? : SupervisorEvent → Option ShutdownSignal
  | .shutdown signal => some signal
  | .stopTimeoutElapsed => none

def toJson : SupervisorEvent → Json
  | .shutdown signal => .object [("data", signal.toJson), ("type", .string "Shutdown")]
  | .stopTimeoutElapsed => .object [("type", .string "StopTimeoutElapsed")]

/-- The kinds of events in documents. -/
inductive Tag where
  | shutdown
  | stopTimeoutElapsed
  deriving DecidableEq, Repr

def tags : List (String × Tag) :=
  [("Shutdown", .shutdown), ("StopTimeoutElapsed", .stopTimeoutElapsed)]

/-- The name of an event in reports. -/
def title : String := "adjacently tagged enum SupervisorEvent"

/-- Reads the data of an event whose kind is known. -/
def decodeData (tag : Tag) : Decoder SupervisorEvent := fun carrier form =>
  match tag with
  | .shutdown => (ShutdownSignal.decode carrier form).map .shutdown
  | .stopTimeoutElapsed =>
    match form with
    | .null => .ok .stopTimeoutElapsed
    | _ => do
      if let .array _ _ := form then let _ ← carrier.enter
      if let .object _ _ := form then let _ ← carrier.enter
      Decoder.mismatch "unit variant SupervisorEvent::StopTimeoutElapsed" form

/-- The event of a kind without data. -/
def withoutData : Tag → Except Fault SupervisorEvent
  | .shutdown => .error (.missingField "data")
  | .stopTimeoutElapsed => .ok .stopTimeoutElapsed

/-- What has been read of an event: nothing, its kind, its data set aside, or all of it. -/
inductive Draft where
  | nothing
  | tagged (tag : Tag)
  | dataOnly (form : Form)
  | complete (event : SupervisorEvent)

/-- Reads the members of an event. -/
def fill (carrier : Carrier) : List (Token String × Form) → Draft → Except Fault Draft
  | [], draft => .ok draft
  | (key, value) :: rest, draft => do
    let name ← key.kept
    if name = "type" then
      match draft with
      | .nothing =>
        let tag ← Decoder.choice tags carrier value
        fill carrier rest (.tagged tag)
      | .dataOnly form =>
        let tag ← Decoder.choice tags carrier value
        let event ← decodeData tag .buffer form
        fill carrier rest (.complete event)
      | .tagged _ | .complete _ => .error (.duplicateField "type")
    else if name = "data" then
      match draft with
      | .nothing =>
        let _ ← decodeJson value carrier
        fill carrier rest (.dataOnly value)
      | .tagged tag =>
        let event ← decodeData tag carrier value
        fill carrier rest (.complete event)
      | .dataOnly _ | .complete _ => .error (.duplicateField "data")
    else
      value.skip
      fill carrier rest draft

/-- Reads an event from an object with its kind and data, or from a list of both. -/
def decode : Decoder SupervisorEvent := fun carrier form =>
  match form with
  | .object members close => do
    let carrier ← carrier.enter
    let draft ← fill carrier members .nothing
    close.afterLast
    match draft with
    | .nothing | .dataOnly _ => .error (.missingField "type")
    | .tagged tag => withoutData tag
    | .complete event => .ok event
  | .array items close => do
    let inner ← carrier.enter
    match items with
    | [] =>
      close.afterLast
      .error (.invalidLength 0 title)
    | first :: rest =>
      let tag ← Decoder.choice tags inner first
      match rest with
      | [] =>
        close.afterLast
        .error (.invalidLength 1 title)
      | second :: left =>
        let event ← decodeData tag inner second
        Record.closeItems carrier close 2 left
        .ok event
  | _ => Decoder.mismatch title form

end SupervisorEvent

namespace SupervisorState

/-- The state after an event, if the event is taken. -/
def next : SupervisorState → SupervisorEvent → Option SupervisorState
  | .running, .shutdown _ => some .stopping
  | .stopping, .shutdown _ => some .killed
  | .stopping, .stopTimeoutElapsed => some .killed
  | .running, .stopTimeoutElapsed => none
  | .killed, _ => none

end SupervisorState

/-- What to do after an event. -/
inductive SupervisorAction where
  | awaitExit
  | kill
  deriving DecidableEq, Repr

/-- The name of an action. -/
def SupervisorAction.name : SupervisorAction → String
  | .awaitExit => "await_exit"
  | .kill => "kill"

/-- An event that the state did not take. -/
structure InvalidTransition where
  state : SupervisorState
  event : SupervisorEvent
  deriving DecidableEq, Repr

/-- The wording of a refused event. -/
def InvalidTransition.message (refusal : InvalidTransition) : String :=
  "Invalid transition from " ++ refusal.state.name ++ " on " ++ refusal.event.kind

/-- A supervised program's process number, if it is known, and its state. -/
structure Machine where
  pid : Option Nat
  state : SupervisorState
  deriving DecidableEq, Repr

namespace Machine

/-- A program that has just been started. -/
def start (pid : Option Nat) : Machine := ⟨pid, .running⟩

/-- Takes an event, or refuses it and stays as it is. -/
def step (machine : Machine) (event : SupervisorEvent) :
    Except InvalidTransition SupervisorAction × Machine :=
  match machine.state.next event with
  | some target =>
    (.ok (if target = .killed then .kill else .awaitExit), { machine with state := target })
  | none => (.error ⟨machine.state, event⟩, machine)

/-- Takes events one after the other. -/
def run : Machine → List SupervisorEvent →
    List (Except InvalidTransition SupervisorAction) × Machine
  | machine, [] => ([], machine)
  | machine, event :: rest =>
    let (result, machine) := machine.step event
    let (results, machine) := run machine rest
    (result :: results, machine)

end Machine

end Pipewright
