import Mathlib.Data.List.Basic
import Pipewright.Supervisor.State

set_option autoImplicit false

/-! # The course of a machine

A machine that has just been started refuses all events until it is asked to stop. It takes this
request and the next event, whatever that is, and refuses everything from then on.
`SupervisorState.course` writes this down event by event; `Machine.trace_start` says that a machine
keeps to it, and `Machine.run_course` what follows for the actions, the states and the refusals. -/

namespace Pipewright

/-- Whether an event asks the program to stop. -/
def SupervisorEvent.isShutdown : SupervisorEvent → Bool
  | .shutdown _ => true
  | .stopTimeoutElapsed => false

/-- What a machine answers to an event. -/
abbrev Answer := Except InvalidTransition SupervisorAction

/-- Whether an answer issues this action. -/
def Answer.issues (action : SupervisorAction) : Answer → Bool
  | .ok issued => issued = action
  | .error _ => false

namespace SupervisorState

/-- How far a program has come from running to killed. -/
def rank : SupervisorState → Nat
  | .running => 0
  | .stopping => 1
  | .killed => 2

/-- The event is refused in this state, which stays. -/
def refuses (state : SupervisorState) (event : SupervisorEvent) : Answer × SupervisorState :=
  (.error ⟨state, event⟩, state)

/-- What becomes of events, one by one, when a program has just been started: the answer to each
    event, and the state after it. -/
def course (events : List SupervisorEvent) : List (Answer × SupervisorState) :=
  (events.takeWhile (!·.isShutdown)).map running.refuses ++
    match events.dropWhile (!·.isShutdown) with
    | [] => []
    | [_] => [(.ok .awaitExit, .stopping)]
    | _ :: _ :: later => (.ok .awaitExit, .stopping) :: (.ok .kill, .killed) ::
        later.map killed.refuses

end SupervisorState

open SupervisorState

namespace Machine

/-- The answers of a machine to events, each with the state after it. -/
def trace : Machine → List SupervisorEvent → List (Answer × SupervisorState)
  | _, [] => []
  | machine, event :: rest =>
    ((machine.step event).1, (machine.step event).2.state) :: trace (machine.step event).2 rest

variable {machine : Machine}

/-! ## One event -/

theorem step_of_killed (hkilled : machine.state = .killed) (event : SupervisorEvent) :
    machine.step event = (.error ⟨machine.state, event⟩, machine) := by
  obtain ⟨pid, state⟩ := machine
  cases hkilled
  rfl

theorem step_of_stopping (hstopping : machine.state = .stopping) (event : SupervisorEvent) :
    machine.step event = (.ok .kill, { machine with state := .killed }) := by
  obtain ⟨pid, state⟩ := machine
  cases hstopping
  cases event <;> rfl

/-- A running program takes a request to stop, and nothing else. -/
theorem step_of_running (hrunning : machine.state = .running) (event : SupervisorEvent) :
    machine.step event =
      if event.isShutdown then (.ok .awaitExit, { machine with state := .stopping })
      else (.error ⟨machine.state, event⟩, machine) := by
  obtain ⟨pid, state⟩ := machine
  cases hrunning
  cases event <;> rfl

/-- What one event comes to: it is refused, or it stops a running program, or it kills a stopping
    one. -/
theorem step_cases (machine : Machine) (event : SupervisorEvent) :
    (machine.step event = (.error ⟨machine.state, event⟩, machine) ∧
      (machine.state = .killed ∨ machine.state = .running ∧ event.isShutdown = false)) ∨
    (machine.step event = (.ok .awaitExit, { machine with state := .stopping }) ∧
      machine.state = .running ∧ event.isShutdown = true) ∨
    (machine.step event = (.ok .kill, { machine with state := .killed }) ∧
      machine.state = .stopping) := by
  cases hstate : machine.state with
  | running =>
    rw [step_of_running hstate, hstate]
    cases event with
    | shutdown signal => exact .inr (.inl ⟨rfl, rfl, rfl⟩)
    | stopTimeoutElapsed => exact .inl ⟨rfl, .inr ⟨rfl, rfl⟩⟩
  | stopping => exact .inr (.inr ⟨step_of_stopping hstate event, rfl⟩)
  | killed => exact .inl ⟨hstate ▸ step_of_killed hstate event, .inl rfl⟩

/-- A refused event leaves the machine as it is, and the refusal names the state and the event. -/
theorem step_refused {event : SupervisorEvent} {refusal : InvalidTransition} {after : Machine}
    (h : machine.step event = (.error refusal, after)) :
    after = machine ∧ refusal = ⟨machine.state, event⟩ := by
  rcases machine.step_cases event with ⟨hstep, -⟩ | ⟨hstep, -⟩ | ⟨hstep, -⟩
  all_goals
    rw [hstep] at h
    cases h
  exact ⟨rfl, rfl⟩

/-- The terminal state is the one in which all events are refused. -/
theorem isTerminal_iff (machine : Machine) :
    machine.state.isTerminal = true ↔
      ∀ event, ∃ refusal, (machine.step event).1 = .error refusal := by
  -- a request to stop is refused by a killed program only
  cases hstate : machine.state with
  | running =>
    refine iff_of_false (by decide) fun hrefused => ?_
    obtain ⟨refusal, hrefusal⟩ := hrefused (.shutdown .interrupt)
    rw [step_of_running hstate] at hrefusal
    cases hrefusal
  | stopping =>
    refine iff_of_false (by decide) fun hrefused => ?_
    obtain ⟨refusal, hrefusal⟩ := hrefused (.shutdown .interrupt)
    rw [step_of_stopping hstate] at hrefusal
    cases hrefusal
  | killed =>
    exact iff_of_true rfl fun event => ⟨_, congrArg Prod.fst (step_of_killed hstate event)⟩

theorem step_pid (machine : Machine) (event : SupervisorEvent) :
    (machine.step event).2.pid = machine.pid := by
  rcases machine.step_cases event with ⟨hstep, -⟩ | ⟨hstep, -⟩ | ⟨hstep, -⟩ <;> rw [hstep]

theorem rank_le_step (machine : Machine) (event : SupervisorEvent) :
    machine.state.rank ≤ (machine.step event).2.state.rank := by
  rcases machine.step_cases event with ⟨hstep, -⟩ | ⟨hstep, hstate, -⟩ | ⟨hstep, hstate⟩
  · exact hstep ▸ Nat.le_refl _
  · simp [hstep, hstate, rank]
  · simp [hstep, hstate, rank]

/-- How often an action can still be issued from a state. -/
def due (action : SupervisorAction) (state : SupervisorState) : Nat :=
  match action, state with
  | .awaitExit, .running | .kill, .running | .kill, .stopping => 1
  | .awaitExit, .stopping | .awaitExit, .killed | .kill, .killed => 0

theorem due_le_one (action : SupervisorAction) (state : SupervisorState) :
    due action state ≤ 1 := by
  cases action <;> cases state <;> decide

/-- An action that is issued is due once less. -/
theorem due_step (action : SupervisorAction) (machine : Machine) (event : SupervisorEvent) :
    due action (machine.step event).2.state +
        (if Answer.issues action (machine.step event).1 then 1 else 0) ≤
      due action machine.state := by
  rcases machine.step_cases event with ⟨hstep, -⟩ | ⟨hstep, hstate, -⟩ | ⟨hstep, hstate⟩
  · simp [hstep, Answer.issues]
  · cases action <;> simp [hstep, hstate, due, Answer.issues]
  · cases action <;> simp [hstep, hstate, due, Answer.issues]

/-! ## All events -/

theorem run_pid (machine : Machine) (events : List SupervisorEvent) :
    (machine.run events).2.pid = machine.pid := by
  induction events generalizing machine with
  | nil => rfl
  | cons event rest ih => exact (ih (machine.step event).2).trans (machine.step_pid event)

/-- A run gives the answers of the trace, and the last of its states. -/
theorem run_eq_trace (machine : Machine) (events : List SupervisorEvent) :
    (machine.run events).1 = (machine.trace events).map (·.1) ∧
      (machine.run events).2.state = ((machine.trace events).map (·.2)).getLastD machine.state := by
  induction events generalizing machine with
  | nil => exact ⟨rfl, rfl⟩
  | cons event rest ih =>
    obtain ⟨hanswers, hstate⟩ := ih (machine.step event).2
    refine ⟨congrArg ((machine.step event).1 :: ·) hanswers, ?_⟩
    rw [trace, List.map_cons, List.getLastD_cons]
    exact hstate

/-- The states never move backwards. -/
theorem pairwise_rank (machine : Machine) (events : List SupervisorEvent) :
    (machine.state :: (machine.trace events).map (·.2)).Pairwise (·.rank ≤ ·.rank) := by
  induction events generalizing machine with
  | nil => simp [trace]
  | cons event rest ih =>
    have hrest := ih (machine.step event).2
    have hfirst := machine.rank_le_step event
    rw [trace, List.map_cons, List.pairwise_cons]
    refine ⟨fun state hstate => ?_, hrest⟩
    rcases List.mem_cons.mp hstate with rfl | hstate
    · exact hfirst
    · exact Nat.le_trans hfirst (List.rel_of_pairwise_cons hrest hstate)

theorem countP_issues_le (action : SupervisorAction) (machine : Machine)
    (events : List SupervisorEvent) :
    ((machine.trace events).map (·.1)).countP (Answer.issues action) ≤
      due action machine.state := by
  induction events generalizing machine with
  | nil => exact Nat.zero_le _
  | cons event rest ih =>
    have hrest := ih (machine.step event).2
    have hfirst := due_step action machine event
    simp only [trace, List.map_cons, List.countP_cons]
    omega

/-- A running program is told to wait for its exit before it is killed. -/
theorem awaitExit_mem_of_kill {events : List SupervisorEvent} {before after : List Answer}
    (hrunning : machine.state = .running)
    (h : (machine.trace events).map (·.1) = before ++ .ok .kill :: after) :
    .ok .awaitExit ∈ before := by
  induction events generalizing before with
  | nil => cases before <;> cases h
  | cons event rest ih =>
    rw [trace, List.map_cons, List.cons_eq_append_iff] at h
    rcases machine.step_cases event with ⟨hstep, -⟩ | ⟨hstep, -⟩ | ⟨-, hstopping⟩
    · rw [hstep] at h
      rcases h with ⟨-, h⟩ | ⟨others, rfl, hrest⟩
      · cases h
      · exact List.mem_cons_of_mem _ (ih hrest)
    · rw [hstep] at h
      rcases h with ⟨-, h⟩ | ⟨others, rfl, -⟩
      · cases h
      · exact List.mem_cons_self
    · rw [hrunning] at hstopping
      cases hstopping

/-! ## From the start -/

theorem trace_of_killed (hkilled : machine.state = .killed) (events : List SupervisorEvent) :
    machine.trace events = events.map killed.refuses := by
  induction events with
  | nil => rfl
  | cons event rest ih => rw [trace, step_of_killed hkilled, ih, List.map_cons, refuses, hkilled]

theorem trace_of_stopping (hstopping : machine.state = .stopping) (event : SupervisorEvent)
    (rest : List SupervisorEvent) :
    machine.trace (event :: rest) = (.ok .kill, .killed) :: rest.map killed.refuses := by
  rw [trace, step_of_stopping hstopping, trace_of_killed rfl]

/-- A machine that is running keeps to the course. -/
theorem trace_of_running (hrunning : machine.state = .running) (events : List SupervisorEvent) :
    machine.trace events = course events := by
  induction events with
  | nil => rfl
  | cons event rest ih =>
    rw [trace, step_of_running hrunning]
    cases hevent : event.isShutdown with
    | false => simp [ih, course, hevent, refuses, hrunning]
    | true =>
      cases rest with
      | nil => simp [course, hevent, trace]
      | cons second later => simp [course, hevent, trace_of_stopping]

/-- **The course of a machine.** From the start a machine answers all events, and goes through the
    states behind them, as the course says. So each action is issued at most once, and killing only
    after waiting; the states never move backwards; a refused event changes nothing, and its
    refusal names the state; and the state that is reached is terminal if and only if no further
    event is taken. -/
theorem run_course (pid : Option Nat) (events : List SupervisorEvent) :
    let (answers, machine) := (start pid).run events
    (start pid).trace events = course events ∧ answers = (course events).map (·.1) ∧
      machine = ⟨pid, ((course events).map (·.2)).getLastD .running⟩ ∧
    (∀ action, answers.countP (Answer.issues action) ≤ 1) ∧
    (∀ before after, answers = before ++ .ok .kill :: after → .ok .awaitExit ∈ before) ∧
    (.running :: (course events).map (·.2)).Pairwise (·.rank ≤ ·.rank) ∧
    (∀ event refusal after, machine.step event = (.error refusal, after) →
      after = machine ∧ refusal = ⟨machine.state, event⟩ ∧
        refusal.message =
          "Invalid transition from " ++ machine.state.name ++ " on " ++ event.kind) ∧
    (machine.state.isTerminal = true ↔
      ∀ event, ∃ refusal, (machine.step event).1 = .error refusal) := by
  have hcourse : (start pid).trace events = course events := trace_of_running rfl events
  obtain ⟨hanswers, hstate⟩ := (start pid).run_eq_trace events
  refine ⟨hcourse, hcourse ▸ hanswers, ?_, fun action => ?_, fun before after h => ?_, ?_,
    fun event refusal after h => ?_, isTerminal_iff _⟩
  · rw [hcourse] at hstate
    exact congrArg₂ Machine.mk ((start pid).run_pid events) hstate
  · rw [hanswers]
    exact Nat.le_trans (countP_issues_le action _ events) (due_le_one action _)
  · exact awaitExit_mem_of_kill rfl (hanswers.symm.trans h)
  · exact hcourse ▸ (start pid).pairwise_rank events
  · obtain ⟨rfl, rfl⟩ := step_refused h
    exact ⟨rfl, rfl, rfl⟩

example : course [.stopTimeoutElapsed, .shutdown .terminate, .stopTimeoutElapsed,
      .shutdown .interrupt] =
    [(.error ⟨.running, .stopTimeoutElapsed⟩, .running), (.ok .awaitExit, .stopping),
      (.ok .kill, .killed), (.error ⟨.killed, .shutdown .interrupt⟩, .killed)] := rfl

end Machine

end Pipewright
