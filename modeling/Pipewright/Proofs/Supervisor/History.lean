import Mathlib.Data.List.Induction
import Pipewright.Supervisor.Watch

set_option autoImplicit false

/-! # What an outcome tells

A run of a watch is any list of wake-ups of which each is ready when it is taken (`Watch.IsRun`), so
that all interleavings are runs. `Watch.Fits` is the invariant of the watch between wake-ups: what
its state and its deadline say about the wake-ups so far. `Watch.Verdict` lists how a run can stand:
`run_verdict` says that every run stands so, and `run_tells` reads the history off the outcome.

Killing is a step on a state of its own, so that a program that was never killed is one whose state
is as it was, and a program that was killed once is one on which that step was taken once. -/

namespace Pipewright

namespace Wake

/-- Whether the program is gone, or waiting for it has failed. -/
def isExit : Wake → Bool
  | .exited _ => true
  | _ => false

/-- Whether the program was asked to stop. -/
def isRequest : Wake → Bool
  | .requested _ => true
  | _ => false

/-- Whether the time to stop is over. -/
def isDeadline : Wake → Bool
  | .deadlinePassed => true
  | _ => false

end Wake

/-- The number of requests to stop. -/
def requestCount (wakes : List (Nat × Wake)) : Nat := wakes.countP (·.2.isRequest)

/-- The last thing that happened is that the program ended with this status. -/
def EndsWith (status : ExitStatus) (wakes : List (Nat × Wake)) : Prop :=
  ∃ earlier now, wakes = earlier ++ [(now, .exited (.ok status))]

/-- After a request to stop there was another one, or the time to stop was over, and the program had
    not ended by then. -/
def IsForced (wakes : List (Nat × Wake)) : Prop :=
  ∃ before between first last, wakes = before ++ first :: (between ++ [last]) ∧
    first.2.isRequest = true ∧ (last.2.isRequest = true ∨ last.2.isDeadline = true) ∧
    ∀ wake ∈ wakes, wake.2.isExit = false

namespace Watch

variable {σ : Type} {pid : Option Nat} {stopTimeout : Option Nat}
  {kill : StateM σ (Except String Unit)}

/-- The wake-ups can come one after the other, and none comes after supervision is over. -/
def IsRun (stopTimeout : Option Nat) (kill : StateM σ (Except String Unit)) :
    Watch → σ → List (Nat × Wake) → Prop
  | _, _, [] => True
  | watch, child, (now, wake) :: rest =>
    wake.IsReady watch now ∧
      match (watch.step stopTimeout kill now wake).run child with
      | (.watching next, child) => IsRun stopTimeout kill next child rest
      | _ => rest = []

/-- What a watch says about the wake-ups so far. No deadline is set before the first request, and
    then one is set if there is a limit. -/
structure Fits (pid : Option Nat) (stopTimeout : Option Nat) (history : List (Nat × Wake))
    (watch : Watch) : Prop where
  pid_eq : watch.machine.pid = pid
  live : ∀ wake ∈ history, wake.2.isExit = false ∧ wake.2.isDeadline = false
  phase :
    (watch.machine.state = .running ∧ requestCount history = 0 ∧ watch.deadline = none) ∨
    (watch.machine.state = .stopping ∧ requestCount history = 1 ∧
      watch.deadline.isSome = stopTimeout.isSome)

/-- How a run from a state of the program can stand, with the state that it leaves. -/
inductive Verdict (pid : Option Nat) (stopTimeout : Option Nat)
    (kill : StateM σ (Except String Unit)) (child : σ) :
    List (Nat × Wake) → WatchResult × σ → Prop
  | watching {history : List (Nat × Wake)} {watch : Watch}
      (h : Fits pid stopTimeout history watch) :
      Verdict pid stopTimeout kill child history (.watching watch, child)
  | exited {history : List (Nat × Wake)} {watch : Watch} (now : Nat) (status : ExitStatus)
      (h : Fits pid stopTimeout history watch) :
      Verdict pid stopTimeout kill child (history ++ [(now, .exited (.ok status))])
        (.ended ⟨pid, watch.machine.state, some status⟩, child)
  | waitFailed {history : List (Nat × Wake)} {watch : Watch} (now : Nat) (e message : String)
      (h : Fits pid stopTimeout history watch) :
      Verdict pid stopTimeout kill child (history ++ [(now, .exited (.error e))])
        (.failed (.runtime message), child)
  | killed {history : List (Nat × Wake)} {watch : Watch} {last : Wake} {child' : σ} (now : Nat)
      (h : Fits pid stopTimeout history watch) (hstopping : watch.machine.state = .stopping)
      (hlast : last.isRequest = true ∨ last.isDeadline = true ∧ stopTimeout.isSome = true)
      (hkill : kill.run child = (.ok (), child')) :
      Verdict pid stopTimeout kill child (history ++ [(now, last)])
        (.ended ⟨pid, .killed, none⟩, child')
  | killFailed {history : List (Nat × Wake)} {watch : Watch} {last : Wake} {child' : σ} {e : String}
      (now : Nat) (message : String) (h : Fits pid stopTimeout history watch)
      (hstopping : watch.machine.state = .stopping)
      (hlast : last.isRequest = true ∨ last.isDeadline = true ∧ stopTimeout.isSome = true)
      (hkill : kill.run child = (.error e, child')) :
      Verdict pid stopTimeout kill child (history ++ [(now, last)])
        (.failed (.runtime message), child')

/-! ## One wake-up -/

theorem fits_start (pid stopTimeout : Option Nat) : Fits pid stopTimeout [] (.start pid) :=
  ⟨rfl, by simp, Or.inl ⟨rfl, rfl, rfl⟩⟩

theorem requestCount_append_singleton (history : List (Nat × Wake)) (now : Nat) (wake : Wake) :
    requestCount (history ++ [(now, wake)]) =
      requestCount history + if wake.isRequest then 1 else 0 := by
  simp [requestCount, List.countP_append, List.countP_singleton]

theorem Fits.live_append {history : List (Nat × Wake)} {watch : Watch}
    (h : Fits pid stopTimeout history watch) (now : Nat) {wake : Wake}
    (hwake : wake.isExit = false ∧ wake.isDeadline = false) :
    ∀ other ∈ history ++ [(now, wake)], other.2.isExit = false ∧ other.2.isDeadline = false := by
  intro other hother
  rcases List.mem_append.1 hother with hother | hother
  · exact h.live other hother
  · rw [List.mem_singleton.1 hother]
    exact hwake

/-- A tick, or the closing of the channel, changes nothing that is said. -/
theorem Fits.quiet {history : List (Nat × Wake)} {watch next : Watch}
    (h : Fits pid stopTimeout history watch) (now : Nat) {wake : Wake}
    (hwake : wake.isExit = false ∧ wake.isDeadline = false) (hrequest : wake.isRequest = false)
    (hmachine : next.machine = watch.machine) (hdeadline : next.deadline = watch.deadline) :
    Fits pid stopTimeout (history ++ [(now, wake)]) next := by
  refine ⟨by rw [hmachine, h.pid_eq], h.live_append now hwake, ?_⟩
  rw [hmachine, hdeadline, requestCount_append_singleton, hrequest]
  exact h.phase

/-- The first request sets the deadline, if there is a limit. -/
theorem Fits.firstRequest {history : List (Nat × Wake)} {watch : Watch}
    (h : Fits pid stopTimeout history watch) (hrunning : watch.machine.state = .running)
    (now : Nat) (signal : ShutdownSignal) :
    Fits pid stopTimeout (history ++ [(now, .requested signal)])
      { watch with
        machine := { watch.machine with state := .stopping }
        deadline := watch.deadline.or (stopTimeout.map (now + ·)) } := by
  rcases h.phase with ⟨-, hcount, hdeadline⟩ | ⟨hstopping, -, -⟩
  · refine ⟨h.pid_eq, h.live_append now ⟨rfl, rfl⟩, Or.inr ⟨rfl, ?_, ?_⟩⟩
    · rw [requestCount_append_singleton, hcount]
      rfl
    · simp [hdeadline]
  · rw [hrunning] at hstopping
    cases hstopping

/-- What killing the program comes to. -/
theorem Fits.finish {history : List (Nat × Wake)} {watch : Watch}
    (h : Fits pid stopTimeout history watch) (hstopping : watch.machine.state = .stopping)
    (now : Nat) {last : Wake}
    (hlast : last.isRequest = true ∨ last.isDeadline = true ∧ stopTimeout.isSome = true)
    (child : σ) :
    Verdict pid stopTimeout kill child (history ++ [(now, last)])
      ((Watch.finish kill { watch.machine with state := .killed }).run child) := by
  unfold Watch.finish
  rw [StateT.run_bind, h.pid_eq]
  rcases hkill : kill.run child with ⟨_ | _, child'⟩
  · exact .killFailed now _ h hstopping hlast hkill
  · exact .killed now h hstopping hlast hkill

/-- Whether supervision goes on after a result. -/
def goesOn : WatchResult → Bool
  | .watching _ => true
  | _ => false

theorem goesOn_finish (kill : StateM σ (Except String Unit)) (machine : Machine) (child : σ) :
    goesOn ((Watch.finish kill machine).run child).1 = false := by
  unfold Watch.finish
  rw [StateT.run_bind]
  rcases kill.run child with ⟨_ | _, child'⟩ <;> rfl

/-- While the program is stopping, every event kills it. -/
theorem handle_of_stopping {watch : Watch} (hstopping : watch.machine.state = .stopping) (now : Nat)
    (event : SupervisorEvent) :
    handle stopTimeout kill now watch event =
      Watch.finish kill { watch.machine with state := .killed } := by
  cases event <;> simp [handle, Machine.step, hstopping, SupervisorState.next]

/-- After a wake-up that was ready, the watch fits, or the run stands at its end. -/
theorem Fits.step {history : List (Nat × Wake)} {watch : Watch}
    (h : Fits pid stopTimeout history watch) {now : Nat} {wake : Wake}
    (hready : wake.IsReady watch now) (child : σ) :
    (∃ next, (watch.step stopTimeout kill now wake).run child = (.watching next, child) ∧
      Fits pid stopTimeout (history ++ [(now, wake)]) next) ∨
    ∃ result child', (watch.step stopTimeout kill now wake).run child = (result, child') ∧
      goesOn result = false ∧
      Verdict pid stopTimeout kill child (history ++ [(now, wake)]) (result, child') := by
  cases wake with
  | exited status =>
    cases status with
    | ok status =>
      refine Or.inr ⟨_, child, rfl, rfl, ?_⟩
      rw [h.pid_eq]
      exact .exited now status h
    | error e => exact Or.inr ⟨_, child, rfl, rfl, .waitFailed now e _ h⟩
  | requested signal =>
    rcases h.phase with ⟨hrunning, -, -⟩ | ⟨hstopping, -, -⟩
    · refine Or.inl ⟨_, ?_, h.firstRequest hrunning now signal⟩
      simp only [Watch.step, handle, Machine.step, hrunning, SupervisorState.next]
      rfl
    · have hstep : watch.step stopTimeout kill now (.requested signal) = _ :=
        handle_of_stopping hstopping now _
      rw [hstep]
      exact Or.inr ⟨_, _, rfl, goesOn_finish kill _ child,
        h.finish hstopping now (Or.inl rfl) child⟩
  | channelClosed => exact Or.inl ⟨_, rfl, h.quiet now ⟨rfl, rfl⟩ rfl rfl rfl⟩
  | deadlinePassed =>
    -- a deadline is set only when the program is stopping and there is a limit
    obtain ⟨deadline, hset, -⟩ := hready
    rw [Option.mem_def] at hset
    rcases h.phase with ⟨-, -, hnone⟩ | ⟨hstopping, -, hlimit⟩
    · rw [hnone] at hset
      cases hset
    · rw [hset] at hlimit
      have hstep : watch.step stopTimeout kill now .deadlinePassed = _ :=
        handle_of_stopping hstopping now _
      rw [hstep]
      exact Or.inr ⟨_, _, rfl, goesOn_finish kill _ child,
        h.finish hstopping now (Or.inr ⟨rfl, hlimit.symm⟩) child⟩
  | tick => exact Or.inl ⟨_, rfl, h.quiet now ⟨rfl, rfl⟩ rfl rfl rfl⟩

/-! ## Whole runs -/

/-- How a run stands that comes behind wake-ups that the watch fits. -/
theorem run_verdict {history : List (Nat × Wake)} {watch : Watch}
    (h : Fits pid stopTimeout history watch) (child : σ) {wakes : List (Nat × Wake)}
    (hrun : IsRun stopTimeout kill watch child wakes) :
    Verdict pid stopTimeout kill child (history ++ wakes)
      ((Watch.run stopTimeout kill watch wakes).run child) := by
  induction wakes generalizing history watch with
  | nil =>
    rw [List.append_nil]
    exact .watching h
  | cons entry rest ih =>
    obtain ⟨now, wake⟩ := entry
    obtain ⟨hready, hrest⟩ := hrun
    unfold Watch.run
    rw [StateT.run_bind]
    rcases h.step hready child with ⟨next, hstep, hnext⟩ | ⟨result, child', hstep, hover, hverdict⟩
    · rw [hstep] at hrest ⊢
      have hall := ih hnext hrest
      rw [List.append_assoc, List.singleton_append] at hall
      exact hall
    · rw [hstep] at hrest ⊢
      cases result with
      | watching next => cases hover
      | ended outcome =>
        obtain rfl : rest = [] := hrest
        exact hverdict
      | failed failure =>
        obtain rfl : rest = [] := hrest
        exact hverdict

/-! ## Reading the history off the outcome -/

theorem Fits.running_iff {history : List (Nat × Wake)} {watch : Watch}
    (h : Fits pid stopTimeout history watch) :
    watch.machine.state = .running ↔ requestCount history = 0 := by
  rcases h.phase with ⟨hstate, hcount, -⟩ | ⟨hstate, hcount, -⟩ <;> simp [hstate, hcount]

theorem Fits.stopping_iff {history : List (Nat × Wake)} {watch : Watch}
    (h : Fits pid stopTimeout history watch) :
    watch.machine.state = .stopping ↔ requestCount history = 1 := by
  rcases h.phase with ⟨hstate, hcount, -⟩ | ⟨hstate, hcount, -⟩ <;> simp [hstate, hcount]

/-- A watch never waits behind a second request or the end of the time to stop. -/
theorem Fits.not_isForced {wakes : List (Nat × Wake)} {watch : Watch}
    (h : Fits pid stopTimeout wakes watch) : ¬ IsForced wakes := by
  rintro ⟨before, between, first, last, rfl, hfirst, hlast, -⟩
  rcases hlast with hlast | hlast
  · have hcount : 2 ≤ requestCount (before ++ first :: (between ++ [last])) := by
      simp only [requestCount, List.countP_append, List.countP_cons, List.countP_nil, hfirst, hlast,
        if_true]
      omega
    rcases h.phase with ⟨-, hphase, -⟩ | ⟨-, hphase, -⟩ <;> omega
  · have hlive := (h.live last (by simp)).2
    rw [hlast] at hlive
    cases hlive

/-- A watch that kills the program does so after a first request. -/
theorem Fits.isForced {history : List (Nat × Wake)} {watch : Watch}
    (h : Fits pid stopTimeout history watch) (hstopping : watch.machine.state = .stopping)
    (now : Nat) {last : Wake} (hlast : last.isRequest = true ∨ last.isDeadline = true) :
    IsForced (history ++ [(now, last)]) := by
  have hpos : 0 < requestCount history := by rw [h.stopping_iff.1 hstopping]; exact Nat.one_pos
  obtain ⟨first, hmem, hfirst⟩ := List.countP_pos_iff.1 hpos
  obtain ⟨before, between, rfl⟩ := List.append_of_mem hmem
  refine ⟨before, between, first, (now, last), by simp, hfirst, hlast, fun wake hwake => ?_⟩
  rcases List.mem_append.1 hwake with hwake | hwake
  · exact (h.live wake hwake).1
  · rw [List.mem_singleton.1 hwake]
    cases last <;> simp_all [Wake.isExit, Wake.isRequest, Wake.isDeadline]

theorem not_isForced_of_exit (history : List (Nat × Wake)) (now : Nat)
    (status : Except String ExitStatus) : ¬ IsForced (history ++ [(now, .exited status)]) := by
  rintro ⟨before, between, first, last, -, -, -, hlive⟩
  have hexit := hlive (now, .exited status) (by simp)
  cases hexit

variable {child : σ} {wakes : List (Nat × Wake)} {result : WatchResult × σ}

/-- Wake-ups that end with an exit leave no other outcome. -/
theorem Verdict.of_endsWith {status : ExitStatus}
    (hv : Verdict pid stopTimeout kill child wakes result) (hends : EndsWith status wakes) :
    ∃ history watch, Fits pid stopTimeout history watch ∧
      requestCount wakes = requestCount history ∧
      result = (.ended ⟨pid, watch.machine.state, some status⟩, child) := by
  obtain ⟨earlier, now, hwakes⟩ := hends
  cases hv with
  | watching h =>
    have hexit := (h.live (now, .exited (.ok status)) (by simp [hwakes])).1
    cases hexit
  | exited _ other h =>
    obtain ⟨rfl, hlast⟩ := List.append_inj' hwakes rfl
    simp only [List.cons.injEq, Prod.mk.injEq, Wake.exited.injEq, Except.ok.injEq] at hlast
    obtain ⟨⟨-, rfl⟩, -⟩ := hlast
    exact ⟨_, _, h, requestCount_append_singleton _ _ _, rfl⟩
  | waitFailed _ e message h =>
    obtain ⟨-, hlast⟩ := List.append_inj' hwakes rfl
    simp at hlast
  | killed _ h hstopping hlast hkill =>
    obtain ⟨-, hsame⟩ := List.append_inj' hwakes rfl
    simp only [List.cons.injEq, Prod.mk.injEq, and_true] at hsame
    simp [hsame.2, Wake.isRequest, Wake.isDeadline] at hlast
  | killFailed _ message h hstopping hlast hkill =>
    obtain ⟨-, hsame⟩ := List.append_inj' hwakes rfl
    simp only [List.cons.injEq, Prod.mk.injEq, and_true] at hsame
    simp [hsame.2, Wake.isRequest, Wake.isDeadline] at hlast

/-- The program ended by itself: the state tells how many requests came before. -/
theorem Verdict.exited_iff (hv : Verdict pid stopTimeout kill child wakes result)
    (state : SupervisorState) (status : ExitStatus) (child' : σ) :
    result = (.ended ⟨pid, state, some status⟩, child') ↔
      child' = child ∧ EndsWith status wakes ∧
        ((state = .running ∧ requestCount wakes = 0) ∨
          (state = .stopping ∧ requestCount wakes = 1)) := by
  constructor
  · intro hresult
    cases hv with
    | watching | waitFailed | killed | killFailed => simp at hresult
    | @exited history watch now other h =>
      simp only [Prod.mk.injEq, WatchResult.ended.injEq, SupervisorOutcome.mk.injEq,
        Option.some.injEq, true_and] at hresult
      obtain ⟨⟨rfl, rfl⟩, rfl⟩ := hresult
      refine ⟨rfl, ⟨history, now, rfl⟩, ?_⟩
      rw [requestCount_append_singleton]
      rcases h.phase with ⟨hstate, hcount, -⟩ | ⟨hstate, hcount, -⟩
      · exact Or.inl ⟨hstate, hcount⟩
      · exact Or.inr ⟨hstate, hcount⟩
  · rintro ⟨rfl, hends, hphase⟩
    obtain ⟨history, watch, h, hcount, rfl⟩ := hv.of_endsWith hends
    rw [hcount, ← h.running_iff, ← h.stopping_iff] at hphase
    rcases hphase with ⟨rfl, hstate⟩ | ⟨rfl, hstate⟩ <;> rw [hstate]

/-- The program was killed: it had been asked to stop before. -/
theorem Verdict.killed_iff (hv : Verdict pid stopTimeout kill child wakes result) (child' : σ) :
    result = (.ended ⟨pid, .killed, none⟩, child') ↔
      kill.run child = (.ok (), child') ∧ IsForced wakes := by
  constructor
  · intro hresult
    cases hv with
    | watching | exited | waitFailed | killFailed => simp at hresult
    | killed now h hstopping hlast hkill =>
      simp only [Prod.mk.injEq, true_and] at hresult
      subst hresult
      exact ⟨hkill, h.isForced hstopping now (hlast.imp_right And.left)⟩
  · rintro ⟨hkilled, hforced⟩
    cases hv with
    | watching h => exact absurd hforced h.not_isForced
    | exited now status h => exact absurd hforced (not_isForced_of_exit _ now _)
    | waitFailed now e message h => exact absurd hforced (not_isForced_of_exit _ now _)
    | killed now h hstopping hlast hkill =>
      rw [hkilled] at hkill
      rw [(Prod.mk.inj hkill).2]
    | killFailed now message h hstopping hlast hkill =>
      rw [hkilled] at hkill
      cases hkill

/-- Supervision fails only when waiting for the program or killing it fails. -/
theorem Verdict.of_failed (hv : Verdict pid stopTimeout kill child wakes result)
    {failure : Failure} {child' : σ} (hresult : result = (.failed failure, child')) :
    (∃ message, failure = .runtime message) ∧
      ((child' = child ∧ ∃ earlier now e, wakes = earlier ++ [(now, .exited (.error e))]) ∨
        ∃ e, kill.run child = (.error e, child') ∧ IsForced wakes) := by
  cases hv with
  | watching | exited | killed => simp at hresult
  | waitFailed now e message h =>
    simp only [Prod.mk.injEq, WatchResult.failed.injEq] at hresult
    obtain ⟨rfl, rfl⟩ := hresult
    exact ⟨⟨message, rfl⟩, Or.inl ⟨rfl, _, now, e, rfl⟩⟩
  | @killFailed _ _ _ _ e now message h hstopping hlast hkill =>
    simp only [Prod.mk.injEq, WatchResult.failed.injEq] at hresult
    obtain ⟨rfl, rfl⟩ := hresult
    exact ⟨⟨message, rfl⟩,
      Or.inr ⟨e, hkill, h.isForced hstopping now (hlast.imp_right And.left)⟩⟩

/-- Every outcome is one of three, and tells the process number. -/
theorem Verdict.of_ended (hv : Verdict pid stopTimeout kill child wakes result)
    {outcome : SupervisorOutcome} {child' : σ} (hresult : result = (.ended outcome, child')) :
    outcome.pid = pid ∧
      ((∃ status, outcome.exitStatus = some status ∧
          (outcome.finalState = .running ∨ outcome.finalState = .stopping)) ∨
        (outcome.exitStatus = none ∧ outcome.finalState = .killed)) := by
  cases hv with
  | watching | waitFailed | killFailed => simp at hresult
  | exited now status h =>
    simp only [Prod.mk.injEq, WatchResult.ended.injEq] at hresult
    obtain ⟨rfl, rfl⟩ := hresult
    refine ⟨rfl, Or.inl ⟨status, rfl, ?_⟩⟩
    exact h.phase.imp And.left And.left
  | killed now h hstopping hlast hkill =>
    simp only [Prod.mk.injEq, WatchResult.ended.injEq] at hresult
    obtain ⟨rfl, rfl⟩ := hresult
    exact ⟨rfl, Or.inr ⟨rfl, rfl⟩⟩

/-- A last request is one request more than there were before. -/
theorem Fits.requestCount_last {history : List (Nat × Wake)} {watch : Watch}
    (h : Fits pid stopTimeout history watch) (hstopping : watch.machine.state = .stopping)
    (now : Nat) {last : Wake} (hlast : last.isRequest = true) :
    requestCount (history ++ [(now, last)]) = 2 := by
  rw [requestCount_append_singleton, h.stopping_iff.1 hstopping, if_pos hlast]

/-- The program is left alone unless it is forced to stop; without a limit, one request does not
    force it. -/
theorem Verdict.child_unchanged (hv : Verdict pid stopTimeout kill child wakes result)
    (hspared : ¬ IsForced wakes ∨ (stopTimeout = none ∧ requestCount wakes ≤ 1)) :
    result.2 = child := by
  have hforced : ∀ {history : List (Nat × Wake)} {watch : Watch} {now : Nat} {last : Wake},
      wakes = history ++ [(now, last)] → Fits pid stopTimeout history watch →
      watch.machine.state = .stopping →
      last.isRequest = true ∨ last.isDeadline = true ∧ stopTimeout.isSome = true → False := by
    rintro history watch now last rfl h hstopping hlast
    rcases hspared with hnot | ⟨hnone, hcount⟩
    · exact hnot (h.isForced hstopping now (hlast.imp_right And.left))
    · rcases hlast with hrequest | ⟨-, hlimit⟩
      · rw [h.requestCount_last hstopping now hrequest] at hcount
        omega
      · rw [hnone] at hlimit
        cases hlimit
  cases hv with
  | watching | exited | waitFailed => rfl
  | killed now h hstopping hlast hkill => exact (hforced rfl h hstopping hlast).elim
  | killFailed now message h hstopping hlast hkill => exact (hforced rfl h hstopping hlast).elim

/-! ## The watch of a started program -/

/-- A program that can always be killed. -/
def killable : StateM Unit (Except String Unit) := pure (.ok ())

theorem run_step_killable (watch : Watch) (now : Nat) (wake : Wake) :
    (watch.step stopTimeout killable now wake).run () =
      (watch.stepProcess stopTimeout now wake, ()) := by
  have hhandle : ∀ event, (handle stopTimeout killable now watch event).run () =
      (Id.run (handle stopTimeout (pure (.ok ())) now watch event), ()) := by
    intro event
    unfold handle
    rcases watch.machine.step event with ⟨_ | _ | _, machine⟩ <;> rfl
  cases wake with
  | exited status => cases status <;> rfl
  | requested signal => exact hhandle _
  | deadlinePassed => exact hhandle _
  | channelClosed | tick => rfl

/-- One wake-up that is ready is a run. -/
theorem run_singleton (stopTimeout : Option Nat) {watch : Watch} {now : Nat} {wake : Wake}
    (hready : wake.IsReady watch now) :
    IsRun stopTimeout killable watch () [(now, wake)] ∧
      (Watch.run stopTimeout killable watch [(now, wake)]).run () =
        (watch.stepProcess stopTimeout now wake, ()) := by
  simp only [IsRun, Watch.run, StateT.run_bind, run_step_killable]
  cases watch.stepProcess stopTimeout now wake <;> exact ⟨⟨hready, trivial⟩, rfl⟩

/-- A run goes on behind a wake-up after which the program is still watched. -/
theorem run_cons {watch next : Watch} {now : Nat} {wake : Wake} {rest : List (Nat × Wake)}
    (hready : wake.IsReady watch now)
    (hstep : watch.stepProcess stopTimeout now wake = .watching next)
    (hrest : IsRun stopTimeout killable next () rest) :
    IsRun stopTimeout killable watch () ((now, wake) :: rest) ∧
      (Watch.run stopTimeout killable watch ((now, wake) :: rest)).run () =
        (Watch.run stopTimeout killable next rest).run () := by
  simp only [IsRun, Watch.run, StateT.run_bind, run_step_killable, hstep]
  exact ⟨⟨hready, hrest⟩, rfl⟩

/-- Watching a started program is a run: it takes those of the program's wake-ups that are ready,
    and the deadline when it passes. -/
theorem watchProcess_eq_run (watch : Watch) (wakes : List (Nat × Wake)) :
    ∃ taken, IsRun stopTimeout killable watch () taken ∧
      (Watch.run stopTimeout killable watch taken).run () =
        ((watchProcess stopTimeout watch wakes).1, ()) := by
  induction wakes generalizing watch with
  | nil =>
    unfold watchProcess
    cases hdeadline : watch.deadline with
    | none => exact ⟨[], trivial, rfl⟩
    | some deadline =>
      have hready : Wake.IsReady watch deadline .deadlinePassed :=
        ⟨deadline, hdeadline, Nat.le_refl deadline⟩
      exact ⟨_, run_singleton stopTimeout hready⟩
  | cons entry rest ih =>
    obtain ⟨now, wake⟩ := entry
    unfold watchProcess
    cases hearly : watch.deadline.filter (· ≤ now) with
    | some deadline =>
      have hready : Wake.IsReady watch deadline .deadlinePassed :=
        ⟨deadline, (Option.filter_eq_some_iff.1 hearly).1, Nat.le_refl deadline⟩
      exact ⟨_, run_singleton stopTimeout hready⟩
    | none =>
      dsimp only
      split_ifs with hready
      · have hsingle := run_singleton stopTimeout hready
        cases hstep : watch.stepProcess stopTimeout now wake with
        | watching next =>
          obtain ⟨taken, htaken, hresult⟩ := ih next
          obtain ⟨hrun, hsame⟩ := run_cons hready hstep htaken
          exact ⟨_, hrun, hsame.trans hresult⟩
        | ended outcome =>
          rw [hstep] at hsingle
          exact ⟨_, hsingle⟩
        | failed failure =>
          rw [hstep] at hsingle
          exact ⟨_, hsingle⟩
      · exact ih watch

/-- **What an outcome tells.** Over all runs of a watch: the program is found running with its exit
    status when it ended before any request, stopping with its exit status when it ended after one
    request, and killed without one when it was forced to stop; it was then killed once, and in all
    other runs it was left alone, as it is when there is one request and no limit. Supervision fails
    only when waiting for the program or killing it fails. -/
theorem run_tells (pid stopTimeout : Option Nat) (kill : StateM σ (Except String Unit)) (child : σ)
    (wakes : List (Nat × Wake)) (hrun : IsRun stopTimeout kill (.start pid) child wakes) :
    let result := (Watch.run stopTimeout kill (.start pid) wakes).run child
    (∀ status child', result = (.ended ⟨pid, .running, some status⟩, child') ↔
      child' = child ∧ EndsWith status wakes ∧ requestCount wakes = 0) ∧
    (∀ status child', result = (.ended ⟨pid, .stopping, some status⟩, child') ↔
      child' = child ∧ EndsWith status wakes ∧ requestCount wakes = 1) ∧
    (∀ child', result = (.ended ⟨pid, .killed, none⟩, child') ↔
      kill.run child = (.ok (), child') ∧ IsForced wakes) ∧
    (∀ outcome child', result = (.ended outcome, child') →
      outcome.pid = pid ∧
        ((∃ status, outcome.exitStatus = some status ∧
            (outcome.finalState = .running ∨ outcome.finalState = .stopping)) ∨
          (outcome.exitStatus = none ∧ outcome.finalState = .killed))) ∧
    (∀ failure child', result = (.failed failure, child') →
      (∃ message, failure = .runtime message) ∧
        ((child' = child ∧ ∃ earlier now e, wakes = earlier ++ [(now, .exited (.error e))]) ∨
          ∃ e, kill.run child = (.error e, child') ∧ IsForced wakes)) ∧
    (¬ IsForced wakes → result.2 = child) ∧
    (stopTimeout = none → requestCount wakes ≤ 1 → result.2 = child) := by
  intro result
  have hv : Verdict pid stopTimeout kill child wakes result :=
    run_verdict (fits_start pid stopTimeout) child hrun
  refine ⟨fun status child' => ?_, fun status child' => ?_, hv.killed_iff,
    fun _ _ => hv.of_ended, fun _ _ => hv.of_failed, fun hnot => hv.child_unchanged (Or.inl hnot),
    fun hnone hcount => hv.child_unchanged (Or.inr ⟨hnone, hcount⟩)⟩
  · rw [hv.exited_iff]
    simp
  · rw [hv.exited_iff]
    simp

/-- A request, and the end of the time to stop behind it, kill the program once. -/
theorem run_tells_limit :
    let kill : StateM Nat (Except String Unit) := fun kills => (.ok (), kills + 1)
    let wakes : List (Nat × Wake) :=
      [(0, .tick), (10, .requested .interrupt), (20, .channelClosed), (30, .tick),
        (90, .deadlinePassed)]
    IsRun (some 80) kill (.start (some 7)) 0 wakes ∧
      (Watch.run (some 80) kill (.start (some 7)) wakes).run 0 =
        (.ended ⟨some 7, .killed, none⟩, 1) := by
  intro kill wakes
  have hrun : IsRun (some 80) kill (.start (some 7)) 0 wakes :=
    ⟨trivial, rfl, rfl, trivial, ⟨90, rfl, Nat.le_refl 90⟩, rfl⟩
  refine ⟨hrun, ((run_tells (some 7) (some 80) kill 0 wakes hrun).2.2.1 1).2 ⟨rfl, ?_⟩⟩
  exact ⟨[(0, .tick)], [(20, .channelClosed), (30, .tick)], (10, .requested .interrupt),
    (90, .deadlinePassed), rfl, rfl, Or.inr rfl, by decide⟩

end Watch

end Pipewright
