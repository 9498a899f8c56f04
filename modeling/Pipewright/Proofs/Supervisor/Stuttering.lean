import Pipewright.Proofs.Supervisor.History

set_option autoImplicit false

/-! # Ticks, the channel and the deadline

Between two wake-ups a watch knows the state of its machine, its deadline, and whether the channel
of requests is open. `Watch.Fits.step_watching` lists the wake-ups behind which it goes on with
watching; the deadline, the channel and the events that the machine takes are read off that list.

Ticks and the closing of the channel are quiet: they hand no event to the machine. Without some of
them a run is a run still (`Watch.Lags.thin`), where the watch is the same but for the channel. The
main result, `Watch.run_carries_nothing_stale`, is about all runs of a watch. -/

namespace Pipewright

namespace Wake

/-- The event that the machine is handed. -/
def event? : Wake → Option SupervisorEvent
  | .requested signal => some (.shutdown signal)
  | .deadlinePassed => some .stopTimeoutElapsed
  | .exited _ | .channelClosed | .tick => none

/-- Whether the channel of requests was closed. -/
def isClosing : Wake → Bool
  | .channelClosed => true
  | _ => false

/-- Whether nothing happened that concerns the program. -/
def isQuiet : Wake → Bool
  | .channelClosed | .tick => true
  | _ => false

theorem event?_eq_none (wake : Wake) (hquiet : wake.isQuiet = true) : wake.event? = none := by
  cases wake with
  | channelClosed | tick => rfl
  | exited _ | requested _ | deadlinePassed => cases hquiet

end Wake

/-- When the program was first asked to stop. -/
def firstRequest? (wakes : List (Nat × Wake)) : Option Nat :=
  (wakes.find? (·.2.isRequest)).map (·.1)

/-- The number of times that the channel of requests was found closed. -/
def closingCount (wakes : List (Nat × Wake)) : Nat := wakes.countP (·.2.isClosing)

/-- The second list is the first without some of its ticks and closings of the channel. -/
inductive Thinned : List (Nat × Wake) → List (Nat × Wake) → Prop
  | nil : Thinned [] []
  | keep {wakes fewer : List (Nat × Wake)} (entry : Nat × Wake) (h : Thinned wakes fewer) :
      Thinned (entry :: wakes) (entry :: fewer)
  | drop {wakes fewer : List (Nat × Wake)} {entry : Nat × Wake}
      (hquiet : entry.2.isQuiet = true) (h : Thinned wakes fewer) :
      Thinned (entry :: wakes) fewer

theorem firstRequest?_append_singleton (history : List (Nat × Wake)) (now : Nat) (wake : Wake) :
    firstRequest? (history ++ [(now, wake)]) =
      (firstRequest? history).or (if wake.isRequest then some now else none) := by
  unfold firstRequest?
  rw [List.find?_append, Option.map_or, List.find?_singleton]
  cases hrequest : wake.isRequest <;> simp

theorem firstRequest?_eq_none {wakes : List (Nat × Wake)} (h : requestCount wakes = 0) :
    firstRequest? wakes = none := by
  simpa [firstRequest?, requestCount] using h

namespace Watch

variable {σ : Type} {pid : Option Nat} {stopTimeout : Option Nat}
  {kill : StateM σ (Except String Unit)}

/-- An event that the machine was handed: when, and from which state to which. -/
structure Transition where
  time : Nat
  before : SupervisorState
  event : SupervisorEvent
  after : SupervisorState
  deriving DecidableEq, Repr

/-- The events that a run hands to the machine. -/
def transitions (stopTimeout : Option Nat) (kill : StateM σ (Except String Unit)) :
    Watch → σ → List (Nat × Wake) → List Transition
  | _, _, [] => []
  | watch, child, (now, wake) :: rest =>
    let machine := watch.machine
    let taken := wake.event?.toList.map fun event =>
      ⟨now, machine.state, event, (machine.step event).2.state⟩
    match (watch.step stopTimeout kill now wake).run child with
    | (.watching next, child) => taken ++ transitions stopTimeout kill next child rest
    | _ => taken

/-! ## The wake-ups behind which the program is still watched -/

/-- The program is still watched behind a tick, behind the closing of the channel, and behind the
    first request. -/
theorem Fits.step_watching {history : List (Nat × Wake)} {watch next : Watch}
    (h : Fits pid stopTimeout history watch) {now : Nat} {wake : Wake} {child child' : σ}
    (hready : wake.IsReady watch now)
    (hstep : (watch.step stopTimeout kill now wake).run child = (.watching next, child')) :
    (wake = .tick ∧ next = watch) ∨
    (wake = .channelClosed ∧ next = { watch with channelIsOpen := false }) ∨
    (∃ signal, wake = .requested signal ∧ watch.machine.state = .running ∧
      next = { watch with
        machine := { watch.machine with state := .stopping }
        deadline := watch.deadline.or (stopTimeout.map (now + ·)) }) := by
  -- while the program is stopping, an event ends supervision
  have hover : ∀ event, watch.machine.state = .stopping →
      (handle stopTimeout kill now watch event).run child ≠ (.watching next, child') := by
    intro event hstopping hwatching
    rw [handle_of_stopping hstopping] at hwatching
    have hgoes := goesOn_finish kill { watch.machine with state := .killed } child
    rw [hwatching] at hgoes
    cases hgoes
  cases wake with
  | exited status => cases status <;> cases hstep
  | requested signal =>
    rcases h.phase with ⟨hrunning, -, -⟩ | ⟨hstopping, -, -⟩
    · refine Or.inr (Or.inr ⟨signal, rfl, hrunning, ?_⟩)
      simp only [Watch.step, handle, Machine.step, hrunning, SupervisorState.next] at hstep
      cases hstep
      rfl
    · exact absurd hstep (hover _ hstopping)
  | channelClosed =>
    cases hstep
    exact Or.inr (Or.inl ⟨rfl, rfl⟩)
  | deadlinePassed =>
    obtain ⟨deadline, hset, -⟩ := hready
    rcases h.phase with ⟨-, -, hnone⟩ | ⟨hstopping, -, -⟩
    · rw [hnone] at hset
      cases hset
    · exact absurd hstep (hover _ hstopping)
  | tick =>
    cases hstep
    exact Or.inl ⟨rfl, rfl⟩

/-- When the time to stop is over, as the first request has it. -/
def armedBy (stopTimeout : Option Nat) (history : List (Nat × Wake)) : Option Nat :=
  (firstRequest? history).bind fun first => stopTimeout.map (first + ·)

/-- The deadline stays the one that the first request has armed. -/
theorem Fits.deadline_step {history : List (Nat × Wake)} {watch next : Watch}
    (h : Fits pid stopTimeout history watch) {now : Nat} {wake : Wake} {child child' : σ}
    (hready : wake.IsReady watch now)
    (hstep : (watch.step stopTimeout kill now wake).run child = (.watching next, child'))
    (hdeadline : watch.deadline = armedBy stopTimeout history) :
    next.deadline = armedBy stopTimeout (history ++ [(now, wake)]) := by
  unfold armedBy at hdeadline ⊢
  rw [firstRequest?_append_singleton]
  rcases h.step_watching hready hstep with
    ⟨rfl, rfl⟩ | ⟨rfl, rfl⟩ | ⟨signal, rfl, hrunning, rfl⟩
  · simpa [Wake.isRequest] using hdeadline
  · simpa [Wake.isRequest] using hdeadline
  · have hnone : firstRequest? history = none := firstRequest?_eq_none (h.running_iff.1 hrunning)
    simp [hdeadline, hnone, Wake.isRequest]

/-- At the head of the loop the watch fits what has happened, and its deadline is the one that the
    first request has armed. -/
theorem run_head {history : List (Nat × Wake)} {watch last : Watch}
    (h : Fits pid stopTimeout history watch)
    (hdeadline : watch.deadline = armedBy stopTimeout history) {child child' : σ}
    {wakes : List (Nat × Wake)} (hrun : IsRun stopTimeout kill watch child wakes)
    (hlast : (Watch.run stopTimeout kill watch wakes).run child = (.watching last, child')) :
    Fits pid stopTimeout (history ++ wakes) last ∧
      last.deadline = armedBy stopTimeout (history ++ wakes) := by
  induction wakes generalizing history watch child with
  | nil =>
    cases hlast
    rw [List.append_nil]
    exact ⟨h, hdeadline⟩
  | cons entry rest ih =>
    obtain ⟨now, wake⟩ := entry
    obtain ⟨hready, hrest⟩ := hrun
    unfold Watch.run at hlast
    rw [StateT.run_bind] at hlast
    rcases h.step hready child with ⟨next, hstep, hnext⟩ | ⟨result, gone, hstep, hover, -⟩
    · rw [hstep] at hrest hlast
      have hall := ih hnext (h.deadline_step hready hstep hdeadline) hrest hlast
      rwa [List.append_assoc, List.singleton_append] at hall
    · rw [hstep] at hlast
      cases result with
      | watching next => cases hover
      | ended outcome => cases hlast
      | failed failure => cases hlast

/-- The wake-ups up to any point of a run are a run. -/
theorem IsRun.of_append {watch : Watch} {child : σ} {before after : List (Nat × Wake)}
    (hrun : IsRun stopTimeout kill watch child (before ++ after)) :
    IsRun stopTimeout kill watch child before := by
  induction before generalizing watch child with
  | nil => trivial
  | cons entry rest ih =>
    obtain ⟨now, wake⟩ := entry
    obtain ⟨hready, hrest⟩ := hrun
    refine ⟨hready, ?_⟩
    split at hrest
    · exact ih hrest
    · exact (List.append_eq_nil_iff.1 hrest).1

/-! ## At the head of the loop -/

/-- The deadline is armed where the program is stopping and there is a limit. -/
theorem Fits.deadline_isSome_iff {history : List (Nat × Wake)} {watch : Watch}
    (h : Fits pid stopTimeout history watch) :
    watch.deadline.isSome ↔ watch.machine.state = .stopping ∧ stopTimeout.isSome := by
  rcases h.phase with ⟨hstate, -, hdeadline⟩ | ⟨hstate, -, hdeadline⟩ <;> simp [hstate, hdeadline]

/-- The machine takes every event that a wake-up can hand to it. -/
theorem Fits.accepts {history : List (Nat × Wake)} {watch : Watch}
    (h : Fits pid stopTimeout history watch) {now : Nat} {wake : Wake} {event : SupervisorEvent}
    (hready : wake.IsReady watch now) (hevent : wake.event? = some event) :
    ∃ action, (watch.machine.step event).1 = .ok action := by
  cases wake with
  | exited _ | channelClosed | tick => cases hevent
  | requested signal =>
    cases hevent
    rcases h.phase with ⟨hstate, -, -⟩ | ⟨hstate, -, -⟩ <;>
      simp [Machine.step, hstate, SupervisorState.next]
  | deadlinePassed =>
    cases hevent
    obtain ⟨deadline, hset, -⟩ := hready
    have harmed : watch.deadline.isSome := by rw [Option.mem_def.1 hset]; rfl
    obtain ⟨hstopping, -⟩ := h.deadline_isSome_iff.1 harmed
    simp [Machine.step, hstopping, SupervisorState.next]

/-- The channel is found closed once, and only while it is open. -/
theorem closingCount_le {history : List (Nat × Wake)} {watch : Watch}
    (h : Fits pid stopTimeout history watch) {child : σ} {wakes : List (Nat × Wake)}
    (hrun : IsRun stopTimeout kill watch child wakes) :
    closingCount wakes ≤ if watch.channelIsOpen then 1 else 0 := by
  induction wakes generalizing history watch child with
  | nil => exact Nat.zero_le _
  | cons entry rest ih =>
    obtain ⟨now, wake⟩ := entry
    obtain ⟨hready, hrest⟩ := hrun
    have hcons : closingCount ((now, wake) :: rest) =
        closingCount rest + if wake.isClosing then 1 else 0 := by
      simp [closingCount, List.countP_cons]
    rw [hcons]
    rcases h.step hready child with ⟨next, hstep, hnext⟩ | ⟨result, gone, hstep, hover, -⟩
    · rw [hstep] at hrest
      have hle := ih hnext hrest
      rcases h.step_watching hready hstep with ⟨rfl, rfl⟩ | ⟨rfl, rfl⟩ | ⟨signal, rfl, -, rfl⟩
      · simpa [Wake.isClosing] using hle
      · have hopen : watch.channelIsOpen = true := hready
        simpa [hopen, Wake.isClosing] using hle
      · simpa [Wake.isClosing] using hle
    · have hclosing : wake.isClosing = false := by
        cases wake with
        | channelClosed =>
          cases hstep
          cases hover
        | exited _ | requested _ | deadlinePassed | tick => rfl
      obtain rfl : rest = [] := by
        rw [hstep] at hrest
        cases result with
        | watching next => cases hover
        | ended outcome => exact hrest
        | failed failure => exact hrest
      rw [hclosing]
      exact Nat.zero_le _

/-! ## Runs without some of the quiet wake-ups -/

/-- The second watch knows what the first one knows, but may find the channel open still. -/
structure Lags (watch other : Watch) : Prop where
  machine_eq : other.machine = watch.machine
  deadline_eq : other.deadline = watch.deadline
  isOpen : watch.channelIsOpen = true → other.channelIsOpen = true

/-- The same result, but for the channel of a program that is still watched. -/
inductive Agree : WatchResult → WatchResult → Prop
  | watching {watch other : Watch} (h : Lags watch other) :
      Agree (.watching watch) (.watching other)
  | ended (outcome : SupervisorOutcome) : Agree (.ended outcome) (.ended outcome)
  | failed (failure : Failure) : Agree (.failed failure) (.failed failure)

theorem Agree.of_not_goesOn {result : WatchResult} (h : goesOn result = false) :
    Agree result result := by
  cases result with
  | watching watch => cases h
  | ended outcome => exact .ended outcome
  | failed failure => exact .failed failure

/-- A wake-up that one watch can have, the other can have as well. -/
theorem Lags.isReady {watch other : Watch} (h : Lags watch other) {now : Nat} {wake : Wake}
    (hready : wake.IsReady watch now) : wake.IsReady other now := by
  cases wake with
  | exited _ | tick => trivial
  | requested _ | channelClosed => exact h.isOpen hready
  | deadlinePassed =>
    obtain ⟨deadline, hset, hpassed⟩ := hready
    exact ⟨deadline, by rw [h.deadline_eq]; exact hset, hpassed⟩

theorem Lags.handle {watch other : Watch} (h : Lags watch other) (now : Nat)
    (event : SupervisorEvent) (child : σ) :
    Agree ((Watch.handle stopTimeout kill now watch event).run child).1
        ((Watch.handle stopTimeout kill now other event).run child).1 ∧
      ((Watch.handle stopTimeout kill now watch event).run child).2 =
        ((Watch.handle stopTimeout kill now other event).run child).2 := by
  unfold Watch.handle
  rw [h.machine_eq, h.deadline_eq]
  rcases watch.machine.step event with ⟨refusal | action, machine⟩
  · exact ⟨.watching h, rfl⟩
  · cases action with
    | awaitExit => exact ⟨.watching ⟨rfl, rfl, h.isOpen⟩, rfl⟩
    | kill => exact ⟨.of_not_goesOn (goesOn_finish kill machine child), rfl⟩

variable (stopTimeout kill) in
/-- One wake-up leaves them so, with the same done to the program. -/
theorem Lags.step {watch other : Watch} (h : Lags watch other) (now : Nat) (wake : Wake)
    (child : σ) :
    Agree ((watch.step stopTimeout kill now wake).run child).1
        ((other.step stopTimeout kill now wake).run child).1 ∧
      ((watch.step stopTimeout kill now wake).run child).2 =
        ((other.step stopTimeout kill now wake).run child).2 := by
  cases wake with
  | exited status =>
    cases status with
    | ok status =>
      simp only [Watch.step, h.machine_eq]
      exact ⟨.ended _, trivial⟩
    | error e =>
      simp only [Watch.step, h.machine_eq]
      exact ⟨.failed _, trivial⟩
  | requested signal => exact h.handle now _ child
  | channelClosed => exact ⟨.watching ⟨h.machine_eq, h.deadline_eq, id⟩, rfl⟩
  | deadlinePassed => exact h.handle now _ child
  | tick => exact ⟨.watching h, rfl⟩

variable (stopTimeout kill) in
/-- A quiet wake-up changes nothing but the channel. -/
theorem Lags.quiet {watch other : Watch} (h : Lags watch other) (now : Nat) {wake : Wake}
    (hquiet : wake.isQuiet = true) (child : σ) :
    ∃ next, (watch.step stopTimeout kill now wake).run child = (.watching next, child) ∧
      Lags next other := by
  cases wake with
  | channelClosed => exact ⟨_, rfl, h.machine_eq, h.deadline_eq, fun hopen => by cases hopen⟩
  | tick => exact ⟨watch, rfl, h⟩
  | exited _ | requested _ | deadlinePassed => cases hquiet

/-- Without some of its quiet wake-ups a run is a run, with the same transitions and the same
    result, and with the same done to the program. -/
theorem Lags.thin {wakes fewer : List (Nat × Wake)} (hthin : Thinned wakes fewer)
    {watch other : Watch} (h : Lags watch other) {child : σ}
    (hrun : IsRun stopTimeout kill watch child wakes) :
    IsRun stopTimeout kill other child fewer ∧
      transitions stopTimeout kill other child fewer =
        transitions stopTimeout kill watch child wakes ∧
      Agree ((Watch.run stopTimeout kill watch wakes).run child).1
        ((Watch.run stopTimeout kill other fewer).run child).1 ∧
      ((Watch.run stopTimeout kill watch wakes).run child).2 =
        ((Watch.run stopTimeout kill other fewer).run child).2 := by
  induction hthin generalizing watch other child with
  | nil => exact ⟨trivial, rfl, .watching h, rfl⟩
  | @keep wakes fewer entry hthin ih =>
    obtain ⟨now, wake⟩ := entry
    obtain ⟨hready, hrest⟩ := hrun
    simp only [IsRun, transitions, Watch.run, StateT.run_bind]
    obtain ⟨hagree, hsame⟩ := h.step stopTimeout kill now wake child
    rcases hstep : (watch.step stopTimeout kill now wake).run child with ⟨result, child₁⟩
    rcases hother : (other.step stopTimeout kill now wake).run child with ⟨result', child₂⟩
    rw [hstep] at hrest
    rw [hstep, hother] at hagree hsame
    obtain rfl : child₁ = child₂ := hsame
    cases hagree with
    | watching hnext =>
      obtain ⟨hrun', htransitions, hrest'⟩ := ih hnext hrest
      refine ⟨⟨h.isReady hready, hrun'⟩, ?_, hrest'⟩
      simp only [h.machine_eq, htransitions]
    | ended outcome =>
      obtain rfl : wakes = [] := hrest
      cases hthin
      exact ⟨⟨h.isReady hready, rfl⟩, by simp only [h.machine_eq], .ended outcome, rfl⟩
    | failed failure =>
      obtain rfl : wakes = [] := hrest
      cases hthin
      exact ⟨⟨h.isReady hready, rfl⟩, by simp only [h.machine_eq], .failed failure, rfl⟩
  | @drop wakes fewer entry hquiet hthin ih =>
    obtain ⟨now, wake⟩ := entry
    obtain ⟨next, hstep, hnext⟩ := h.quiet stopTimeout kill now hquiet child
    obtain ⟨-, hrest⟩ := hrun
    rw [hstep] at hrest
    obtain ⟨hrun', htransitions, hrest'⟩ := ih hnext hrest
    have hevent : wake.event? = none := wake.event?_eq_none hquiet
    simp only [transitions, Watch.run, StateT.run_bind, hstep, hevent]
    exact ⟨hrun', by simpa using htransitions, hrest'⟩

/-! ## All runs -/

/-- Nothing stale is carried through a run. At every head of the loop the deadline is armed where
    the program is stopping and there is a limit, it is the one that the first request has armed,
    and the machine takes every event that a wake-up can hand to it. The channel is found closed at
    most once; and without some of its ticks and closings a run is a run, with the same transitions
    and the same outcome. -/
theorem run_carries_nothing_stale (pid stopTimeout : Option Nat)
    (kill : StateM σ (Except String Unit)) (child : σ) (wakes : List (Nat × Wake))
    (hrun : IsRun stopTimeout kill (.start pid) child wakes) :
    (∀ before after, wakes = before ++ after → ∀ watch child',
      (Watch.run stopTimeout kill (.start pid) before).run child = (.watching watch, child') →
        (watch.deadline.isSome ↔ watch.machine.state = .stopping ∧ stopTimeout.isSome) ∧
        watch.deadline =
          (firstRequest? before).bind (fun first => stopTimeout.map (first + ·)) ∧
        ∀ (now : Nat) (wake : Wake) event, wake.IsReady watch now → wake.event? = some event →
          ∃ action, (watch.machine.step event).1 = .ok action) ∧
    closingCount wakes ≤ 1 ∧
    ∀ fewer, Thinned wakes fewer →
      IsRun stopTimeout kill (.start pid) child fewer ∧
      transitions stopTimeout kill (.start pid) child fewer =
        transitions stopTimeout kill (.start pid) child wakes ∧
      Agree ((Watch.run stopTimeout kill (.start pid) wakes).run child).1
        ((Watch.run stopTimeout kill (.start pid) fewer).run child).1 ∧
      ((Watch.run stopTimeout kill (.start pid) wakes).run child).2 =
        ((Watch.run stopTimeout kill (.start pid) fewer).run child).2 := by
  have hstart := fits_start pid stopTimeout
  refine ⟨?_, closingCount_le hstart hrun, fun fewer hthin => ?_⟩
  · rintro before after rfl watch child' hhead
    obtain ⟨hfits, hdeadline⟩ := run_head hstart rfl hrun.of_append hhead
    exact ⟨hfits.deadline_isSome_iff, hdeadline, fun _ _ _ hready => hfits.accepts hready⟩
  · have hsame : Lags (.start pid) (.start pid) := ⟨rfl, rfl, id⟩
    exact hsame.thin hthin hrun

/-- A program that is stopped by its limit goes through the same two transitions without the ticks
    and the closing of the channel. -/
theorem run_carries_nothing_stale_limit :
    let kill : StateM Nat (Except String Unit) := fun kills => (.ok (), kills + 1)
    let wakes : List (Nat × Wake) :=
      [(0, .tick), (10, .requested .interrupt), (20, .channelClosed), (30, .tick),
        (90, .deadlinePassed)]
    IsRun (some 80) kill (.start (some 7)) 0 wakes ∧
      transitions (some 80) kill (.start (some 7)) 0
          [(10, .requested .interrupt), (90, .deadlinePassed)] =
        [⟨10, .running, .shutdown .interrupt, .stopping⟩,
          ⟨90, .stopping, .stopTimeoutElapsed, .killed⟩] := by
  intro kill wakes
  have hrun : IsRun (some 80) kill (.start (some 7)) 0 wakes :=
    ⟨trivial, rfl, rfl, trivial, ⟨90, rfl, Nat.le_refl 90⟩, rfl⟩
  have hthin : Thinned wakes [(10, .requested .interrupt), (90, .deadlinePassed)] :=
    .drop rfl (.keep _ (.drop rfl (.drop rfl (.keep _ .nil))))
  obtain ⟨-, -, hfewer⟩ := run_carries_nothing_stale (some 7) (some 80) kill 0 wakes hrun
  obtain ⟨-, hsame, -⟩ := hfewer _ hthin
  exact ⟨hrun, hsame.trans rfl⟩

end Watch

end Pipewright
