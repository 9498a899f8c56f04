import Pipewright.Proofs.Fetching.Pass
import Pipewright.Proofs.Workflow.Steps

set_option autoImplicit false

/-! # Fetching with the go tool

**The commands of a pass.** For each package in turn the go tool's fetcher looks whether its
directory is there, gets the package if it is not, or if it is and `update` is set, and checks its
revision out if it has one; the pass ends with the first look or command that fails. `GoPass` says
this of a whole pass with its effects in order, each in the world that the one before it left, with
nothing but log records in between. Every pass is of this kind, whatever the commands do
(`goFetch_pass`). -/

namespace Pipewright

open Pipewright.Action

/-! ## Commands -/

/-- A command succeeds by ending with status 0. -/
theorem Completed.result_eq (completed : Completed) (command : String) :
    completed.result command =
      if completed.status = .exited 0 then .ok (Text.Utf8.decodeLossy completed.stdout)
      else
        let status := completed.status.describe
        let complaint := Text.trim (Text.Utf8.decodeLossy completed.stderr)
        .error ⟨command, if complaint = "" then status else status ++ ": " ++ complaint⟩ := by
  simp only [result, ExitStatus.isSuccess, decide_eq_true_eq]

namespace Host

variable (host : Host)

/-- What a command reports that is run in a world. If it ends with status 0 this is its output;
    otherwise it is how it failed: why it could not be started, or its status with what it has
    complained of. -/
def report (invocation : Invocation) (world : World) : Except CommandFailure String :=
  match (host.run invocation world).1 with
  | .error e => .error ⟨invocation.line, e.describe⟩
  | .ok completed =>
    if completed.status = .exited 0 then .ok (Text.Utf8.decodeLossy completed.stdout)
    else
      let status := completed.status.describe
      let complaint := Text.trim (Text.Utf8.decodeLossy completed.stderr)
      .error ⟨invocation.line, if complaint = "" then status else status ++ ": " ++ complaint⟩

/-- A command is noted and run, and reports this. -/
def Runs (invocation : Invocation) (start : World) (report : Except CommandFailure String)
    (after : World) : Prop :=
  ∃ logged, start.Logs logged ∧
    host.report invocation (logged.note (.command invocation)) = report ∧
    (host.run invocation (logged.note (.command invocation))).2.Logs after

/-- Commands are run one after the other, and all of them succeed. -/
inductive Succeeds : World → List Invocation → World → Prop
  | nil {start after : World} : start.Logs after → Succeeds start [] after
  | cons {start middle after : World} {invocation : Invocation} {rest : List Invocation}
      {output : String} :
      host.Runs invocation start (.ok output) middle → Succeeds middle rest after →
      Succeeds start (invocation :: rest) after

/-- How running commands for a package can go: the commands that are issued, with the result and the
    world that they leave. -/
inductive Issues (package : Package) (start : World) (commands : List Invocation) :
    List Invocation → Except Failure Unit → World → Prop
  | all {after : World} : host.Succeeds start commands after →
      Issues package start commands commands (.ok ()) after
  /-- The first command that fails is the last. -/
  | upTo {done rest : List Invocation} {failing : Invocation} {failure : CommandFailure}
      {before after : World} :
      commands = done ++ failing :: rest → host.Succeeds start done before →
      host.Runs failing before (.error failure) after →
      Issues package start commands (done ++ [failing])
        (.error (.fetch package.uri failure.display)) after

variable {host} {start middle after : World} {invocation : Invocation}
  {commands more : List Invocation}

theorem Runs.of_logs {report : Except CommandFailure String} (hlogs : start.Logs middle)
    (h : host.Runs invocation middle report after) : host.Runs invocation start report after := by
  obtain ⟨logged, hlogged, hrest⟩ := h
  exact ⟨logged, hlogs.trans hlogged, hrest⟩

theorem Succeeds.of_logs (hlogs : start.Logs middle) (h : host.Succeeds middle commands after) :
    host.Succeeds start commands after := by
  cases h with
  | nil hmiddle => exact .nil (hlogs.trans hmiddle)
  | cons hrun hrest => exact .cons (hrun.of_logs hlogs) hrest

theorem Succeeds.append (h : host.Succeeds start commands middle)
    (hmore : host.Succeeds middle more after) : host.Succeeds start (commands ++ more) after := by
  induction h with
  | nil hlogs => exact hmore.of_logs hlogs
  | cons hrun _ ih => exact .cons hrun (ih hmore)

/-! ## Actions made of commands -/

/-- The action runs these commands for a package. -/
def IssuedBy (host : Host) (package : Package) (commands : List Invocation)
    (action : Job Unit) : Prop :=
  ∀ world, ∃ issued,
    host.Issues package world commands issued (action.runOn world).1 (action.runOn world).2

variable {package : Package}

theorem IssuedBy.log (level : LogLevel) (part : LogPart) :
    host.IssuedBy package [] (Job.log level part) :=
  fun world => ⟨[], .all (.nil ((World.Logs.refl world).record level part))⟩

theorem IssuedBy.pure : host.IssuedBy package [] (Pure.pure ()) :=
  fun world => ⟨[], .all (.nil (.refl world))⟩

theorem IssuedBy.bind {first second : Job Unit} (hfirst : host.IssuedBy package commands first)
    (hsecond : host.IssuedBy package more second) :
    host.IssuedBy package (commands ++ more) (first >>= fun _ => second) := by
  intro world
  obtain ⟨issued, hissues⟩ := hfirst world
  rcases hrun : first.runOn world with ⟨failure | ⟨⟩, middle⟩
  · -- what comes after a failed command is not issued
    rw [hrun] at hissues
    rw [runOn_bind_error hrun]
    cases hissues with
    | upTo hsplit hdone hfails =>
      exact ⟨_, .upTo (by rw [hsplit, List.append_assoc, List.cons_append]) hdone hfails⟩
  · rw [hrun] at hissues
    rw [runOn_bind_ok hrun]
    obtain ⟨moreIssued, hmore⟩ := hsecond middle
    generalize (second.runOn middle).1 = result at hmore
    cases hissues with
    | all hdone =>
      cases hmore with
      | all hrest => exact ⟨_, .all (hdone.append hrest)⟩
      | upTo hsplit hmoreDone hfails =>
        exact ⟨_, .upTo (by rw [hsplit, List.append_assoc]) (hdone.append hmoreDone) hfails⟩

theorem runCommand_runs (host : Host) (invocation : Invocation) (world : World) :
    ∃ report, ((runCommand host invocation).runOn world).1 = .ok report ∧
      host.Runs invocation world report ((runCommand host invocation).runOn world).2 := by
  obtain ⟨logged, hlogged, hafter, hreport⟩ := Tool.runCommand_run host invocation world
  refine ⟨_, hreport, logged, hlogged, ?_, hafter⟩
  unfold report
  cases (host.run invocation (logged.note (.command invocation))).1 with
  | error e => rfl
  | ok completed => exact (completed.result_eq _).symm

theorem IssuedBy.runFor (host : Host) (package : Package) (invocation : Invocation) :
    host.IssuedBy package [invocation] (runFor host package invocation) := by
  intro world
  simp only [Pipewright.runFor]
  obtain ⟨report, hreport, hruns⟩ := runCommand_runs host invocation world
  rw [runOn_bind_ok (Prod.ext hreport rfl)]
  cases report with
  | ok output => exact ⟨_, .all (.cons hruns (.nil (.refl _)))⟩
  | error failure =>
    have hsplit : [invocation] = [] ++ invocation :: [] := rfl
    exact ⟨_, .upTo hsplit (.nil (.refl world)) hruns⟩

end Host

/-! ## Packages -/

namespace Toolchain

/-- The command that gets a package; with `update`, also one that is there. -/
def getFor (toolchain : Toolchain) (package : Package) (update : Bool) : Invocation :=
  { program := toolchain.settings.goBinary
    arguments := if update then ["get", "-d", "-u", package.uri] else ["get", "-d", package.uri]
    environment :=
      if toolchain.settings.legacyGopath then
        [("GOPATH", toolchain.workspace), ("GO111MODULE", "off")]
      else []
    directory := none }

theorem get_eq_getFor (toolchain : Toolchain) (package : Package) (update : Bool) :
    toolchain.get package.uri update = toolchain.getFor package update := by
  cases update <;> rfl

/-- The command that checks the revision of a package out, if it has one. -/
def checkoutsFor (toolchain : Toolchain) (package : Package) : List Invocation :=
  if package.revision = "" then []
  else [⟨toolchain.settings.gitBinary, ["checkout", package.revision], [], some package.sourceDir⟩]

/-- The commands that bring a package in: it is got if it is missing, or if it is to be brought up
    to date, and then its revision is checked out. -/
def commandsFor (toolchain : Toolchain) (update isPresent : Bool) (package : Package) :
    List Invocation :=
  (if isPresent = false then [toolchain.getFor package false]
    else if update then [toolchain.getFor package true]
    else []) ++
  toolchain.checkoutsFor package

/-- The commands for a package get it or check its revision out. -/
theorem mem_commandsFor {toolchain : Toolchain} {update isPresent : Bool} {package : Package}
    {invocation : Invocation} (h : invocation ∈ toolchain.commandsFor update isPresent package) :
    (∃ anew, invocation = toolchain.getFor package anew) ∨
      invocation ∈ toolchain.checkoutsFor package := by
  rcases List.mem_append.1 h with hget | hcheckout
  · cases isPresent with
    | false => exact .inl ⟨false, List.mem_singleton.1 hget⟩
    | true =>
      cases update with
      | false => cases hget
      | true => exact .inl ⟨true, List.mem_singleton.1 hget⟩
  · exact .inr hcheckout

/-- A revision is checked out in the directory of its package. -/
theorem directory_of_mem_checkoutsFor {toolchain : Toolchain} {package : Package}
    {invocation : Invocation} (h : invocation ∈ toolchain.checkoutsFor package) :
    invocation.directory = some package.sourceDir := by
  unfold checkoutsFor at h
  split at h
  · cases h
  · exact congrArg Invocation.directory (List.mem_singleton.1 h)

end Toolchain

variable (host : Host) (toolchain : Toolchain) (update : Bool)

/-- How bringing a package in can go, with its effects in order. -/
inductive GoFetches (package : Package) (start : World) :
    List Effect → Except Failure Unit → World → Prop
  /-- It cannot be told whether the package is there. -/
  | unchecked {e : Errno} :
      start.files.exists? start.directory package.sourceDir = .error e →
      GoFetches package start [.inspect package.sourceDir]
        (.error (.io package.sourceDir (.system e))) (start.note (.inspect package.sourceDir))
  | checked {isPresent : Bool} {issued : List Invocation} {result : Except Failure Unit}
      {after : World} :
      start.files.exists? start.directory package.sourceDir = .ok isPresent →
      host.Issues package (start.note (.inspect package.sourceDir))
        (toolchain.commandsFor update isPresent package) issued result after →
      GoFetches package start (.inspect package.sourceDir :: issued.map .command) result after

/-- How a pass over packages can go, with its effects in order. -/
inductive GoPass : World → List Package → List Effect → Except Failure Unit → World → Prop
  | done (start : World) : GoPass start [] [] (.ok ()) start
  | next {start middle after : World} {package : Package} {rest : List Package}
      {effects more : List Effect} {result : Except Failure Unit} :
      GoFetches host toolchain update package start effects (.ok ()) middle →
      GoPass middle rest more result after →
      GoPass start (package :: rest) (effects ++ more) result after
  /-- Nothing is done for the packages behind one that cannot be brought in. -/
  | stops {start after : World} {package : Package} {rest : List Package} {effects : List Effect}
      {failure : Failure} :
      GoFetches host toolchain update package start effects (.error failure) after →
      GoPass start (package :: rest) effects (.error failure) after

/-- What is done after looking whether a package is there. -/
theorem commandsFor_issuedBy (package : Package) (isPresent : Bool) :
    host.IssuedBy package (toolchain.commandsFor update isPresent package) (do
      if !isPresent then
        Job.log .info .fetching
        runFor host package (toolchain.get package.uri false)
      else if update then
        Job.log .info .fetching
        runFor host package (toolchain.get package.uri true)
      else Job.log .debug .fetching
      if package.isPinned then
        Job.log .info .fetching
        runFor host package (toolchain.checkout package.sourceDir package.revision)) := by
  have hissue : ∀ invocation, host.IssuedBy package [invocation] (do
      Job.log .info .fetching
      runFor host package invocation) :=
    fun invocation => (Host.IssuedBy.log _ _).bind (.runFor host package invocation)
  have hget : ∀ anew, host.IssuedBy package [toolchain.getFor package anew] (do
      Job.log .info .fetching
      runFor host package (toolchain.get package.uri anew)) :=
    fun anew => toolchain.get_eq_getFor package anew ▸ hissue _
  have hcheckout : host.IssuedBy package (toolchain.checkoutsFor package)
      (if package.isPinned then do
        Job.log .info .fetching
        runFor host package (toolchain.checkout package.sourceDir package.revision)
      else pure ()) := by
    unfold Toolchain.checkoutsFor
    by_cases hrevision : package.revision = ""
    · have hpinned : package.isPinned = false := by simp [Package.isPinned, hrevision]
      rw [if_pos hrevision, hpinned]
      exact .pure
    · have hpinned : package.isPinned = true := by simp [Package.isPinned, hrevision]
      rw [if_neg hrevision, hpinned]
      exact hissue _
  cases isPresent with
  | false => exact (hget false).bind hcheckout
  | true =>
    cases update with
    | true => exact (hget true).bind hcheckout
    | false => exact (Host.IssuedBy.log _ _).bind hcheckout

theorem goFetcher_fetches (package : Package) (start : World) :
    let run := (goFetcher host toolchain package update).runOn start
    ∃ effects, GoFetches host toolchain update package start effects run.1 run.2 := by
  simp only [goFetcher]
  have hlook : (Job.fileExists package.sourceDir).runOn start =
      (.ok (start.files.exists? start.directory package.sourceDir),
        start.note (.inspect package.sourceDir)) := rfl
  rw [runOn_bind_ok hlook]
  cases hexists : start.files.exists? start.directory package.sourceDir with
  | error e => exact ⟨_, .unchecked hexists⟩
  | ok isPresent =>
    have hseen : (Job.orIo package.sourceDir (.ok isPresent : Except Errno Bool)).runOn
        (start.note (.inspect package.sourceDir)) =
          (.ok isPresent, start.note (.inspect package.sourceDir)) := rfl
    rw [runOn_bind_ok hseen]
    obtain ⟨issued, hissues⟩ := commandsFor_issuedBy host toolchain update package isPresent
      (start.note (.inspect package.sourceDir))
    exact ⟨_, .checked hexists hissues⟩

variable {host toolchain update}

/-- The calls of the go tool's fetcher make a pass. -/
theorem Passes.goPass {start after : World} {calls : List FetchCall}
    {result : Except Failure Unit} (h : Passes (goFetcher host toolchain) start calls result after)
    {packages : List Package} (hstart : calls <+: callsOn update packages)
    (hall : result = .ok () → calls = callsOn update packages) :
    ∃ effects, GoPass host toolchain update start packages effects result after := by
  induction h generalizing packages with
  | done start =>
    have hempty : packages = [] := List.map_eq_nil_iff.1 (hall rfl).symm
    subst hempty
    exact ⟨[], .done start⟩
  | call hcall _ ih =>
    cases packages with
    | nil => cases List.prefix_nil.1 hstart
    | cons package rest =>
      obtain ⟨rfl, hrest⟩ := List.cons_prefix_cons.1 hstart
      obtain ⟨effects, hfetches⟩ := goFetcher_fetches host toolchain update package _
      rw [hcall] at hfetches
      obtain ⟨more, hmore⟩ := ih hrest fun hok => (List.cons.inj (hall hok)).2
      exact ⟨effects ++ more, .next hfetches hmore⟩
  | fails hcall =>
    cases packages with
    | nil => cases List.prefix_nil.1 hstart
    | cons package rest =>
      obtain ⟨rfl, -⟩ := List.cons_prefix_cons.1 hstart
      obtain ⟨effects, hfetches⟩ := goFetcher_fetches host toolchain update package _
      rw [hcall] at hfetches
      exact ⟨effects, .stops hfetches⟩

/-! ## The journal -/

/-- No program touches the journal of the tool's own effects. -/
def Host.LeavesJournal (host : Host) : Prop :=
  ∀ invocation world, (host.run invocation world).2.journal = world.journal

theorem Host.Runs.journal_eq (hleaves : host.LeavesJournal) {start after : World}
    {invocation : Invocation} {report : Except CommandFailure String}
    (h : host.Runs invocation start report after) :
    after.journal = .command invocation :: start.journal := by
  obtain ⟨logged, hlogged, -, hafter⟩ := h
  rw [hafter.journal_eq, hleaves]
  exact congrArg (Effect.command invocation :: ·) hlogged.journal_eq

theorem Host.Succeeds.journal_eq (hleaves : host.LeavesJournal) {start after : World}
    {commands : List Invocation} (h : host.Succeeds start commands after) :
    after.journal = (commands.map Effect.command).reverse ++ start.journal := by
  induction h with
  | nil hlogs => exact hlogs.journal_eq
  | cons hruns _ ih => rw [ih, hruns.journal_eq hleaves]; simp

theorem Host.Issues.journal_eq (hleaves : host.LeavesJournal) {package : Package}
    {start after : World} {commands issued : List Invocation} {result : Except Failure Unit}
    (h : host.Issues package start commands issued result after) :
    after.journal = (issued.map Effect.command).reverse ++ start.journal := by
  cases h with
  | all hdone => exact hdone.journal_eq hleaves
  | upTo _ hdone hfails =>
    rw [hfails.journal_eq hleaves, hdone.journal_eq hleaves]
    simp

theorem GoFetches.journal_eq (hleaves : host.LeavesJournal) {package : Package}
    {start after : World} {effects : List Effect} {result : Except Failure Unit}
    (h : GoFetches host toolchain update package start effects result after) :
    after.journal = effects.reverse ++ start.journal := by
  cases h with
  | unchecked _ => rfl
  | checked _ hissues =>
    rw [hissues.journal_eq hleaves]
    simp [World.note]

/-- The effects of a pass are what it adds to the journal. -/
theorem GoPass.journal_eq (hleaves : host.LeavesJournal) {start after : World}
    {packages : List Package} {effects : List Effect} {result : Except Failure Unit}
    (h : GoPass host toolchain update start packages effects result after) :
    after.journal = effects.reverse ++ start.journal := by
  induction h with
  | done start => rfl
  | next hfetches _ ih => rw [ih, hfetches.journal_eq hleaves]; simp
  | stops hfetches => exact hfetches.journal_eq hleaves

variable (host toolchain update) in
theorem fetchAll_goPass (pins : Pins) (packages : List Package) (start : World) :
    let pinned := applyPins pins packages
    let run := (fetchAll (goFetcher host toolchain) update pins packages).runOn start
    ∃ effects result, GoPass host toolchain update start pinned effects result run.2 ∧
      run.1 = result.map fun _ => pinned := by
  simp only [runOn_fetchAll]
  obtain ⟨calls, hpasses, hstart, hall⟩ :=
    fetchEach_passes (goFetcher host toolchain) update (applyPins pins packages) start
  obtain ⟨effects, hpass⟩ := hpasses.goPass hstart hall
  exact ⟨effects, _, hpass, rfl⟩

/-- **The commands of a pass.** For each package in turn, with the revision of its pin, the pass
    looks whether its directory is there, runs the commands that bring it in, and ends with the
    first look or command that fails; its effects are those that the journal shows. If nothing
    fails, it gives back the packages with their pins. -/
theorem goFetch_pass (host : Host) (toolchain : Toolchain) (update : Bool) (pins : Pins)
    (packages : List Package) (start : World) :
    let run := (fetchAll (goFetcher host toolchain) update pins packages).runOn start
    ∃ pinned effects result, List.Forall₂ (Package.Revised pins) packages pinned ∧
      GoPass host toolchain update start pinned effects result run.2 ∧
      (run.1 = result.map fun _ => pinned) ∧
      (host.LeavesJournal → run.2.journal = effects.reverse ++ start.journal) := by
  obtain ⟨effects, result, hpass, hresult⟩ :=
    fetchAll_goPass host toolchain update pins packages start
  exact ⟨_, effects, result, applyPins_revised pins packages, hpass, hresult,
    fun hleaves => hpass.journal_eq hleaves⟩

end Pipewright
