import Pipewright.Proofs.Fetching.Commands
import Pipewright.Proofs.World.Parents

set_option autoImplicit false

/-! # Fetching again

**A second pass only checks revisions out.** Where a command that gets a package makes its directory
and no command for the packages takes one away (`Host.Delivers`), a pass that succeeds leaves every
package in its place, whether it was there before, was got, or came with another package
(`GoPass.isPresent`). So a second pass without `update` gets nothing: its commands are those of the
first pass that check revisions out, in their order. If these succeed again
(`Host.SucceedsFrom`), it gives the same packages (`fetch_again`). -/

namespace Pipewright

open Pipewright.Action

/-- Something stands at the directory of the package. -/
def Package.IsPresent (package : Package) (world : World) : Prop :=
  world.files.exists? world.directory package.sourceDir = .ok true

theorem Package.IsPresent.quiet {package : Package} {world after : World}
    (h : package.IsPresent world) (hquiet : world.Quiet after) : package.IsPresent after := by
  unfold IsPresent at *
  rw [hquiet.files_eq, hquiet.directory_eq]
  exact h

/-- The command gets one of the packages, or checks its revision out. -/
def Toolchain.IsFor (toolchain : Toolchain) (packages : List Package) (invocation : Invocation) :
    Prop :=
  ∃ package ∈ packages, (∃ update, invocation = toolchain.getFor package update) ∨
    invocation ∈ toolchain.checkoutsFor package

theorem Toolchain.isFor_of_mem {toolchain : Toolchain} {packages : List Package} {package : Package}
    {update isPresent : Bool} {invocation : Invocation} (hpackage : package ∈ packages)
    (h : invocation ∈ toolchain.commandsFor update isPresent package) :
    toolchain.IsFor packages invocation :=
  ⟨package, hpackage, mem_commandsFor h⟩

namespace Host

variable (host : Host)

/-- The worlds that commands for these packages lead to if each of them succeeds, with nothing but
    notes and log records in between. -/
inductive Reaches (toolchain : Toolchain) (packages : List Package) (start : World) : World → Prop
  | quiet {world : World} : start.Quiet world → Reaches toolchain packages start world
  | command {world after : World} {invocation : Invocation} {output : String} :
      Reaches toolchain packages start world → toolchain.IsFor packages invocation →
      host.report invocation world = .ok output → (host.run invocation world).2.Quiet after →
      Reaches toolchain packages start after

/-- From this world on, a command that succeeds in getting one of the packages makes its directory,
    and no command for them that succeeds takes such a directory away. -/
structure Delivers (toolchain : Toolchain) (packages : List Package) (start : World) : Prop where
  gets : ∀ world, host.Reaches toolchain packages start world → ∀ package ∈ packages,
    ∀ update output, host.report (toolchain.getFor package update) world = .ok output →
    package.IsPresent (host.run (toolchain.getFor package update) world).2
  keeps : ∀ world, host.Reaches toolchain packages start world → ∀ invocation output,
    toolchain.IsFor packages invocation → host.report invocation world = .ok output →
    ∀ package ∈ packages, package.IsPresent world → package.IsPresent (host.run invocation world).2

/-- From this world on, the commands succeed one after the other, whatever is noted in between. -/
def SucceedsFrom : List Invocation → World → Prop
  | [], _ => True
  | invocation :: rest, world => ∀ noted, world.Quiet noted →
      (∃ output, host.report invocation noted = .ok output) ∧
        SucceedsFrom rest (host.run invocation noted).2

variable {host} {start world middle after : World} {invocation : Invocation}
  {commands more : List Invocation} {toolchain : Toolchain} {packages : List Package}
  {package : Package}

/-! ## Worlds that are reached -/

theorem Reaches.then_quiet (h : host.Reaches toolchain packages start world)
    (hquiet : world.Quiet after) : host.Reaches toolchain packages start after := by
  cases h with
  | quiet hfirst => exact .quiet (hfirst.trans hquiet)
  | command hreaches hfor hreport hfirst =>
    exact .command hreaches hfor hreport (hfirst.trans hquiet)

theorem Reaches.trans (h : host.Reaches toolchain packages start world)
    (hafter : host.Reaches toolchain packages world after) :
    host.Reaches toolchain packages start after := by
  induction hafter with
  | quiet hquiet => exact h.then_quiet hquiet
  | command _ hfor hreport hquiet ih => exact .command ih hfor hreport hquiet

theorem Runs.reaches {output : String} (hfor : toolchain.IsFor packages invocation)
    (h : host.Runs invocation world (.ok output) after) :
    host.Reaches toolchain packages world after := by
  obtain ⟨logged, hlogged, hreport, hafter⟩ := h
  exact .command (.quiet (hlogged.quiet.note (.command invocation))) hfor hreport hafter.quiet

theorem Succeeds.reaches (hfor : ∀ invocation ∈ commands, toolchain.IsFor packages invocation)
    (h : host.Succeeds world commands after) : host.Reaches toolchain packages world after := by
  induction h with
  | nil hlogs => exact .quiet hlogs.quiet
  | cons hrun _ ih =>
    rw [List.forall_mem_cons] at hfor
    exact (hrun.reaches hfor.1).trans (ih hfor.2)

/-- What is present stays so in every world that is reached. -/
theorem Delivers.isPresent (hdelivers : host.Delivers toolchain packages start)
    (hmem : package ∈ packages) (hstart : host.Reaches toolchain packages start world)
    (hpresent : package.IsPresent world) (h : host.Reaches toolchain packages world after) :
    package.IsPresent after := by
  induction h with
  | quiet hquiet => exact hpresent.quiet hquiet
  | command hreaches hfor hreport hquiet ih =>
    exact (hdelivers.keeps _ (hstart.trans hreaches) _ _ hfor hreport package hmem ih).quiet hquiet

/-- A package that has been got is present. -/
theorem Runs.isPresent_of_get (hdelivers : host.Delivers toolchain packages start)
    (hmem : package ∈ packages) (hstart : host.Reaches toolchain packages start world)
    {update : Bool} {output : String}
    (h : host.Runs (toolchain.getFor package update) world (.ok output) after) :
    package.IsPresent after := by
  obtain ⟨logged, hlogged, hreport, hafter⟩ := h
  have hnoted := hstart.then_quiet
    (hlogged.quiet.note (.command (toolchain.getFor package update)))
  exact (hdelivers.gets _ hnoted package hmem update output hreport).quiet hafter.quiet

/-! ## Commands that succeed again -/

theorem SucceedsFrom.quiet (h : host.SucceedsFrom commands world) (hquiet : world.Quiet after) :
    host.SucceedsFrom commands after := by
  cases commands with
  | nil => trivial
  | cons invocation rest => exact fun noted hnoted => h noted (hquiet.trans hnoted)

/-- Behind commands that have been run, the others still succeed. -/
theorem SucceedsFrom.behind (h : host.SucceedsFrom (commands ++ more) start)
    (hquiet : start.Quiet world) (hdone : host.Succeeds world commands after) :
    host.SucceedsFrom more after := by
  induction hdone generalizing start with
  | nil hlogs => exact SucceedsFrom.quiet h (hquiet.trans hlogs.quiet)
  | @cons _ _ _ invocation _ _ hrun _ ih =>
    obtain ⟨logged, hlogged, -, hafter⟩ := hrun
    have hrest := (h _ ((hquiet.trans hlogged.quiet).note (.command invocation))).2
    exact ih hrest hafter.quiet

theorem SucceedsFrom.front (h : host.SucceedsFrom (commands ++ more) world) :
    host.SucceedsFrom commands world := by
  induction commands generalizing world with
  | nil => trivial
  | cons invocation rest ih => exact fun noted hnoted => ⟨(h noted hnoted).1, ih (h noted hnoted).2⟩

/-- Commands that succeed are issued without a failure. -/
theorem SucceedsFrom.issues (h : host.SucceedsFrom commands start) (hquiet : start.Quiet world)
    {issued : List Invocation} {result : Except Failure Unit}
    (hissues : host.Issues package world commands issued result after) :
    result = .ok () ∧ host.Succeeds world commands after := by
  cases hissues with
  | all hdone => exact ⟨rfl, hdone⟩
  | @upTo done rest failing _ _ _ hsplit hdone hfails =>
    -- the command that fails is one of those that succeed
    rw [hsplit] at h
    obtain ⟨logged, hlogged, hreport, -⟩ := hfails
    obtain ⟨⟨output, houtput⟩, -⟩ :=
      h.behind hquiet hdone _ (hlogged.quiet.note (.command failing))
    rw [hreport] at houtput
    cases houtput

end Host

section

variable {host : Host} {toolchain : Toolchain} {update : Bool} {packages all : List Package}
  {package : Package} {start world after : World} {effects : List Effect}

/-! ## After a pass -/

/-- A package that is brought in has been looked at, and all its commands have succeeded. -/
theorem GoFetches.ok (h : GoFetches host toolchain update package world effects (.ok ()) after) :
    ∃ isPresent, world.files.exists? world.directory package.sourceDir = .ok isPresent ∧
      host.Succeeds (world.note (.inspect package.sourceDir))
        (toolchain.commandsFor update isPresent package) after ∧
      effects = .inspect package.sourceDir ::
        (toolchain.commandsFor update isPresent package).map .command := by
  cases h with
  | checked hexists hissues =>
    cases hissues with
    | all hsucceeds => exact ⟨_, hexists, hsucceeds, rfl⟩

/-- A package is brought in if it can be told whether it is there and its commands succeed. -/
theorem GoFetches.result_eq_ok {isPresent : Bool} {result : Except Failure Unit}
    (h : GoFetches host toolchain update package world effects result after)
    (hexists : world.files.exists? world.directory package.sourceDir = .ok isPresent)
    (hsucceeds : host.SucceedsFrom (toolchain.commandsFor update isPresent package) world) :
    result = .ok () := by
  cases h with
  | unchecked herror => cases hexists.symm.trans herror
  | checked hfound hissues =>
    cases hexists.symm.trans hfound
    exact (hsucceeds.issues ((World.Quiet.refl world).note _) hissues).1

theorem GoFetches.reaches (hmem : package ∈ all)
    (h : GoFetches host toolchain update package world effects (.ok ()) after) :
    host.Reaches toolchain all world after := by
  obtain ⟨_, -, hsucceeds, -⟩ := h.ok
  exact .trans (.quiet ((World.Quiet.refl world).note _))
    (hsucceeds.reaches fun _ hcommand => Toolchain.isFor_of_mem hmem hcommand)

theorem GoFetches.isPresent (hdelivers : host.Delivers toolchain all start)
    (hmem : package ∈ all) (hstart : host.Reaches toolchain all start world)
    (h : GoFetches host toolchain update package world effects (.ok ()) after) :
    package.IsPresent after := by
  obtain ⟨isPresent, hexists, hsucceeds, -⟩ := h.ok
  cases isPresent with
  | true => exact hdelivers.isPresent hmem hstart hexists (h.reaches hmem)
  | false =>
    -- a package that is missing is got before anything else
    have hnoted := hstart.then_quiet
      ((World.Quiet.refl world).note (.inspect package.sourceDir))
    have hfor : ∀ invocation ∈ toolchain.commandsFor update false package,
        toolchain.IsFor all invocation := fun _ hcommand => Toolchain.isFor_of_mem hmem hcommand
    obtain ⟨hgets, hchecks⟩ := List.forall_mem_cons.1 hfor
    cases hsucceeds with
    | cons hget hrest =>
      have hgot := Host.Runs.isPresent_of_get hdelivers hmem hnoted hget
      exact hdelivers.isPresent hmem (hnoted.trans (hget.reaches hgets)) hgot
        (hrest.reaches hchecks)

theorem GoPass.reaches {result : Except Failure Unit}
    (h : GoPass host toolchain update world packages effects result after)
    (hmem : ∀ package ∈ packages, package ∈ all) (hok : result = .ok ()) :
    host.Reaches toolchain all world after := by
  induction h with
  | done start => exact .quiet (.refl start)
  | next hfetches _ ih =>
    rw [List.forall_mem_cons] at hmem
    exact (hfetches.reaches hmem.1).trans (ih hmem.2 hok)
  | stops => cases hok

/-- After a pass that succeeds every package is present. -/
theorem GoPass.isPresent (hdelivers : host.Delivers toolchain all start)
    {result : Except Failure Unit}
    (h : GoPass host toolchain update world packages effects result after)
    (hmem : ∀ package ∈ packages, package ∈ all) (hstart : host.Reaches toolchain all start world)
    (hok : result = .ok ()) : ∀ package ∈ packages, package.IsPresent after := by
  induction h with
  | done start => exact fun _ hnone => by cases hnone
  | next hfetches hrest ih =>
    rw [List.forall_mem_cons] at hmem
    have hmiddle := hstart.trans (hfetches.reaches hmem.1)
    have hfirst := hfetches.isPresent hdelivers hmem.1 hstart
    rw [List.forall_mem_cons]
    exact ⟨hdelivers.isPresent hmem.1 hmiddle hfirst (hrest.reaches hmem.2 hok),
      ih hmem.2 hmiddle hok⟩
  | stops => cases hok

/-- A pass succeeds if it can always be told whether a package is there and the commands for it
    succeed then. -/
theorem GoPass.result_eq_ok {result : Except Failure Unit}
    (h : GoPass host toolchain update world packages effects result after)
    (hmem : ∀ package ∈ packages, package ∈ all)
    (hready : ∀ later, host.Reaches toolchain all world later → ∀ package ∈ all, ∃ isPresent,
      later.files.exists? later.directory package.sourceDir = .ok isPresent ∧
        host.SucceedsFrom (toolchain.commandsFor update isPresent package) later) :
    result = .ok () := by
  induction h with
  | done start => rfl
  | next hfetches _ ih =>
    rw [List.forall_mem_cons] at hmem
    have hmiddle := hfetches.reaches hmem.1
    exact ih hmem.2 fun later hlater => hready later (hmiddle.trans hlater)
  | stops hfetches =>
    obtain ⟨isPresent, hexists, hsucceeds⟩ :=
      hready _ (.quiet (.refl _)) _ (hmem _ List.mem_cons_self)
    exact hfetches.result_eq_ok hexists hsucceeds

/-! ## The commands of both passes -/

/-- The commands among effects. -/
def commandsOf (effects : List Effect) : List Invocation :=
  effects.filterMap fun
    | .command invocation => some invocation
    | _ => none

/-- Whether a command checks a revision out. -/
def Invocation.isCheckout (invocation : Invocation) : Bool :=
  invocation.arguments.head? = some "checkout"

/-- Whether a command gets a package. -/
def Invocation.isGet (invocation : Invocation) : Bool :=
  invocation.arguments.head? = some "get"

theorem commandsOf_append (effects more : List Effect) :
    commandsOf (effects ++ more) = commandsOf effects ++ commandsOf more :=
  List.filterMap_append

theorem commandsOf_inspect (path : Path) (commands : List Invocation) :
    commandsOf (.inspect path :: commands.map .command) = commands := by
  unfold commandsOf
  rw [List.filterMap_cons, List.filterMap_map]
  exact List.filterMap_some

theorem Toolchain.filter_checkoutsFor (toolchain : Toolchain) (package : Package) :
    (toolchain.checkoutsFor package).filter Invocation.isCheckout =
      toolchain.checkoutsFor package := by
  unfold checkoutsFor
  split <;> simp [Invocation.isCheckout]

/-- Among the commands that bring a package in, just the last checks a revision out. -/
theorem Toolchain.filter_commandsFor (toolchain : Toolchain) (update isPresent : Bool)
    (package : Package) :
    (toolchain.commandsFor update isPresent package).filter Invocation.isCheckout =
      toolchain.checkoutsFor package := by
  unfold commandsFor
  rw [List.filter_append, toolchain.filter_checkoutsFor package]
  have hget : ∀ anew, (toolchain.getFor package anew).isCheckout = false := by
    intro anew
    cases anew <;> simp [Invocation.isCheckout, getFor]
  cases isPresent <;> cases update <;> simp [hget]

/-- The commands of a pass that check revisions out. -/
theorem GoPass.filter_commandsOf {result : Except Failure Unit}
    (h : GoPass host toolchain update world packages effects result after)
    (hok : result = .ok ()) :
    (commandsOf effects).filter Invocation.isCheckout =
      packages.flatMap toolchain.checkoutsFor := by
  induction h with
  | done start => rfl
  | next hfetches _ ih =>
    obtain ⟨isPresent, -, -, rfl⟩ := hfetches.ok
    rw [commandsOf_append, List.filter_append, ih hok, commandsOf_inspect,
      toolchain.filter_commandsFor, List.flatMap_cons]
  | stops => cases hok

/-- A pass without `update` over packages that are present only checks revisions out, and it
    succeeds if these commands do. -/
theorem GoPass.again (hdelivers : host.Delivers toolchain all start)
    {result : Except Failure Unit}
    (h : GoPass host toolchain false world packages effects result after)
    (hmem : ∀ package ∈ packages, package ∈ all) (hstart : host.Reaches toolchain all start world)
    (hpresent : ∀ package ∈ packages, package.IsPresent world)
    (hagain : host.SucceedsFrom (packages.flatMap toolchain.checkoutsFor) world) :
    result = .ok () ∧ commandsOf effects = packages.flatMap toolchain.checkoutsFor := by
  induction h with
  | done start => exact ⟨rfl, rfl⟩
  | @next first middle last package rest effects more result hfetches hrest ih =>
    rw [List.forall_mem_cons] at hmem hpresent
    obtain ⟨isPresent, hexists, hsucceeds, rfl⟩ := hfetches.ok
    obtain rfl : true = isPresent := Except.ok.inj (hpresent.1.symm.trans hexists)
    have hmiddle := hfetches.reaches hmem.1
    obtain ⟨hok, hcommands⟩ := ih hmem.2 (hstart.trans hmiddle)
      (fun package hpackage => hdelivers.isPresent (hmem.2 package hpackage) hstart
        (hpresent.2 package hpackage) hmiddle)
      (hagain.behind ((World.Quiet.refl first).note _) hsucceeds)
    rw [commandsOf_append, commandsOf_inspect, hcommands, List.flatMap_cons]
    exact ⟨hok, rfl⟩
  | @stops first last package rest effects failure hfetches =>
    -- the package is present, and no command that is left to be run can fail
    rw [List.forall_mem_cons] at hpresent
    cases hfetches.result_eq_ok hpresent.1 hagain.front

/-- **Fetching again.** Where the commands for the packages make their directories and take none
    away, a pass that has succeeded can be made again without `update`: if the commands of the first
    pass that have checked revisions out succeed again, it gives the same packages, gets none of
    them, and checks out just these revisions, in the same order. -/
theorem fetch_again {pins : Pins} {fetched : List Package} {middle : World} {first : List Effect}
    (hdelivers : host.Delivers toolchain fetched start)
    (hfetched : (fetchAll (goFetcher host toolchain) update pins packages).runOn start =
      (.ok fetched, middle))
    (hfirst : GoPass host toolchain update start fetched first (.ok ()) middle)
    (hagain : host.SucceedsFrom ((commandsOf first).filter Invocation.isCheckout) middle) :
    List.Forall₂ (Package.Revised pins) packages fetched ∧
    ∃ second after,
      (fetchAll (goFetcher host toolchain) false pins packages).runOn middle =
        (.ok fetched, after) ∧
      GoPass host toolchain false middle fetched second (.ok ()) after ∧
      (host.LeavesJournal → after.journal = second.reverse ++ middle.journal) ∧
      (∀ invocation ∈ commandsOf second, invocation.isGet = false) ∧
      commandsOf second = fetched.flatMap toolchain.checkoutsFor ∧
      commandsOf second = (commandsOf first).filter Invocation.isCheckout := by
  obtain ⟨rfl, -⟩ := fetchAll_ok hfetched
  have hmem : ∀ package ∈ applyPins pins packages, package ∈ applyPins pins packages :=
    fun _ hpackage => hpackage
  have hreaches := hfirst.reaches hmem rfl
  have hpresent := hfirst.isPresent hdelivers hmem (.quiet (.refl start)) rfl
  have hcheckouts := hfirst.filter_commandsOf rfl
  rw [hcheckouts] at hagain ⊢
  obtain ⟨second, result, hsecond, hresult⟩ :=
    fetchAll_goPass host toolchain false pins packages middle
  obtain ⟨rfl, hcommands⟩ := hsecond.again hdelivers hmem hreaches hpresent hagain
  refine ⟨applyPins_revised pins packages, second, _, Prod.ext hresult rfl, hsecond,
    fun hleaves => hsecond.journal_eq hleaves, ?_, hcommands, hcommands⟩
  intro invocation hinvocation
  rw [hcommands, ← hcheckouts] at hinvocation
  have hcheckout := (List.mem_filter.1 hinvocation).2
  simp only [Invocation.isCheckout, decide_eq_true_eq] at hcheckout
  simp [Invocation.isGet, hcheckout]

end

/-! A package that comes with another one is not got again either. -/

namespace Nested

def toolchain : Toolchain := ⟨ToolSettings.default.toolchain, "/w"⟩

/-- The files with all packages in their places. -/
def full : FileSystem := ⟨[
  (["w"], .directory), (["w", "src"], .directory), (["w", "src", "a"], .directory),
  (["w", "src", "a", "b"], .directory), (["w", "src", "c"], .directory)]⟩

/-- Getting any package brings all of them in, and a revision is checked out where there is a
    directory; any other command removes every file. -/
def host : Host :=
  { run := fun invocation world =>
      if invocation.isGet then
        (.ok ⟨.exited 0, [], []⟩, { world with files := full, directory := [] })
      else if invocation.isCheckout then
        let isThere := world.files.isDirectory world.directory (invocation.directory.getD "")
        (.ok ⟨.exited (if isThere then 0 else 128), [], []⟩, world)
      else (.ok ⟨.exited 0, [], []⟩, { world with files := .empty })
    start := fun _ world => (.error .absent, world) }

def packages : List Package := [.latest "/w/src" "a", .latest "/w/src" "a/b", .latest "/w/src" "c"]

def pins : Pins := [("a", "v1"), ("a/b", "v2")]

/-- Only the last package is there. -/
def start : World :=
  World.fresh [
    (["w"], .directory), (["w", "src"], .directory), (["w", "src", "c"], .directory)]

variable {package : Package} {world : World} {invocation : Invocation}

theorem sourceDir_pinned :
    (applyPins pins packages).map Package.sourceDir = ["/w/src/a", "/w/src/a/b", "/w/src/c"] := by
  decide +kernel

theorem full_isDirectory (hpackage : package ∈ applyPins pins packages) :
    full.isDirectory [] package.sourceDir := by
  have hdir := List.mem_map_of_mem (f := Package.sourceDir) hpackage
  revert hdir
  rw [sourceDir_pinned]
  generalize package.sourceDir = dir
  revert dir
  simp only [List.forall_mem_cons, List.not_mem_nil, false_implies, implies_true, and_true]
  exact ⟨by decide +kernel, by decide +kernel, by decide +kernel⟩

theorem full_exists (hpackage : package ∈ applyPins pins packages) :
    full.exists? [] package.sourceDir = .ok true :=
  FileSystem.exists?_of_isDirectory (full_isDirectory hpackage)

theorem start_exists (hpackage : package ∈ applyPins pins packages) : ∃ isPresent,
    start.files.exists? [] package.sourceDir = .ok isPresent := by
  have hdir := List.mem_map_of_mem (f := Package.sourceDir) hpackage
  revert hdir
  rw [sourceDir_pinned]
  generalize package.sourceDir = dir
  revert dir
  simp only [List.forall_mem_cons, List.not_mem_nil, false_implies, implies_true, and_true]
  exact ⟨⟨false, by decide +kernel⟩, ⟨false, by decide +kernel⟩, ⟨true, by decide +kernel⟩⟩

theorem run_get (package : Package) (update : Bool) (world : World) :
    host.run (toolchain.getFor package update) world =
      (.ok ⟨.exited 0, [], []⟩, { world with files := full, directory := [] }) := by
  cases update <;> rfl

theorem run_checkout (h : invocation ∈ toolchain.checkoutsFor package) (world : World) :
    host.run invocation world =
      (.ok ⟨.exited (if world.files.isDirectory world.directory package.sourceDir then 0 else 128),
        [], []⟩, world) := by
  unfold Toolchain.checkoutsFor at h
  split at h
  · cases h
  · rw [List.mem_singleton.1 h]
    rfl

/-- Once all packages are there, checking their revisions out succeeds. -/
theorem checkouts_succeed {commands : List Invocation} (hfiles : world.files = full)
    (hdirectory : world.directory = [])
    (hcommands : ∀ invocation ∈ commands, ∃ package ∈ applyPins pins packages,
      invocation ∈ toolchain.checkoutsFor package) : host.SucceedsFrom commands world := by
  induction commands generalizing world with
  | nil => trivial
  | cons invocation rest ih =>
    rw [List.forall_mem_cons] at hcommands
    obtain ⟨⟨package, hpackage, hinvocation⟩, hrest⟩ := hcommands
    intro noted hquiet
    have hnoted : noted.files = full := hquiet.files_eq.trans hfiles
    have hnotedDirectory : noted.directory = [] := hquiet.directory_eq.trans hdirectory
    have hrun := run_checkout hinvocation noted
    rw [hnoted, hnotedDirectory, full_isDirectory hpackage] at hrun
    rw [hrun]
    refine ⟨?_, ih hnoted hnotedDirectory hrest⟩
    rw [Host.report, hrun]
    exact ⟨_, rfl⟩

theorem delivers : host.Delivers toolchain (applyPins pins packages) start where
  gets world _ package hpackage update output _ := by
    rw [run_get]
    exact full_exists hpackage
  keeps world _ invocation output hfor _ package hpackage hpresent := by
    obtain ⟨other, -, ⟨update, rfl⟩ | hcheckout⟩ := hfor
    · rw [run_get]
      exact full_exists hpackage
    · rw [run_checkout hcheckout]
      exact hpresent

/-- The files are as they were, or all packages are there. -/
theorem files_of_reaches (h : host.Reaches toolchain (applyPins pins packages) start world) :
    world.directory = [] ∧ (world.files = start.files ∨ world.files = full) := by
  induction h with
  | quiet hquiet => exact ⟨hquiet.directory_eq, .inl hquiet.files_eq⟩
  | command _ hfor _ hquiet ih =>
    rw [hquiet.files_eq, hquiet.directory_eq]
    obtain ⟨package, -, ⟨update, rfl⟩ | hcheckout⟩ := hfor
    · rw [run_get]
      exact ⟨rfl, .inr rfl⟩
    · rw [run_checkout hcheckout]
      exact ih

/-- The first pass succeeds. -/
theorem fetches : ∃ middle first,
    (fetchAll (goFetcher host toolchain) true pins packages).runOn start =
      (.ok (applyPins pins packages), middle) ∧
    GoPass host toolchain true start (applyPins pins packages) first (.ok ()) middle := by
  obtain ⟨first, result, hpass, hresult⟩ :=
    fetchAll_goPass host toolchain true pins packages start
  have hok : result = .ok () := by
    refine hpass.result_eq_ok (fun _ hpackage => hpackage) fun later hlater package hpackage => ?_
    obtain ⟨isPresent, hexists⟩ : ∃ isPresent,
        later.files.exists? later.directory package.sourceDir = .ok isPresent := by
      obtain ⟨hdirectory, hfiles | hfiles⟩ := files_of_reaches hlater
      · rw [hdirectory, hfiles]
        exact start_exists hpackage
      · rw [hdirectory, hfiles]
        exact ⟨true, full_exists hpackage⟩
    refine ⟨isPresent, hexists, ?_⟩
    have hcommands : ∃ anew, toolchain.commandsFor true isPresent package =
        toolchain.getFor package anew :: toolchain.checkoutsFor package := by
      cases isPresent with
      | false => exact ⟨false, rfl⟩
      | true => exact ⟨true, rfl⟩
    obtain ⟨anew, hcommands⟩ := hcommands
    rw [hcommands]
    intro noted _
    rw [Host.report, run_get]
    exact ⟨⟨_, rfl⟩, checkouts_succeed rfl rfl fun _ hmem => ⟨package, hpackage, hmem⟩⟩
  subst hok
  exact ⟨_, first, Prod.ext hresult rfl, hpass⟩

end Nested

/-- The second pass checks out both revisions, and gets nothing. -/
theorem fetch_again_nested : ∃ middle second after,
    (fetchAll (goFetcher Nested.host Nested.toolchain) true Nested.pins Nested.packages).runOn
      Nested.start = (.ok (applyPins Nested.pins Nested.packages), middle) ∧
    (fetchAll (goFetcher Nested.host Nested.toolchain) false Nested.pins Nested.packages).runOn
      middle = (.ok (applyPins Nested.pins Nested.packages), after) ∧
    GoPass Nested.host Nested.toolchain false middle (applyPins Nested.pins Nested.packages) second
      (.ok ()) after ∧
    commandsOf second = [
      ⟨"git", ["checkout", "v1"], [], some "/w/src/a"⟩,
      ⟨"git", ["checkout", "v2"], [], some "/w/src/a/b"⟩] := by
  obtain ⟨middle, first, hfetched, hfirst⟩ := Nested.fetches
  have hmem : ∀ package ∈ applyPins Nested.pins Nested.packages,
      package ∈ applyPins Nested.pins Nested.packages := fun _ hpackage => hpackage
  -- the package that was missing has been got, and all the others have come with it
  have hfiles : middle.directory = [] ∧ middle.files = Nested.full := by
    obtain ⟨hdirectory, hfiles | hfiles⟩ := Nested.files_of_reaches (hfirst.reaches hmem rfl)
    · have hfirstPackage : (⟨"a", "v1", "/w/src"⟩ : Package) ∈
          applyPins Nested.pins Nested.packages := by decide +kernel
      have hpresent := hfirst.isPresent Nested.delivers hmem (.quiet (.refl _)) rfl _ hfirstPackage
      unfold Package.IsPresent at hpresent
      rw [hfiles, hdirectory] at hpresent
      have habsent : Nested.start.files.exists? []
          (Package.sourceDir ⟨"a", "v1", "/w/src"⟩) = .ok false := by decide +kernel
      rw [habsent] at hpresent
      cases hpresent
    · exact ⟨hdirectory, hfiles⟩
  have hagain : Nested.host.SucceedsFrom ((commandsOf first).filter Invocation.isCheckout)
      middle := by
    refine Nested.checkouts_succeed hfiles.2 hfiles.1 fun invocation hinvocation => ?_
    rw [hfirst.filter_commandsOf rfl] at hinvocation
    exact List.mem_flatMap.1 hinvocation
  obtain ⟨-, second, after, hfetchedAgain, hsecond, -, -, hcommands, -⟩ :=
    fetch_again Nested.delivers hfetched hfirst hagain
  refine ⟨middle, second, after, hfetched, hfetchedAgain, hsecond, ?_⟩
  rw [hcommands]
  decide +kernel

end Pipewright
