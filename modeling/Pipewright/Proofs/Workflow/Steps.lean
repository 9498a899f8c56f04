import Pipewright.Proofs.Project.Rendering
import Pipewright.Proofs.Workflow.Gathering

set_option autoImplicit false

/-! # The tool step by step

A workflow acts on the world in steps, each of which is one effect of the tool. `Tool.Step` says
what each effect makes of a world: looking at a path changes nothing, a file operation changes the
files, and what a program or the fetcher does is up to it. Every step is noted in the journal first.
`Tool.Leads start effects after` says that these effects, in this order, lead from one world to
another, with nothing but log records between them. It holds of no call of the fetcher that fails;
such a call is always the last thing that a workflow does.

An action that `KeepsTo` a plan takes the steps of the plan in order. It may stop before the end of
the plan if it fails; if it succeeds, it has taken them all. -/

namespace Pipewright

open Pipewright.Action

variable {α β : Type}

/-- Differing in nothing but the log. -/
def World.Logs (start world : World) : Prop := world = { start with log := world.log }

theorem World.Logs.refl (world : World) : world.Logs world := rfl

theorem World.Logs.trans {start world after : World} (h : start.Logs world)
    (hafter : world.Logs after) : start.Logs after := by
  unfold World.Logs at *
  rw [hafter, h]

theorem World.Logs.record {start world : World} (h : start.Logs world) (level : LogLevel)
    (part : LogPart) : start.Logs (world.record level part) :=
  h.trans rfl

theorem World.Logs.files_eq {start world : World} (h : start.Logs world) :
    world.files = start.files := by
  rw [h]

theorem World.Logs.directory_eq {start world : World} (h : start.Logs world) :
    world.directory = start.directory := by
  rw [h]

theorem World.Logs.journal_eq {start world : World} (h : start.Logs world) :
    world.journal = start.journal := by
  rw [h]

theorem World.Logs.quiet {start world : World} (h : start.Logs world) : start.Quiet world := by
  unfold World.Logs at h
  rw [h]
  exact (World.Quiet.refl start).trans rfl

namespace Tool

variable (tool : Tool) (options : CreateOptions)

/-- The effect of calling the fetcher on a package. -/
def fetchEffect (package : Package) : Effect :=
  .fetch package.uri package.revision options.updatePackages

/-- What an effect of the tool makes of a world. -/
inductive Step (world : World) : Effect → World → Prop
  | inspect (path : Path) : Step world (.inspect path) (world.note (.inspect path))
  | read (path : Path) : Step world (.read path) (world.note (.read path))
  | write {path : Path} {content : Bytes} {files : FileSystem} :
      world.files.write world.directory path content = .ok files →
      Step world (.write path content) { world.note (.write path content) with files }
  | writeRefused {path : Path} {content : Bytes} {e : Errno} :
      world.files.write world.directory path content = .error e →
      Step world (.write path content) (world.note (.write path content))
  | makeDirectories (path : Path) :
      Step world (.makeDirectories path)
        { world.note (.makeDirectories path) with
          files := (world.files.makeDirectories world.directory path).2 }
  | fetch {fetcher : Fetcher World} {package : Package} {fetched : World} :
      tool.activeFetcher options = some fetcher →
      package.sourceRoot = tool.settings.layout.sourceRoot options.workspace →
      (fetcher package options.updatePackages).runOn (world.note (fetchEffect options package)) =
        (.ok (), fetched) →
      Step world (fetchEffect options package) fetched
  | command (invocation : Invocation) :
      Step world (.command invocation)
        (tool.host.run invocation (world.note (.command invocation))).2
  | launch (invocation : Invocation) :
      Step world (.launch invocation)
        (tool.host.start invocation (world.note (.launch invocation))).2

/-- These effects of the tool, in this order, lead from a world to another. -/
inductive Leads (start : World) : List Effect → World → Prop
  | idle {world : World} : start.Logs world → Leads start [] world
  | step {effects : List Effect} {effect : Effect} {world middle after : World} :
      Leads start effects world → tool.Step options world effect middle → middle.Logs after →
      Leads start (effects ++ [effect]) after

variable {tool options} {start world middle after : World} {effect : Effect}
  {effects more plan rest : List Effect}

theorem Leads.refl (world : World) : tool.Leads options world [] world := .idle (.refl world)

theorem Step.leads (h : tool.Step options start effect middle) (hlogs : middle.Logs after) :
    tool.Leads options start [effect] after :=
  .step (.refl start) h hlogs

theorem Leads.logs (h : tool.Leads options start effects world) (hlogs : world.Logs after) :
    tool.Leads options start effects after := by
  cases h with
  | idle hquiet => exact .idle (hquiet.trans hlogs)
  | step hbefore hstep hquiet => exact .step hbefore hstep (hquiet.trans hlogs)

theorem Leads.trans (h : tool.Leads options start effects world)
    (hmore : tool.Leads options world more after) :
    tool.Leads options start (effects ++ more) after := by
  induction hmore with
  | idle hquiet =>
    rw [List.append_nil]
    exact h.logs hquiet
  | step _ hstep hquiet ih =>
    rw [← List.append_assoc]
    exact .step ih hstep hquiet

/-! ## Keeping to a plan -/

variable (tool options) in
/-- The action takes the steps of a plan in order, all of them if it succeeds. -/
def KeepsTo (plan : List Effect) (action : Job α) : Prop :=
  ∀ world, ∃ effects, effects <+: plan ∧
    tool.Leads options world effects (action.runOn world).2 ∧
    ∀ a, (action.runOn world).1 = .ok a → effects = plan

theorem KeepsTo.pure (a : α) : tool.KeepsTo options [] (Pure.pure a : Job α) :=
  fun world => ⟨[], List.prefix_rfl, .refl world, fun _ _ => rfl⟩

theorem KeepsTo.throw (failure : Failure) :
    tool.KeepsTo options plan (MonadExcept.throw failure : Job α) :=
  fun world => ⟨[], List.nil_prefix, .refl world, fun _ herror => by cases herror⟩

theorem KeepsTo.mk_pure (result : Except Failure α) :
    tool.KeepsTo options [] (ExceptT.mk (Pure.pure result) : Job α) :=
  fun world => ⟨[], List.prefix_rfl, .refl world, fun _ _ => rfl⟩

/-- A single step, whatever it answers. -/
theorem KeepsTo.of_step {action : Job α}
    (h : ∀ world, tool.Step options world effect (action.runOn world).2) :
    tool.KeepsTo options [effect] action :=
  fun world => ⟨[effect], List.prefix_rfl, (h world).leads (.refl _), fun _ _ => rfl⟩

theorem KeepsTo.bind {action : Job α} {next : α → Job β} (h : tool.KeepsTo options plan action)
    (hnext : ∀ a, tool.KeepsTo options rest (next a)) :
    tool.KeepsTo options (plan ++ rest) (action >>= next) := by
  intro world
  obtain ⟨effects, hprefix, hleads, hall⟩ := h world
  rcases hrun : action.runOn world with ⟨failure | a, middle⟩
  · -- what a failed first part has done is a prefix of the longer plan too
    rw [hrun] at hleads
    rw [runOn_bind_error hrun]
    exact ⟨effects, hprefix.trans (List.prefix_append plan rest), hleads, fun _ herror => by
      cases herror⟩
  · rw [hrun] at hleads hall
    obtain rfl := hall a rfl
    rw [runOn_bind_ok hrun]
    obtain ⟨more, hmore, hmoreLeads, hmoreAll⟩ := hnext a middle
    refine ⟨effects ++ more, (List.prefix_append_right_inj effects).2 hmore,
      hleads.trans hmoreLeads, fun b hb => ?_⟩
    rw [hmoreAll b hb]

/-- An action without effects does not add to the plan. -/
theorem KeepsTo.bind_idle {action : Job α} {next : α → Job β} (h : tool.KeepsTo options [] action)
    (hnext : ∀ a, tool.KeepsTo options plan (next a)) :
    tool.KeepsTo options plan (action >>= next) :=
  h.bind hnext

theorem KeepsTo.then_idle {action : Job α} {next : α → Job β} (h : tool.KeepsTo options plan action)
    (hnext : ∀ a, tool.KeepsTo options [] (next a)) :
    tool.KeepsTo options plan (action >>= next) := by
  rw [← List.append_nil plan]
  exact h.bind hnext

theorem log_keepsTo (level : LogLevel) (part : LogPart) :
    tool.KeepsTo options [] (Job.log level part) :=
  fun world =>
    ⟨[], List.prefix_rfl, .idle ((World.Logs.refl world).record level part), fun _ _ => rfl⟩

theorem orFail_keepsTo (fail : Errno → Failure) (result : Except Errno α) :
    tool.KeepsTo options [] (Job.orFail fail result) := by
  cases result with
  | ok a => exact .pure a
  | error e => exact .throw _

/-- A stage keeps to the plan of its action. -/
theorem stage_keepsTo {action : Job α} (h : tool.KeepsTo options plan action) :
    tool.KeepsTo options plan (stage action) := by
  intro world
  obtain ⟨effects, hprefix, hleads, hall⟩ := h world
  rcases hrun : action.runOn world with ⟨failure | a, middle⟩
  · rw [hrun] at hleads
    rw [runOn_stage_error hrun]
    exact ⟨effects, hprefix, hleads.logs ((World.Logs.refl _).record _ _), fun _ herror => by
      cases herror⟩
  · rw [hrun] at hleads hall
    rw [runOn_stage_ok hrun]
    exact ⟨effects, hprefix, hleads, hall⟩

/-! ## Single steps -/

theorem stat_keepsTo (path : Path) : tool.KeepsTo options [.inspect path] (Job.stat path) :=
  .of_step fun _ => .inspect path

theorem fileExists_keepsTo (path : Path) :
    tool.KeepsTo options [.inspect path] (Job.fileExists path) :=
  .of_step fun _ => .inspect path

theorem readFile_keepsTo (path : Path) : tool.KeepsTo options [.read path] (Job.readFile path) :=
  .of_step fun _ => .read path

theorem makeDirectories_keepsTo (path : Path) :
    tool.KeepsTo options [.makeDirectories path] (Job.makeDirectories path) :=
  .of_step fun _ => .makeDirectories path

theorem writeFile_keepsTo (path : Path) (content : Bytes) :
    tool.KeepsTo options [.write path content] (Job.writeFile path content) := by
  refine .of_step fun world => ?_
  rw [Project.runOn_writeFile]
  cases hwrite : world.files.write world.directory path content with
  | ok files => exact .write hwrite
  | error e => exact .writeRefused hwrite

/-- What a command reports, and the world that it leaves, up to log records. -/
theorem runCommand_run (host : Host) (invocation : Invocation) (world : World) :
    ∃ logged, world.Logs logged ∧
      (host.run invocation (logged.note (.command invocation))).2.Logs
        ((runCommand host invocation).runOn world).2 ∧
      ((runCommand host invocation).runOn world).1 = .ok
        (match (host.run invocation (logged.note (.command invocation))).1 with
        | .error e => .error ⟨invocation.line, e.describe⟩
        | .ok completed => completed.result invocation.line) := by
  let logged := world.record .debug .toolchain
  have hlogged : (Job.log .debug .toolchain).runOn world = (.ok (), logged) := rfl
  have hnoted : (Job.update (World.note (.command invocation))).runOn logged =
      (.ok (), logged.note (.command invocation)) := rfl
  refine ⟨logged, (World.Logs.refl world).record _ _, ?_⟩
  unfold runCommand
  rw [runOn_bind_ok hlogged, runOn_bind_ok hnoted, runOn_bind_ok (runOn_get _)]
  rcases host.run invocation (logged.note (.command invocation)) with ⟨e | completed, after⟩
  · exact ⟨.refl _, rfl⟩
  · dsimp only
    rw [runOn_bind_ok (runOn_set _ _)]
    cases completed.status.isSuccess with
    | true => exact ⟨.refl _, rfl⟩
    | false => exact ⟨(World.Logs.refl after).record _ _, rfl⟩

theorem runCommand_keepsTo (invocation : Invocation) :
    tool.KeepsTo options [.command invocation] (runCommand tool.host invocation) := by
  intro world
  obtain ⟨logged, hbefore, hafter, -⟩ := runCommand_run tool.host invocation world
  exact ⟨[.command invocation], List.prefix_rfl,
    .step (.idle hbefore) (.command invocation) hafter, fun _ _ => rfl⟩

end Tool

end Pipewright
