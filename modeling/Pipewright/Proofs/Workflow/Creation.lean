import Pipewright.Proofs.Project.Rendering
import Pipewright.Proofs.Workflow.Gathering

set_option autoImplicit false

/-! # Creating projects

**A failed creation leaves the files to the fetcher.** A run of `Tool.createProject` that fails, and
not in a file operation, ends with the regular files of a world that the fetcher alone has led to.
It has not made a directory either, unless the template could be read but not be rendered: then
there are the directory of the project and those above it. And without `forceWrite` a project that
is there stays as it is, whatever goes wrong (`createProject_leaves`). -/

namespace Pipewright

open Pipewright.Action Project

/-- A creation comes as far as rendering what it has prepared. -/
def Tool.ComesToRender (tool : Tool) (configPath : Path) (options : CreateOptions)
    (overrides : Option Arguments) (start : World) (prepared : Prepared) (world : World) : Prop :=
  ∃ pipeline gathered,
    (tool.gather configPath options).runOn start = (.ok pipeline, gathered) ∧
    (prepare tool.settings.layout options pipeline.packages pipeline.config overrides).runOn
      gathered = (.ok prepared, world)

variable (tool : Tool) (configPath : Path) (options : CreateOptions)
  (overrides : Option Arguments)

variable {tool configPath options overrides} in
/-- A creation succeeds when it comes to render a project and completes it. -/
theorem createProject_eq_ok_iff {start after : World} {context : ProjectContext} :
    (tool.createProject configPath options overrides).runOn start = (.ok context, after) ↔
    ∃ gathered prepared world rendered,
      (tool.gather configPath options).runOn start = (.ok context.pipeline, gathered) ∧
      (prepare tool.settings.layout options context.pipeline.packages context.pipeline.config
        overrides).runOn gathered = (.ok prepared, world) ∧
      (complete tool.host (tool.toolchain options.workspace) context.pipeline.config
        prepared).runOn world = (.ok context.project, rendered) ∧
      after = rendered.record .info .workflow := by
  constructor
  · intro h
    unfold Tool.createProject at h
    obtain ⟨pipeline, gathered, hgather, h⟩ := runOn_bind_eq_ok h
    obtain ⟨project, rendered, hrender, h⟩ := runOn_bind_eq_ok h
    obtain ⟨prepared, world, hprepare, hcomplete⟩ := runOn_bind_eq_ok (runOn_stage_eq_ok hrender)
    cases h
    exact ⟨gathered, prepared, world, rendered, hgather, hprepare, hcomplete, rfl⟩
  · rintro ⟨gathered, prepared, world, rendered, hgather, hprepare, hcomplete, rfl⟩
    have hrender : (Project.render tool.host tool.settings.layout
        (tool.toolchain options.workspace) options context.pipeline.packages
        context.pipeline.config overrides).runOn gathered = (.ok context.project, rendered) :=
      (runOn_bind_ok hprepare).trans hcomplete
    unfold Tool.createProject
    rw [runOn_bind_ok hgather, runOn_bind_ok (runOn_stage_ok hrender)]
    rfl

/-- Creating a project is gathering and then rendering; nothing is done to the disk after that. -/
theorem createProject_run (start : World) :
    let run := (tool.createProject configPath options overrides).runOn start
    let fetcher := tool.activeFetcher options
    let layout := tool.settings.layout
    (∃ failure, run.1 = .error failure ∧ Fetched fetcher start run.2) ∨
    ∃ world, Fetched fetcher start world ∧
      (options.forceWrite = false →
        world.files.exists? world.directory (dirOf layout options) ≠ .ok true) ∧
      ∀ failure, run.1 = .error failure → ¬ IsIo failure →
        FailsInTemplate world.disk (layout.templatePaths options).template failure ∧
          FileSystem.Gains world.directory (dirOf layout options) world.files run.2.files := by
  simp only [Tool.createProject]
  rcases (tool.gather_moves configPath options).fails_or_goes_on _ start with
    hfail | ⟨pipeline, world, -, hworld, hrun⟩
  · exact .inl hfail
  rw [hrun]
  have hrender := render_run tool.host tool.settings.layout (tool.toolchain options.workspace)
    options pipeline.packages pipeline.config overrides world
  rcases hrendered : (Project.render tool.host tool.settings.layout
    (tool.toolchain options.workspace) options pipeline.packages pipeline.config
    overrides).runOn world with ⟨failure | project, after⟩
  · rw [hrendered] at hrender
    rw [runOn_bind_error (runOn_stage_error hrendered)]
    rcases hrender with ⟨_, _, hquiet⟩ | ⟨hforce, hleft⟩
    · exact .inl ⟨failure, rfl, hworld.then_quiet (hquiet.record _ _)⟩
    · refine .inr ⟨world, hworld, hforce, fun other hother => ?_⟩
      cases hother
      exact hleft failure rfl
  · rw [hrendered] at hrender
    rw [runOn_bind_ok (runOn_stage_ok hrendered)]
    rcases hrender with ⟨_, herror, _⟩ | ⟨hforce, _⟩
    · cases herror
    · refine .inr ⟨world, hworld, hforce, fun failure herror => ?_⟩
      cases herror

/-- A creation that fails, and not in a file operation, leaves the regular files as the fetcher has
    left them, and the directories too, unless it fails in the template. -/
theorem createProject_error {start after : World} {failure : Failure}
    (h : (tool.createProject configPath options overrides).runOn start = (.error failure, after))
    (hother : ¬ IsIo failure) :
    ∃ world, Fetched (tool.activeFetcher options) start world ∧
      (∀ location, after.files.file? location = world.files.file? location) ∧
      (after.files = world.files ∨
        FailsInTemplate world.disk (tool.settings.layout.templatePaths options).template failure ∧
          FileSystem.Gains world.directory (dirOf tool.settings.layout options) world.files
            after.files) := by
  have hrun := createProject_run tool configPath options overrides start
  rw [h] at hrun
  rcases hrun with ⟨_, _, hfetched⟩ | ⟨world, hworld, _, hleft⟩
  · exact ⟨after, hfetched, fun _ => rfl, .inl rfl⟩
  · obtain ⟨hfails, hgains⟩ := hleft failure rfl hother
    exact ⟨world, hworld, hgains.file?_eq, .inr ⟨hfails, hgains⟩⟩

/-- **What a failed creation leaves.** Every failure but one of a file operation leaves the regular
    files as the fetcher has left them, and the directories too, unless it is a failure in the
    template: this one leaves the directory of the project. Without `forceWrite` a project that is
    there makes the creation fail with all files as the fetcher has left them, unless it is the
    fetcher that has taken the project away. -/
theorem createProject_leaves (start : World) :
    let run := (tool.createProject configPath options overrides).runOn start
    let fetcher := tool.activeFetcher options
    let dir := dirOf tool.settings.layout options
    let templatePath := (tool.settings.layout.templatePaths options).template
    (∀ failure, run.1 = .error failure → ¬ IsIo failure →
      ∃ world, Fetched fetcher start world ∧
        (∀ location, run.2.files.file? location = world.files.file? location) ∧
        (run.2.files = world.files ∨
          FailsInTemplate world.disk templatePath failure ∧
            FileSystem.Gains world.directory dir world.files run.2.files)) ∧
    (options.forceWrite = false → start.files.exists? start.directory dir = .ok true →
      (∃ failure world, run.1 = .error failure ∧ Fetched fetcher start world ∧
        run.2.files = world.files) ∨
      options.getPackages = true ∧
        ∃ world, Fetched fetcher start world ∧
          world.files.exists? world.directory dir ≠ .ok true) := by
  refine ⟨fun failure hfailure => createProject_error tool configPath options overrides
    (Prod.ext hfailure rfl), fun hforce hexists => ?_⟩
  · rcases createProject_run tool configPath options overrides start with
      ⟨failure, herror, hfetched⟩ | ⟨world, hworld, hgone, _⟩
    · exact .inl ⟨failure, _, herror, hfetched, rfl⟩
    · cases hget : options.getPackages with
      | true => exact .inr ⟨rfl, world, hworld, hgone hforce⟩
      | false =>
        -- without a fetcher the project is still there
        have hnone : tool.activeFetcher options = none := by simp [Tool.activeFetcher, hget]
        rw [hnone] at hworld
        have hquiet := hworld.quiet
        rw [hquiet.files_eq, hquiet.directory_eq] at hgone
        exact absurd hexists (hgone hforce)

end Pipewright
