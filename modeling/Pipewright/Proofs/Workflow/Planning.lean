import Pipewright.Proofs.Workflow.Consistency
import Pipewright.Proofs.Workflow.Forcing
import Pipewright.Proofs.World.Rewriting

set_option autoImplicit false

/-! # Planning a creation

What a creation without fetching makes of a disk, case by case, if it may overwrite. It has a plan,
if all that it gathers and reads is there (`Tool.planOn`); then the directory is made, and the
project completed in it (`Completes`). `Tool.Makes` has one case for each way to end, and a creation
always ends in one of them (`createProject_makes`). -/

namespace Pipewright

open Pipewright.Action Project

/-! ## Completing -/

section Completing

/-- Writes the two files of a project, as far as it goes. -/
def Project.Prepared.writeFiles (prepared : Prepared) (config : LoadedConfig) (text : String)
    (disk : Disk) : Except (Path × Errno) Unit × FileSystem :=
  disk.files.writeBoth disk.directory (Path.join prepared.dir entryPoint) (Text.Utf8.encode text)
    (Path.join prepared.dir config.fileName) config.bytes

variable (host : Host) (toolchain : Toolchain) (config : LoadedConfig) (prepared : Prepared)
  (world : World)

/-- What completing a project makes of a disk: the template cannot be rendered, which changes
    nothing; or a file cannot be written; or both are written, and then the source file is
    formatted. -/
inductive Completes (disk : Disk) : Except Failure RenderedProject → Disk → Prop
  | unrendered {fault : Template.RenderFault} :
      Template.render prepared.template prepared.data.toJson = .error fault →
      Completes disk (.error (.render prepared.templatePath fault.message)) disk
  | unwritten {text : String} {path : Path} {e : Errno} {files : FileSystem} :
      Template.render prepared.template prepared.data.toJson = .ok text →
      prepared.writeFiles config text disk = (.error (path, e), files) →
      Completes disk (.error (.io path (.system e))) ⟨files, disk.directory⟩
  | completed {text : String} {written : World} :
      Template.render prepared.template prepared.data.toJson = .ok text →
      prepared.writeFiles config text disk = (.ok (), written.files) →
      written.directory = disk.directory →
      Completes disk
        (.ok ⟨prepared.dir, Path.join prepared.dir entryPoint,
          Path.join prepared.dir config.fileName⟩)
        (host.run (toolchain.format (Path.join prepared.dir entryPoint)) written).2.disk

variable {host toolchain config prepared world}

/-- Writing a file that can be written. -/
theorem runOn_writeFile_ok {path : Path} {content : Bytes} {files : FileSystem}
    (h : world.files.write world.directory path content = .ok files) :
    ∃ after, (Job.writeFile path content >>= Job.orIo path).runOn world = (.ok (), after) ∧
      after.files = files ∧ after.directory = world.directory := by
  rw [runOn_bind, runOn_writeFile, h]
  exact ⟨_, rfl, rfl, rfl⟩

/-- Failing to write a file. -/
theorem runOn_writeFile_error {path : Path} {content : Bytes} {e : Errno}
    (h : world.files.write world.directory path content = .error e) :
    (Job.writeFile path content >>= Job.orIo path).runOn world =
      (.error (.io path (.system e)), world.note (.write path content)) := by
  rw [runOn_bind, runOn_writeFile, h]
  rfl

/-- Writing two files one after the other. -/
theorem runOn_writeBoth (world : World) (first : Path) (content : Bytes) (second : Path)
    (more : Bytes) :
    ∃ after, ((Job.writeFile first content >>= Job.orIo first) >>= fun _ =>
        Job.writeFile second more >>= Job.orIo second).runOn world =
      ((world.files.writeBoth world.directory first content second more).1.mapError
        fun failed => .io failed.1 (.system failed.2), after) ∧
      after.files = (world.files.writeBoth world.directory first content second more).2 ∧
      after.directory = world.directory := by
  unfold FileSystem.writeBoth
  cases hfirst : world.files.write world.directory first content with
  | error e =>
    rw [runOn_bind_error (runOn_writeFile_error hfirst)]
    exact ⟨_, rfl, rfl, rfl⟩
  | ok files =>
    obtain ⟨middle, hmiddle, rfl, hdirectory⟩ := runOn_writeFile_ok hfirst
    rw [runOn_bind_ok hmiddle, ← hdirectory]
    dsimp only
    cases hsecond : middle.files.write middle.directory second more with
    | error e =>
      rw [runOn_writeFile_error hsecond]
      exact ⟨_, rfl, rfl, rfl⟩
    | ok files =>
      obtain ⟨after, hafter, rfl, hdirectory'⟩ := runOn_writeFile_ok hsecond
      rw [hafter]
      exact ⟨_, rfl, rfl, hdirectory'⟩

theorem World.Logs.disk_eq {start after : World} (h : start.Logs after) :
    after.disk = start.disk := by
  rw [h]
  rfl

/-- What is left when the files are written: the source file is formatted, and whatever that
    reports the project is there. -/
def format (host : Host) (toolchain : Toolchain) (project : RenderedProject) :
    Job RenderedProject := do
  match ← runCommand host (toolchain.format project.sourcePath) with
  | .ok _ => pure ()
  | .error _ => Job.log .warn .rendering
  Job.log .info .rendering
  return project

variable (host toolchain) in
theorem runOn_format (project : RenderedProject) (written : World) :
    ((format host toolchain project).runOn written).1 = .ok project ∧
    ∃ start : World, start.disk = written.disk ∧
      ((format host toolchain project).runOn written).2.disk =
        (host.run (toolchain.format project.sourcePath) start).2.disk := by
  obtain ⟨logged, hlogged, hformat, hresult⟩ :=
    Tool.runCommand_run host (toolchain.format project.sourcePath) written
  have hdone : ∀ after, ((runCommand host (toolchain.format project.sourcePath)).runOn
      written).2.Logs after → ∃ start : World, start.disk = written.disk ∧
        after.disk = (host.run (toolchain.format project.sourcePath) start).2.disk :=
    fun after hlogs => ⟨logged.note (.command _), hlogged.disk_eq, (hformat.trans hlogs).disk_eq⟩
  have hlogs := World.Logs.refl
    ((runCommand host (toolchain.format project.sourcePath)).runOn written).2
  unfold format
  rw [runOn_bind_ok (Prod.ext hresult rfl)]
  split
  · exact ⟨rfl, hdone _ (hlogs.record .info .rendering)⟩
  · exact ⟨rfl, hdone _ ((hlogs.record .warn .rendering).record .info .rendering)⟩

theorem complete_eq {text : String}
    (htext : Template.render prepared.template prepared.data.toJson = .ok text) :
    complete host toolchain config prepared =
      ((Job.writeFile (Path.join prepared.dir entryPoint) (Text.Utf8.encode text) >>=
          Job.orIo (Path.join prepared.dir entryPoint)) >>= fun _ =>
        Job.writeFile (Path.join prepared.dir config.fileName) config.bytes >>=
          Job.orIo (Path.join prepared.dir config.fileName)) >>= fun _ =>
      format host toolchain ⟨prepared.dir, Path.join prepared.dir entryPoint,
        Path.join prepared.dir config.fileName⟩ := by
  unfold complete
  rw [htext]
  simp only [bind_assoc]
  rfl

variable (host toolchain config prepared world) in
theorem complete_completes :
    Completes host toolchain config prepared world.disk
      ((complete host toolchain config prepared).runOn world).1
      ((complete host toolchain config prepared).runOn world).2.disk := by
  cases htext : Template.render prepared.template prepared.data.toJson with
  | error fault =>
    unfold complete
    rw [htext]
    exact .unrendered htext
  | ok text =>
    obtain ⟨written, hrun, hfiles, hdirectory⟩ := runOn_writeBoth world
      (Path.join prepared.dir entryPoint) (Text.Utf8.encode text)
      (Path.join prepared.dir config.fileName) config.bytes
    rw [complete_eq htext]
    rcases hwrites : prepared.writeFiles config text world.disk with ⟨⟨path, e⟩ | ⟨⟩, files⟩
    · have hboth : world.files.writeBoth world.directory _ _ _ _ = (.error (path, e), files) :=
        hwrites
      rw [hboth] at hrun hfiles
      have hdisk : written.disk = ⟨files, world.disk.directory⟩ :=
        congrArg₂ Disk.mk hfiles hdirectory
      rw [runOn_bind_error hrun, hdisk]
      exact .unwritten htext hwrites
    · have hboth : world.files.writeBoth world.directory _ _ _ _ = (.ok (), files) := hwrites
      rw [hboth] at hrun hfiles
      rw [runOn_bind_ok hrun]
      obtain ⟨hresult, start, hstart, hformatted⟩ := runOn_format host toolchain
        ⟨prepared.dir, Path.join prepared.dir entryPoint, Path.join prepared.dir config.fileName⟩
        written
      rw [hresult, hformatted]
      refine .completed htext ?_ ((congrArg Disk.directory hstart).trans hdirectory)
      rw [hwrites]
      exact Prod.ext rfl (hfiles.symm.trans (congrArg Disk.files hstart).symm)

end Completing

/-! ## Creating -/

section Creating

variable (tool : Tool) (configPath : Path) (options : CreateOptions)
  (overrides : Option Arguments) (start : World)

/-- What a project is made of, by what is on the disk of a world. -/
def Tool.planOn (world : World) : Except Failure (ResolvedPipeline × Survey) := do
  let pipeline ← tool.gatherOn configPath options world
  let surveyed ← surveyOn world.disk tool.settings.layout options pipeline.config overrides
  return (pipeline, surveyed)

variable {tool configPath options overrides} in
theorem Tool.planOn_eq_ok_iff {world : World} {pipeline : ResolvedPipeline} {surveyed : Survey} :
    tool.planOn configPath options overrides world = .ok (pipeline, surveyed) ↔
      tool.gatherOn configPath options world = .ok pipeline ∧
      surveyOn world.disk tool.settings.layout options pipeline.config overrides =
        .ok surveyed := by
  unfold planOn
  simp only [Except.bind_ok_iff, pure, Except.pure, Except.ok.injEq, Prod.mk.injEq]
  constructor
  · rintro ⟨pipeline, hgather, surveyed, hsurvey, rfl, rfl⟩
    exact ⟨hgather, hsurvey⟩
  · rintro ⟨hgather, hsurvey⟩
    exact ⟨pipeline, hgather, surveyed, hsurvey, rfl, rfl⟩

/-- The project of a plan, ready to be completed at the time of a world. -/
def Tool.preparedAt (plan : ResolvedPipeline × Survey) : Prepared :=
  plan.2.prepared tool.settings.layout options plan.1.packages plan.1.config start.clock

/-- What a creation makes of a disk: there is no plan; it cannot be seen whether the project is
    there; the directory cannot be made; or it is made, and the project completed. -/
inductive Tool.Makes : Except Failure ProjectContext → Disk → Prop
  | unplanned {failure : Failure} :
      tool.planOn configPath options overrides start = .error failure →
      Makes (.error failure) start.disk
  | unseen {plan : ResolvedPipeline × Survey} {e : Errno} :
      tool.planOn configPath options overrides start = .ok plan →
      start.files.exists? start.directory (dirOf tool.settings.layout options) = .error e →
      Makes (.error (.io (dirOf tool.settings.layout options) (.system e))) start.disk
  | unmade {plan : ResolvedPipeline × Survey} {isThere : Bool} {e : Errno} {files : FileSystem} :
      tool.planOn configPath options overrides start = .ok plan →
      start.files.exists? start.directory (dirOf tool.settings.layout options) = .ok isThere →
      start.files.makeDirectories start.directory (dirOf tool.settings.layout options) =
        (.error e, files) →
      Makes (.error (.io (dirOf tool.settings.layout options) (.system e)))
        ⟨files, start.directory⟩
  | made {plan : ResolvedPipeline × Survey} {isThere : Bool} {made : World} {after : Disk}
      {result : Except Failure RenderedProject} :
      tool.planOn configPath options overrides start = .ok plan →
      start.files.exists? start.directory (dirOf tool.settings.layout options) = .ok isThere →
      start.files.makeDirectories start.directory (dirOf tool.settings.layout options) =
        (.ok (), made.files) →
      made.directory = start.directory →
      tool.ComesToRender configPath options overrides start (tool.preparedAt options start plan)
        made →
      Completes tool.host (tool.toolchain options.workspace) plan.1.config
        (tool.preparedAt options start plan) made.disk result after →
      Makes (result.map fun project => ⟨plan.1, project⟩) after

variable {tool configPath options overrides start}

/-- What is finished of a rendering. -/
theorem finished_eq (pipeline : ResolvedPipeline) (run : Except Failure RenderedProject × World) :
    (finished pipeline run).1 = run.1.map (fun project => ⟨pipeline, project⟩) ∧
      (finished pipeline run).2.disk = run.2.disk := by
  rcases run with ⟨failure | project, after⟩
  · exact ⟨rfl, rfl⟩
  · exact ⟨rfl, rfl⟩

section Ready

variable {layout : LayoutSettings} {packages : List Package} {config : LoadedConfig}
  {surveyed : Survey} {asked : World} {files : FileSystem} (hasked : start.Quiet asked)

include hasked

theorem runOn_ready_ok
    (h : start.files.makeDirectories start.directory (dirOf layout options) = (.ok (), files)) :
    ∃ made, (ready layout options packages config surveyed).runOn asked =
        (.ok (surveyed.prepared layout options packages config start.clock), made) ∧
      made.files = files ∧ made.directory = start.directory := by
  have hclock : asked.clock = start.clock := by rw [hasked]
  rw [runOn_ready, hasked.files_eq, hasked.directory_eq, hclock]
  dsimp only
  rw [h]
  exact ⟨_, rfl, rfl, hasked.directory_eq⟩

theorem runOn_ready_error {e : Errno}
    (h : start.files.makeDirectories start.directory (dirOf layout options) = (.error e, files)) :
    ∃ left, (ready layout options packages config surveyed).runOn asked =
        (.error (.io (dirOf layout options) (.system e)), left) ∧
      left.disk = ⟨files, start.directory⟩ := by
  rw [runOn_ready, hasked.files_eq, hasked.directory_eq]
  dsimp only
  rw [h]
  exact ⟨_, rfl, congrArg (Disk.mk files) hasked.directory_eq⟩

end Ready

/-- Making the project of a plan. -/
theorem make_makes {pipeline : ResolvedPipeline} {surveyed : Survey} {asked gathered : World}
    {isThere : Bool}
    (hplan : tool.planOn configPath options overrides start = .ok (pipeline, surveyed))
    (hexists : start.files.exists? start.directory (dirOf tool.settings.layout options) =
      .ok isThere)
    (hgather : (tool.gather configPath options).runOn start = (.ok pipeline, gathered))
    (hprepare : (prepare tool.settings.layout options pipeline.packages pipeline.config
      overrides).runOn gathered =
        (ready tool.settings.layout options pipeline.packages pipeline.config surveyed).runOn asked)
    (hasked : start.Quiet asked) :
    let run := finished pipeline ((make tool.host tool.settings.layout
      (tool.toolchain options.workspace) options pipeline.packages pipeline.config
      surveyed).runOn asked)
    tool.Makes configPath options overrides start run.1 run.2.disk := by
  intro run
  obtain ⟨hresult, hdisk⟩ := finished_eq pipeline ((make tool.host tool.settings.layout
    (tool.toolchain options.workspace) options pipeline.packages pipeline.config
    surveyed).runOn asked)
  rw [hresult, hdisk]
  unfold make
  rcases hmake : start.files.makeDirectories start.directory (dirOf tool.settings.layout options)
    with ⟨e | ⟨⟩, files⟩
  · obtain ⟨left, hready, hleft⟩ := runOn_ready_error hasked hmake
    rw [runOn_bind_error hready, hleft]
    exact .unmade hplan hexists hmake
  · obtain ⟨made, hready, rfl, hdirectory⟩ := runOn_ready_ok hasked hmake
    rw [runOn_bind_ok hready]
    exact .made hplan hexists hmake hdirectory ⟨pipeline, gathered, hgather, hprepare.trans hready⟩
      (complete_completes _ _ _ _ _)

/-- **The plan of a creation.** -/
theorem createProject_makes (hget : options.getPackages = false)
    (hforce : options.forceWrite = true) :
    let run := (tool.createProject configPath options overrides).runOn start
    tool.Makes configPath options overrides start run.1 run.2.disk := by
  intro run
  obtain ⟨hgathers, hquiet⟩ := tool.gather_answers configPath hget start start (.refl start)
  rcases hgather : (tool.gather configPath options).runOn start with ⟨failure | pipeline, gathered⟩
  · rw [hgather] at hgathers hquiet
    have hrun : run = (.error failure, gathered) := runOn_createProject_error options hgather
    rw [hrun, hquiet.disk_eq]
    refine .unplanned ?_
    unfold Tool.planOn
    rw [← hgathers]
    rfl
  rw [hgather] at hgathers hquiet
  have hrun : run = finished pipeline _ := runOn_createProject_ok options hgather
  obtain ⟨hsurveys, hread⟩ := survey_answers tool.settings.layout options pipeline.config overrides
    gathered hquiet
  rcases hsurvey : (survey tool.settings.layout options pipeline.config overrides).runOn gathered
    with ⟨failure | surveyed, read⟩
  · rw [hsurvey] at hsurveys hread
    rw [hrun, runOn_render_error _ _ _ _ hsurvey, (finished_eq _ _).2, hread.disk_eq]
    refine .unplanned ?_
    unfold Tool.planOn
    rw [← hgathers]
    change (do
      let surveyed ← surveyOn _ _ _ pipeline.config overrides
      return (pipeline, surveyed)) = _
    rw [← hsurveys]
    rfl
  rw [hsurvey] at hsurveys hread
  have hplan : tool.planOn configPath options overrides start = .ok (pipeline, surveyed) :=
    Tool.planOn_eq_ok_iff.2 ⟨hgathers.symm, hsurveys.symm⟩
  have hprepare := runOn_prepare_ok options pipeline.packages hsurvey
  have hrender := runOn_render_ok tool.host (tool.toolchain options.workspace) options
    pipeline.packages hsurvey
  rw [hread.files_eq, hread.directory_eq] at hprepare hrender
  rw [hrun, hrender]
  have hasked := hread.note (.inspect (dirOf tool.settings.layout options))
  dsimp only at hprepare ⊢
  cases hexists : start.files.exists? start.directory (dirOf tool.settings.layout options) with
  | error e =>
    rw [(finished_eq _ _).2, hasked.disk_eq]
    exact .unseen hplan hexists
  | ok isThere =>
    rw [hexists] at hprepare
    cases isThere with
    | false => exact make_makes hplan hexists hgather hprepare hasked
    | true =>
      rw [if_pos hforce] at hprepare ⊢
      exact make_makes hplan hexists hgather hprepare (hasked.record .warn .rendering)

end Creating

end Pipewright
