import Pipewright.Proofs.Workflow.Consistency
import Pipewright.Proofs.Workflow.Idempotence
import Pipewright.Proofs.Workflow.StageOrder

set_option autoImplicit false

/-! # The files of a run

Three files of a run lie in one directory: the source file, the copy of the configuration, and the
program that is built. Rendering refuses a configuration that is named like the source file, so
these two never meet; a configuration that is named like the program is taken.

`Tool.GoesThrough` names the worlds that a run goes through after its files are written. The copy
outlives the run as long as every program keeps to its own file and the configuration is not named
like the program that is built; if it is, that program takes the place of the copy
(`runProject_keeps_copy`). -/

namespace Pipewright

open Pipewright.Action Project

section Runs

variable {tool : Tool} {configPath : Path} {options : CreateOptions}
  {overrides : Option Arguments} {start world after : World} {context : ProjectContext}

/-! ## The parts of a run -/

/-- A build that succeeds has run its command in the directory of the project. -/
theorem Tool.build_ok {workspace dir artifact : Path}
    (h : (tool.build workspace dir).runOn start = (.ok artifact, after)) :
    ∃ place unbuilt completed built, unbuilt.disk = start.disk ∧
      start.files.canonical start.directory dir = .ok place ∧
      artifact = Path.join place artifactName ∧
      tool.host.run ((tool.toolchain workspace).build place) unbuilt = (.ok completed, built) ∧
      completed.status.isSuccess = true ∧ built.Logs after := by
  unfold Tool.build at h
  obtain ⟨canonical, inspected, hinspect, h⟩ := runOn_bind_eq_ok h
  cases hinspect
  obtain ⟨place, found, hfound, h⟩ := runOn_bind_eq_ok h
  obtain ⟨hplace, rfl⟩ := orIo_eq_ok hfound
  obtain ⟨⟨⟩, begun, hbegun, h⟩ := runOn_bind_eq_ok h
  cases hbegun
  obtain ⟨result, finished, hcommand, h⟩ := runOn_bind_eq_ok h
  obtain ⟨logged, hlogged, hafter, hresult⟩ := Tool.runCommand_run tool.host
    ((tool.toolchain workspace).build place) ((start.note (.inspect dir)).record .info .building)
  rw [hcommand] at hafter hresult
  obtain ⟨unbuilt, hunbuilt, hdisk⟩ : ∃ unbuilt : World,
      logged.note (.command ((tool.toolchain workspace).build place)) = unbuilt ∧
        unbuilt.disk = start.disk := ⟨_, rfl, hlogged.disk_eq⟩
  rw [hunbuilt] at hafter hresult
  rcases hrun : tool.host.run ((tool.toolchain workspace).build place) unbuilt with
    ⟨e | completed, built⟩
  · rw [hrun] at hresult
    cases hresult
    cases h
  · rw [hrun] at hresult hafter
    simp only [Completed.result] at hresult
    cases hsuccess : completed.status.isSuccess with
    | false =>
      rw [hsuccess] at hresult
      cases hresult
      cases h
    | true =>
      rw [hsuccess] at hresult
      cases hresult
      cases h
      exact ⟨place, unbuilt, completed, built, hdisk, hplace, rfl, hrun, hsuccess, hafter⟩

theorem launch_ok {host : Host} {artifact dir : Path} {process : StartedProgram}
    (h : (launch host artifact dir).runOn world = (.ok process, after)) :
    ∃ unlaunched, unlaunched.disk = world.disk ∧
      (host.start ⟨artifact, [], [], some dir⟩ unlaunched).1 = .ok process := by
  let invocation : Invocation := ⟨artifact, [], [], some dir⟩
  refine ⟨world.note (.launch invocation), rfl, ?_⟩
  have hnoted : (Job.update (World.note (.launch invocation))).runOn world =
      (.ok (), world.note (.launch invocation)) := rfl
  unfold launch at h
  rw [runOn_bind_ok hnoted, runOn_bind_ok (runOn_get _)] at h
  rcases hstart : host.start invocation (world.note (.launch invocation)) with
    ⟨e | started, launched⟩
  · rw [hstart] at h
    cases h
  · rw [hstart] at h
    cases h
    rfl

/-- A run that succeeds has created its project, and then built and run it. -/
theorem Tool.runProject_ok {outcome : SupervisorOutcome}
    (h : (tool.runProject configPath options overrides).runOn start =
      (.ok (context, outcome), after)) :
    ∃ created finished,
      (tool.createProject configPath options overrides).runOn start = (.ok context, created) ∧
      (tool.buildAndRun options.workspace context.project.dir).runOn created =
        (.ok outcome, finished) ∧
      finished.Logs after := by
  unfold Tool.runProject at h
  obtain ⟨created, middle, hcreate, h⟩ := runOn_bind_eq_ok h
  obtain ⟨result, finished, hrun, h⟩ := runOn_bind_eq_ok h
  cases h
  exact ⟨middle, finished, hcreate, runOn_stage_eq_ok hrun,
    (World.Logs.refl finished).record .info .workflow⟩

/-- The path names the same node in both worlds. -/
def World.LeavesAlone (path : Path) (world after : World) : Prop :=
  after.files.stat after.directory path = world.files.stat world.directory path

/-- The worlds that a run goes through after the files of its project are written: the source file
    is formatted, the program is built in the directory of the project, and it is started and leaves
    the disk as it is at the end. -/
structure Tool.GoesThrough (tool : Tool) (options : CreateOptions) (project : RenderedProject)
    (written unbuilt built after : World) : Prop where
  formats : unbuilt.disk =
    (tool.host.run ((tool.toolchain options.workspace).format project.sourcePath) written).2.disk
  runs : ∃ place completed unlaunched process time,
    unbuilt.files.canonical unbuilt.directory project.dir = .ok place ∧
    tool.host.run ((tool.toolchain options.workspace).build place) unbuilt =
      (.ok completed, built) ∧
    completed.status.isSuccess = true ∧
    unlaunched.disk = built.disk ∧
    (tool.host.start ⟨Path.join place artifactName, [], [],
      some ((Path.parent? (Path.join place artifactName)).getD project.dir)⟩ unlaunched).1 =
        .ok process ∧
    after.disk = (process.worldAt time).disk

/-- A project that is built and run goes through these worlds. -/
theorem Tool.buildAndRun_ok {project : RenderedProject} {written : World}
    {outcome : SupervisorOutcome}
    (hformats : start.disk = (tool.host.run
      ((tool.toolchain options.workspace).format project.sourcePath) written).2.disk)
    (h : (tool.buildAndRun options.workspace project.dir).runOn start = (.ok outcome, after)) :
    ∃ unbuilt built, tool.GoesThrough options project written unbuilt built after ∧
      unbuilt.disk = start.disk := by
  unfold Tool.buildAndRun at h
  obtain ⟨artifact, finished, hbuild, h⟩ := runOn_bind_eq_ok h
  obtain ⟨process, launched, hlaunch, hwatch⟩ := runOn_bind_eq_ok h
  obtain ⟨place, unbuilt, completed, built, hdisk, hplace, rfl, hrun, hsuccess, hfinished⟩ :=
    Tool.build_ok hbuild
  obtain ⟨unlaunched, hunlaunched, hstart⟩ := launch_ok hlaunch
  obtain ⟨time, hleaves⟩ := Tool.superviseProcess_leaves tool.settings.supervisor process [] none
    launched
  rw [hwatch] at hleaves
  have hfiles : unbuilt.files = start.files := congrArg Disk.files hdisk
  have hdirectory : unbuilt.directory = start.directory := congrArg Disk.directory hdisk
  rw [← hfiles, ← hdirectory] at hplace
  exact ⟨unbuilt, built, ⟨hdisk.trans hformats, place, completed, unlaunched, process, time, hplace,
    hrun, hsuccess, hunlaunched.trans hfinished.disk_eq, hstart, hleaves.disk_eq⟩, hdisk⟩

/-! ## The copy of the configuration -/

/-- Altering one entry of a directory spares the others. -/
theorem World.AltersAtMost.holds {dir : Path} {place : Location} {name other : String}
    {content : Bytes} (h : world.AltersAtMost (Path.join dir other) after)
    (hin : world.files.Contains world.directory dir place name) (hother : Path.IsEntry other)
    (hlink : ∀ target, world.files.node? (place ++ [other]) ≠ some (.link target))
    (hne : name ≠ other) (hholds : world.files.Holds (place ++ [name]) content) :
    after.files.Holds (place ++ [name]) content := by
  rcases h.2 (place ++ [name]) with hsame | ⟨found, hlocate⟩
  · unfold FileSystem.Holds
    rw [hsame]
    exact hholds
  · -- the path leads to the other entry
    have hdir : dir ≠ "" := by
      rintro rfl
      cases hin.located
    obtain ⟨place', hcontains⟩ := FileSystem.contains_of_locate hdir hother hlocate
    obtain rfl := hin.place_eq hcontains
    rw [hcontains.locate hlink] at hlocate
    have hentry : place ++ [other] = place ++ [name] := (Prod.mk.inj (Except.ok.inj hlocate)).1
    exact absurd (List.append_cancel_left hentry) (by simpa using Ne.symm hne)

/-- When a creation comes to render, there is no device at the path of the copy. -/
def Tool.SparesDevices (tool : Tool) (configPath : Path) (options : CreateOptions)
    (overrides : Option Arguments) (start : World) : Prop :=
  ∀ prepared world, tool.ComesToRender configPath options overrides start prepared world →
    world.files.stat world.directory (Path.join prepared.dir prepared.data.configFileName) ≠
      .ok .device

/-- What a creation that succeeds has written before it formats the source file. -/
theorem createProject_written
    (hcreated : (tool.createProject configPath options overrides).runOn start =
      (.ok context, after))
    (hlinks : ∀ prepared world,
      tool.ComesToRender configPath options overrides start prepared world →
        world.files.NoLinkIn world.directory prepared.dir) :
    let config := context.pipeline.config
    let project := context.project
    start.files.read start.directory configPath = .ok config.bytes ∧
    config.fileName ≠ entryPoint ∧ Path.IsEntry config.fileName ∧
    project.sourcePath = Path.join project.dir entryPoint ∧
    project.configCopyPath = Path.join project.dir config.fileName ∧
    ∃ place text written,
      written.files.Contains written.directory project.dir place entryPoint ∧
      written.files.Contains written.directory project.dir place config.fileName ∧
      written.files.Absorbs (place ++ [entryPoint]) (Text.Utf8.encode text) ∧
      (tool.SparesDevices configPath options overrides start →
        written.files.Holds (place ++ [config.fileName]) config.bytes) ∧
      written.files.NoLinkIn written.directory project.dir ∧
      after.disk =
        (tool.host.run ((tool.toolchain options.workspace).format project.sourcePath)
          written).2.disk := by
  obtain ⟨gathered, prepared, world, rendered, hgather, hprepare, hcomplete, rfl⟩ :=
    createProject_eq_ok_iff.1 hcreated
  have hgathers := tool.gather_gathers options configPath start
  rw [hgather] at hgathers
  obtain ⟨hvalid, config, uris, hload, -, hpipeline⟩ := hgathers.ok
  obtain ⟨-, -, hname, hread, -⟩ := LoadedConfig.onDisk_eq_ok_iff.1 hload
  obtain ⟨hother, template, defaults, -, rfl⟩ := prepare_ok hprepare
  obtain ⟨hproject, text, files, written, -, hsource, hcopy, hdirectory, hformat⟩ :=
    complete_ok hcomplete
  rcases context with ⟨⟨_, urns, packages⟩, project⟩
  cases hpipeline
  dsimp only at hproject
  subst hproject
  have hcomes : tool.ComesToRender configPath options overrides start _ world :=
    ⟨_, _, hgather, hprepare⟩
  have hnolinks := hlinks _ _ hcomes
  have hentry := Path.fileName?_isEntry hname
  have hdir : dirOf tool.settings.layout options ≠ "" :=
    Path.join_ne_empty (CreateOptions.projectPath_ne_empty hvalid)
  obtain ⟨place, hsourceIn, hcopyIn, habsorbs, -, -, hcopyHolds⟩ :=
    FileSystem.write_entries hdir entryPoint_isEntry hentry (Ne.symm hother) hnolinks hsource hcopy
  have hafter := FileSystem.noLinkIn_written hdir hentry
    (FileSystem.noLinkIn_written hdir entryPoint_isEntry hnolinks hsource) hcopy
  have hheld : tool.SparesDevices configPath options overrides start →
      written.files.Holds (place ++ [config.fileName]) config.bytes := fun hspares => by
    have hdevice := hspares _ _ hcomes
    exact hcopyHolds hdevice
  rw [← hdirectory] at hsourceIn hcopyIn hafter
  exact ⟨hread, hother, hentry, rfl, rfl, place, text, written, hsourceIn, hcopyIn, habsorbs,
    hheld, hafter, hformat.disk_eq⟩

/-- **The copy outlives the run.** In a run that succeeds, in a directory without symbolic links,
    the source file is another file than the copy of the configuration and than the program that is
    built. The copy has the bytes of the configuration unless it goes to a device, and if the
    configuration is not named like that program, it has them to the end, as long as formatting
    changes the source file alone, building changes the built program alone, and the program that is
    run leaves the copy alone. If it is named so, the copy is what building has left of the built
    program. -/
theorem runProject_keeps_copy {outcome : SupervisorOutcome}
    (hran : (tool.runProject configPath options overrides).runOn start =
      (.ok (context, outcome), after))
    (hlinks : ∀ prepared world,
      tool.ComesToRender configPath options overrides start prepared world →
        world.files.NoLinkIn world.directory prepared.dir) :
    let config := context.pipeline.config
    let project := context.project
    let artifactPath := Path.join project.dir artifactName
    start.files.read start.directory configPath = .ok config.bytes ∧
    project.sourcePath ≠ project.configCopyPath ∧ project.sourcePath ≠ artifactPath ∧
    (project.configCopyPath = artifactPath ↔ config.fileName = artifactName) ∧
    ∃ written unbuilt built, tool.GoesThrough options project written unbuilt built after ∧
      unbuilt.disk = ((tool.createProject configPath options overrides).runOn start).2.disk ∧
      (tool.SparesDevices configPath options overrides start →
        written.files.Keeps written.directory project.configCopyPath config.bytes ∧
        (config.fileName ≠ artifactName → written.AltersAtMost project.sourcePath unbuilt →
          unbuilt.AltersAtMost artifactPath built → unbuilt.files.KeepsWays built.files →
          built.LeavesAlone project.configCopyPath after →
          after.files.Keeps after.directory project.configCopyPath config.bytes)) ∧
      (config.fileName = artifactName → built.LeavesAlone project.configCopyPath after →
        after.files.stat after.directory project.configCopyPath =
          built.files.stat built.directory artifactPath) := by
  intro config project artifactPath
  obtain ⟨created, finished, hcreated, hrun, hlogs⟩ := Tool.runProject_ok hran
  obtain ⟨hread, hother, hentry, hsource, hcopy, place, text, written, hsourceIn, hcopyIn,
    habsorbs, hcopyHolds, hnolinks, hformats⟩ := createProject_written hcreated hlinks
  obtain ⟨unbuilt, built, hthrough, hunbuilt⟩ := Tool.buildAndRun_ok hformats hrun
  have hartifact : Path.IsEntry artifactName := ⟨by decide, by decide, by decide⟩
  have hpaths : project.configCopyPath = artifactPath ↔ config.fileName = artifactName :=
    hcopy ▸ Path.join_inj hentry.noSlash hartifact.noSlash
  refine ⟨hread, ?_, ?_, hpaths, written, unbuilt, built, ?_, ?_, fun hspares => ⟨?_, ?_⟩, ?_⟩
  · rw [hsource, hcopy, ne_eq, Path.join_inj entryPoint_isEntry.noSlash hentry.noSlash]
    exact Ne.symm hother
  · rw [hsource, ne_eq, Path.join_inj entryPoint_isEntry.noSlash hartifact.noSlash]
    decide
  · exact { hthrough with runs := by rw [hlogs.disk_eq]; exact hthrough.runs }
  · rw [hcreated, hunbuilt]
  · rw [hcopy]
    exact hcopyIn.keeps (hcopyHolds hspares)
  · intro hne hformatted hbuilt hways halone
    rw [hsource] at hformatted
    have hsourceOnly := hformatted.alters hsourceIn habsorbs
    have hcopyKept := hcopyIn.kept hsourceOnly.keepsWays
    have hcopyHeld := (hcopyHolds hspares).altered hsourceOnly (by simpa using hother)
    have hlink : ∀ target, unbuilt.files.node? (place ++ [artifactName]) ≠ some (.link target) := by
      intro target
      rw [hsourceOnly.others _ (by simp [artifactName, entryPoint])]
      exact hnolinks place artifactName target hcopyIn.located
    rw [← hformatted.1] at hcopyKept
    have hcopyBuilt := (hcopyKept.kept hways).keeps
      (hbuilt.holds hcopyKept hartifact hlink hne hcopyHeld)
    rw [← hbuilt.1, ← hcopy] at hcopyBuilt
    unfold FileSystem.Keeps at hcopyBuilt ⊢
    rwa [halone]
  · intro hname halone
    rw [halone, hpaths.2 hname]

/-- A configuration that is named like the built program is not refused, and its copy would have the
    path of that program. -/
theorem checkFileName_artifactName :
    checkFileName ⟨.empty, "/main", "main", []⟩ = .ok () ∧
      ∀ dir, Path.join dir "main" = Path.join dir artifactName :=
  ⟨rfl, fun _ => rfl⟩

/-- What a command that formats changes is the file at its path alone. -/
theorem Host.Formats.altersAtMost {host : Host} {invocation : Invocation} {path : Path}
    {format : Bytes → Bytes} (h : host.Formats invocation path format)
    (hafter : after.disk = (host.run invocation world).2.disk) :
    world.AltersAtMost path after := by
  have hfiles : after.files = (host.run invocation world).2.files := congrArg Disk.files hafter
  have hdirectory : after.directory = (host.run invocation world).2.directory :=
    congrArg Disk.directory hafter
  refine ⟨hdirectory.trans (h.directory world), fun location => ?_⟩
  rw [hfiles]
  by_cases hfound : ∃ found, world.files.locate true world.directory path = .ok (location, found)
  · exact .inr hfound
  · exact .inl (h.elsewhere world location fun found hlocate => hfound ⟨found, hlocate⟩)

/-- So it is with a write, which keeps the ways too. -/
theorem World.AltersAtMost.of_write {path : Path} {content : Bytes} {files : FileSystem}
    (h : world.files.write world.directory path content = .ok files) :
    world.AltersAtMost path { world with files } ∧ world.files.KeepsWays files := by
  obtain ⟨location, found, hlocate, halters, -⟩ := FileSystem.write_ok h
  refine ⟨⟨rfl, fun other => ?_⟩, halters.keepsWays⟩
  by_cases hother : other = location
  · exact .inr ⟨found, hother ▸ hlocate⟩
  · exact .inl (halters.others other hother)

theorem World.LeavesAlone.of_disk_eq (h : after.disk = world.disk) (path : Path) :
    world.LeavesAlone path after := by
  have hfiles : after.files = world.files := congrArg Disk.files h
  have hdirectory : after.directory = world.directory := congrArg Disk.directory h
  rw [World.LeavesAlone, hfiles, hdirectory]

end Runs

/-! A project that is there is made again, built and run. -/

namespace Revisited

variable {world : World}

/-- The program that is built ends at once. -/
def running : Tool :=
  { tool with host := { tool.host with
      start := fun _ world => (.ok ⟨some 2, [], some (0, .exited 0), fun _ => world⟩, world) } }

theorem createProject_running : running.createProject "/a" (options true) none =
    tool.createProject "/a" (options true) none := rfl

/-- The files with the program that is built. -/
def built : FileSystem := finished.put ["w", "src", "p", "main"] (.file program false)

theorem write_program : finished.write [] "/w/src/p/main" program = .ok built := by
  have hlocate : finished.locate true [] "/w/src/p/main" =
      .ok (["w", "src", "p", "main"], none) := by decide +kernel
  unfold FileSystem.write
  rw [hlocate]
  exact if_neg (by decide +kernel)

theorem run_build {workspace : Path} (hfiles : world.files = finished)
    (hdirectory : world.directory = []) :
    running.host.run ((running.toolchain workspace).build "/w/src/p") world =
      (.ok ⟨.exited 0, [], []⟩, { world with files := built }) := by
  have hrun : running.host.run ((running.toolchain workspace).build "/w/src/p") world =
      build (Path.join "/w/src/p" artifactName) world := rfl
  have hpath : Path.join "/w/src/p" artifactName = "/w/src/p/main" := by decide +kernel
  rw [hrun, build, hfiles, hdirectory, hpath, write_program]

theorem canonical_finished : finished.canonical [] "/w/src/p" = .ok "/w/src/p" := by decide +kernel

/-- The project is built and run. -/
theorem buildAndRun_running (hfiles : world.files = finished) (hdirectory : world.directory = []) :
    ∃ outcome after, (running.buildAndRun "/w" "/w/src/p").runOn world = (.ok outcome, after) := by
  have hcanonical : (Job.canonical "/w/src/p").runOn world =
      (.ok (.ok "/w/src/p"), world.note (.inspect "/w/src/p")) := by
    rw [← canonical_finished, ← hfiles, ← hdirectory]
    rfl
  have hfound : (Job.orIo "/w/src/p" (.ok "/w/src/p" : Except Errno Path)).runOn
      (world.note (.inspect "/w/src/p")) = (.ok "/w/src/p", world.note (.inspect "/w/src/p")) := rfl
  let begun := (world.note (.inspect "/w/src/p")).record .info .building
  have hbegun : (Job.log .info .building).runOn (world.note (.inspect "/w/src/p")) =
      (.ok (), begun) := rfl
  let command := (running.toolchain "/w").build "/w/src/p"
  obtain ⟨logged, hlogged, -, hresult⟩ := Tool.runCommand_run running.host command begun
  have hbuilds : running.host.run command (logged.note (.command command)) =
      (.ok ⟨.exited 0, [], []⟩, { logged.note (.command command) with files := built }) :=
    run_build (hlogged.files_eq.trans hfiles) (hlogged.directory_eq.trans hdirectory)
  rw [hbuilds] at hresult
  obtain ⟨artifact, after, hbuild⟩ : ∃ artifact after,
      (running.build "/w" "/w/src/p").runOn world = (.ok artifact, after) := by
    unfold Tool.build
    rw [runOn_bind_ok hcanonical, runOn_bind_ok hfound, runOn_bind_ok hbegun,
      runOn_bind_ok (Prod.ext hresult rfl)]
    exact ⟨_, _, rfl⟩
  unfold Tool.buildAndRun
  rw [runOn_bind_ok hbuild]
  exact ⟨_, _, rfl⟩

/-- The project is created, built and run. -/
theorem runs : ∃ context outcome after,
    (running.runProject "/a" (options true) none).runOn start = (.ok (context, outcome), after) ∧
    context.project = ⟨"/w/src/p", "/w/src/p/main.go", "/w/src/p/a"⟩ ∧
    ((running.createProject "/a" (options true) none).runOn start).2.disk = ⟨finished, []⟩ := by
  obtain ⟨context, hcontext, hproject, hdisk⟩ := completes
  rw [← createProject_running] at hcontext hdisk
  obtain ⟨created, hcreated⟩ : ∃ created,
      (running.createProject "/a" (options true) none).runOn start = (.ok context, created) :=
    ⟨_, Prod.ext hcontext rfl⟩
  rw [hcreated] at hdisk
  obtain ⟨outcome, ended, hrun⟩ :=
    buildAndRun_running (congrArg Disk.files hdisk) (congrArg Disk.directory hdisk)
  have hdir : context.project.dir = "/w/src/p" := congrArg RenderedProject.dir hproject
  rw [← hdir] at hrun
  refine ⟨context, outcome, ended.record .info .workflow, ?_, hproject, hcreated ▸ hdisk⟩
  unfold Tool.runProject
  rw [runOn_bind_ok hcreated]
  exact runOn_bind_ok (runOn_stage_ok hrun)

theorem noDevices : start.files.NoDevices := FileSystem.noDevices_of_entries (by decide +kernel)

/-- What is rendered was there before, but for directories. -/
theorem gains {prepared : Prepared}
    (h : running.ComesToRender "/a" (options true) none start prepared world) :
    ∃ directory dir, FileSystem.Gains directory dir start.files world.files := by
  obtain ⟨pipeline, gathered, hgathered, hprepare⟩ := h
  have hdisk : gathered.disk = start.disk := by
    have hmoves := running.gather_moves "/a" (options true) start
    rw [hgathered] at hmoves
    exact hmoves.quiet.disk_eq
  have hfiles : gathered.files = start.files := congrArg Disk.files hdisk
  have hrun := prepare_run running.settings.layout (options true) pipeline.packages
    pipeline.config none gathered
  rw [hprepare, hfiles] at hrun
  rcases hrun with ⟨_, herror, -⟩ | ⟨-, hgains, -⟩
  · cases herror
  · exact ⟨_, _, hgains⟩

theorem noLinkIn {prepared : Prepared}
    (h : running.ComesToRender "/a" (options true) none start prepared world) :
    world.files.NoLinkIn world.directory prepared.dir := by
  obtain ⟨_, _, hgains⟩ := gains h
  exact (hgains.noLinks noLinks).noLinkIn

theorem sparesDevices : running.SparesDevices "/a" (options true) none start := by
  intro _ _ h
  obtain ⟨_, _, hgains⟩ := gains h
  exact (hgains.noDevices noDevices).stat

end Revisited

/-- The copy is not named like the program that is built, and outlives the run, in which the source
    file is formatted and the program is built. -/
theorem runProject_keeps_copy_revisited : ∃ context outcome after,
    (Revisited.running.runProject "/a" (Revisited.options true) none).runOn Revisited.start =
      (.ok (context, outcome), after) ∧
    after.disk = ⟨Revisited.built, []⟩ ∧
    after.files.Keeps after.directory "/w/src/p/a" Revisited.nothing := by
  obtain ⟨context, outcome, after, hran, hproject, hcreated⟩ := Revisited.runs
  obtain ⟨hread, -, -, hpaths, written, unbuilt, built, hthrough, hunbuilt, hkeeps, -⟩ :=
    runProject_keeps_copy hran fun _ _ => Revisited.noLinkIn
  have hbytes : Revisited.start.files.read Revisited.start.directory "/a" =
      .ok Revisited.nothing := by decide +kernel
  have hnamed : context.pipeline.config.fileName ≠ artifactName := by
    rw [ne_eq, ← hpaths, hproject]
    decide +kernel
  -- the project is built where its creation has ended
  rw [hcreated] at hunbuilt
  have hfiles : unbuilt.files = Revisited.finished := congrArg Disk.files hunbuilt
  have hdirectory : unbuilt.directory = [] := congrArg Disk.directory hunbuilt
  obtain ⟨hformats, place, completed, unlaunched, process, time, hplace, hbuild, -, hunlaunched,
    hstart, hafter⟩ := hthrough
  rw [hfiles, hdirectory, hproject, Revisited.canonical_finished] at hplace
  cases hplace
  rw [Revisited.run_build hfiles hdirectory] at hbuild
  cases hbuild
  cases hstart
  have hended := hafter.trans hunlaunched
  have hsource : unbuilt.files.write unbuilt.directory
      (Path.join context.project.dir artifactName) Revisited.program = .ok Revisited.built := by
    have hpath : Path.join "/w/src/p" artifactName = "/w/src/p/main" := by decide +kernel
    rw [hfiles, hdirectory, hproject, hpath, Revisited.write_program]
  obtain ⟨hbuilt, hways⟩ := World.AltersAtMost.of_write hsource
  have hformatted : written.AltersAtMost context.project.sourcePath unbuilt :=
    (Revisited.formats (Revisited.tool.toolchain "/w") _).altersAtMost hformats
  have hcopy := (hkeeps Revisited.sparesDevices).2 hnamed hformatted hbuilt hways
    (.of_disk_eq hended _)
  rw [hproject, Except.ok.inj (hread.symm.trans hbytes)] at hcopy
  exact ⟨context, outcome, after, hran, hended.trans (congrArg (Disk.mk _) hdirectory), hcopy⟩

end Pipewright
