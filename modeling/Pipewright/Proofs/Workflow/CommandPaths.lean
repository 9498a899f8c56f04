import Pipewright.Proofs.Workflow.Idempotence
import Pipewright.Proofs.World.Parents
import Pipewright.Proofs.World.Relative

set_option autoImplicit false

/-! # The paths that commands are given

The tool takes a relative path from its own directory, and a command takes it from the directory
that it is started in: that of the tool to get a package, that of the project to format and to
build. `Tool.AsksGo` lists the commands of the go tool that a workflow comes to, each with what is
known of the world that it is run on; a host that runs these, and checks revisions out, in the same
way makes no difference (`createProject_congr`, `runProject_congr`). `commands_see` says which of
the paths that they are given name to the command what they name to the tool. -/

namespace Pipewright

open Pipewright.Action Project

namespace Invocation

variable {invocation : Invocation} {world : World} {path : Path}

/-- The command is started in this directory. -/
def StartsIn (invocation : Invocation) (world : World) (place : Location) : Prop :=
  match invocation.directory with
  | none => place = world.directory
  | some dir => world.files.locate true world.directory dir = .ok (place, some .directory)

/-- A path names to the command what it names to the tool. -/
def Sees (invocation : Invocation) (world : World) (path : Path) : Prop :=
  ∀ place, invocation.StartsIn world place →
    world.files.locate true place path = world.files.locate true world.directory path

theorem sees_of_isAbsolute (h : Path.isAbsolute path = true) : invocation.Sees world path :=
  fun place _ => FileSystem.locate_of_isAbsolute h place world.directory

/-- A command that is started where the tool is sees what the tool sees. -/
theorem sees_of_directory (h : invocation.directory = none) (path : Path) :
    invocation.Sees world path := by
  intro place hstarts
  rw [StartsIn, h] at hstarts
  rw [hstarts]

/-- Where nothing is a link, a relative path is seen just when the command is started in a directory
    that agrees with that of the tool above what the path climbs. -/
theorem sees_iff {location : Location} {found : Option Node} (hlinks : world.files.NoLinks)
    (hpath : Path.isAbsolute path = false)
    (hfound : world.files.locate true world.directory path = .ok (location, found)) :
    invocation.Sees world path ↔ ∀ place, invocation.StartsIn world place →
      FileSystem.AgreeAbove (FileSystem.climbs path) place world.directory ∧
        ∃ result, world.files.locate true place path = .ok result :=
  forall₂_congr fun _ _ => hlinks.locate_eq_iff hpath hfound

/-- A relative path that climbs nothing is seen only from the directory of the tool. -/
theorem sees_iff_of_climbs_eq_zero {location : Location} {found : Option Node}
    (hlinks : world.files.NoLinks) (hpath : Path.isAbsolute path = false)
    (hclimbs : FileSystem.climbs path = 0)
    (hfound : world.files.locate true world.directory path = .ok (location, found)) :
    invocation.Sees world path ↔
      ∀ place, invocation.StartsIn world place → place = world.directory := by
  rw [sees_iff hlinks hpath hfound, hclimbs]
  refine forall₂_congr fun place _ => ?_
  rw [FileSystem.agreeAbove_zero]
  refine and_iff_left_of_imp ?_
  rintro rfl
  exact ⟨_, hfound⟩

end Invocation

/-! ## The commands of a workflow -/

section Commands

variable (tool : Tool) (options : CreateOptions)

/-- The source file of the project that the options ask for. -/
def Tool.sourcePath : Path := Path.join (dirOf tool.settings.layout options) entryPoint

/-- Both files of the project have just been written, the source file with this content. -/
def Tool.HasWritten (content : Bytes) (world : World) : Prop :=
  let dir := dirOf tool.settings.layout options
  ∃ before name more, dir ≠ "" ∧ Path.IsEntry name ∧ name ≠ entryPoint ∧
    FileSystem.writeBoth world.directory (tool.sourcePath options) content (Path.join dir name)
      more before = (.ok (), world.files)

/-- The commands of the go tool that a workflow comes to, each with the world that it is run on. -/
inductive Tool.AsksGo : Invocation → World → Prop
  | get (uri : String) (update : Bool) (world : World) :
      AsksGo ((tool.toolchain options.workspace).get uri update) world
  | format {content : Bytes} {world : World} : tool.HasWritten options content world →
      AsksGo ((tool.toolchain options.workspace).format (tool.sourcePath options)) world
  /-- The directory of the project has been found at this path. -/
  | build {world : World} {place : Path} :
      world.files.canonical world.directory (dirOf tool.settings.layout options) = .ok place →
      AsksGo ((tool.toolchain options.workspace).build place) world

/-- The commands that a workflow comes to. -/
def Tool.Asks (invocation : Invocation) (world : World) : Prop :=
  tool.AsksGo options invocation world ∨ ∃ sourceDir revision,
    invocation = (tool.toolchain options.workspace).checkout sourceDir revision

/-- The tool where commands are run in another way. -/
def Tool.withCommands (run : Invocation → World → Except Errno Completed × World) : Tool :=
  { tool with host := { tool.host with run } }

end Commands

section Agreement

variable {tool : Tool} {options : CreateOptions} {host : Host}
  {run : Invocation → World → Except Errno Completed × World} {invocation : Invocation}

/-- Running a command depends on no more than what the command does to this disk. -/
theorem runOn_runCommand_congr {world : World} (h : ∀ later : World, later.disk = world.disk →
      run invocation later = host.run invocation later) :
    (runCommand { host with run } invocation).runOn world =
      (runCommand host invocation).runOn world := by
  let logged := world.record .debug .toolchain
  have hlogged : (Job.log .debug .toolchain).runOn world = (.ok (), logged) := rfl
  have hnoted : (Job.update (World.note (.command invocation))).runOn logged =
      (.ok (), logged.note (.command invocation)) := rfl
  unfold runCommand
  simp only [runOn_bind_ok hlogged, runOn_bind_ok hnoted, runOn_bind_ok (runOn_get _)]
  rw [h (logged.note (.command invocation)) rfl]

theorem runCommand_congr (h : ∀ world, run invocation world = host.run invocation world) :
    runCommand { host with run } invocation = runCommand host invocation := by
  unfold runCommand
  simp only [h]

/-- The fetcher depends on no more than what getting and checking out do. -/
theorem goFetcher_congr {toolchain : Toolchain}
    (hget : ∀ uri update world,
      run (toolchain.get uri update) world = host.run (toolchain.get uri update) world)
    (hcheckout : ∀ sourceDir revision world, run (toolchain.checkout sourceDir revision) world =
      host.run (toolchain.checkout sourceDir revision) world) :
    goFetcher { host with run } toolchain = goFetcher host toolchain := by
  funext package update
  simp only [goFetcher, runFor, runCommand_congr (hget _ _), runCommand_congr (hcheckout _ _)]

/-- Completing a project comes to one command, when both files have just been written. -/
theorem complete_congr_host {toolchain : Toolchain} {config : LoadedConfig} {prepared : Prepared}
    {world : World}
    (h : ∀ (text : String) (later : World),
      world.files.writeBoth later.directory (Path.join prepared.dir entryPoint)
        (Text.Utf8.encode text) (Path.join prepared.dir config.fileName) config.bytes =
          (.ok (), later.files) →
      run (toolchain.format (Path.join prepared.dir entryPoint)) later =
        host.run (toolchain.format (Path.join prepared.dir entryPoint)) later) :
    (complete { host with run } toolchain config prepared).runOn world =
      (complete host toolchain config prepared).runOn world := by
  cases htext : Template.render prepared.template prepared.data.toJson with
  | error fault =>
    unfold complete
    rw [htext]
  | ok text =>
    rw [complete_eq htext, complete_eq htext]
    refine runOn_bind_congr rfl fun _ written hwritten => ?_
    obtain ⟨after, hrun, hfiles, hdirectory⟩ := runOn_writeBoth world
      (Path.join prepared.dir entryPoint) (Text.Utf8.encode text)
      (Path.join prepared.dir config.fileName) config.bytes
    rcases hboth : world.files.writeBoth world.directory (Path.join prepared.dir entryPoint)
      (Text.Utf8.encode text) (Path.join prepared.dir config.fileName) config.bytes with
      ⟨failed | ⟨⟩, files⟩
    · rw [hwritten, hboth] at hrun
      cases hrun
    rw [hboth] at hfiles
    rw [hwritten] at hrun
    obtain rfl : written = after := (Prod.mk.inj hrun).2
    -- the command is run on the disk that the two writes have left, whatever has been logged since
    refine runOn_bind_congr (runOn_runCommand_congr fun later hlater => h text later ?_)
      fun _ _ _ => rfl
    have hlaterFiles : later.files = written.files := congrArg Disk.files hlater
    have hlaterDirectory : later.directory = written.directory := congrArg Disk.directory hlater
    rw [hlaterDirectory, hdirectory, hboth, hlaterFiles, hfiles]

variable {configPath : Path} {overrides : Option Arguments}

/-- What has been gathered can be written to two files of a directory. -/
theorem gather_entries {pipeline : ResolvedPipeline} {start gathered : World}
    (h : (tool.gather configPath options).runOn start = (.ok pipeline, gathered)) :
    dirOf tool.settings.layout options ≠ "" ∧ Path.IsEntry pipeline.config.fileName := by
  have hgathers := tool.gather_gathers options configPath start
  rw [h] at hgathers
  obtain ⟨hvalid, config, uris, hload, -, rfl⟩ := hgathers.ok
  obtain ⟨-, -, hname, -⟩ := LoadedConfig.onDisk_eq_ok_iff.1 hload
  exact ⟨Path.join_ne_empty (CreateOptions.projectPath_ne_empty hvalid),
    Path.fileName?_isEntry hname⟩

variable (hrun : ∀ invocation world, tool.Asks options invocation world →
  run invocation world = tool.host.run invocation world)

include hrun

theorem gather_congr :
    (tool.withCommands run).gather configPath options = tool.gather configPath options := by
  have hfetch : (tool.withCommands run).fetch options = tool.fetch options := by
    funext packages
    unfold Tool.fetch
    have hfetcher : goFetcher (tool.withCommands run).host
        ((tool.withCommands run).toolchain options.workspace) =
          goFetcher tool.host (tool.toolchain options.workspace) :=
      goFetcher_congr (fun uri update world => hrun _ world (.inl (.get uri update world)))
        fun sourceDir revision world => hrun _ world (.inr ⟨sourceDir, revision, rfl⟩)
    rw [hfetcher]
    rfl
  unfold Tool.gather
  rw [hfetch]
  rfl

/-- Creating a project depends on no more of the host than the commands that it comes to. -/
theorem createProject_congr (start : World) :
    ((tool.withCommands run).createProject configPath options overrides).runOn start =
      (tool.createProject configPath options overrides).runOn start := by
  unfold Tool.createProject
  rw [gather_congr hrun]
  refine runOn_bind_congr rfl fun pipeline gathered hgather =>
    runOn_bind_congr (runOn_stage_congr ?_) fun _ _ _ => rfl
  unfold render
  refine runOn_bind_congr rfl fun prepared made hprepare => ?_
  obtain ⟨hother, template, defaults, -, rfl⟩ := prepare_ok hprepare
  -- the name of the copy is that of an entry, and `prepare` has refused that of the source file
  obtain ⟨hdir, hname⟩ := gather_entries hgather
  exact complete_congr_host fun text later hwritten =>
    hrun _ later (.inl (.format ⟨_, _, _, hdir, hname, hother, hwritten⟩))

theorem build_congr (start : World) :
    ((tool.withCommands run).build options.workspace (dirOf tool.settings.layout options)).runOn
      start =
    (tool.build options.workspace (dirOf tool.settings.layout options)).runOn start := by
  unfold Tool.build
  refine runOn_bind_congr rfl fun found asked hasked =>
    runOn_bind_congr rfl fun place world hplace => runOn_bind_congr rfl fun _ logged hlogged =>
      runOn_bind_congr ?_ fun _ _ _ => rfl
  obtain ⟨rfl, rfl⟩ := orIo_eq_ok hplace
  cases hlogged
  refine runOn_runCommand_congr fun later hlater => hrun _ later (.inl (.build ?_))
  have hfound : start.files.canonical start.directory (dirOf tool.settings.layout options) =
      .ok place := Except.ok.inj (Prod.mk.inj hasked).1
  have hdisk : later.disk = start.disk := by
    rw [hlater, ← (Prod.mk.inj hasked).2]
    rfl
  have hfiles : later.files = start.files := congrArg Disk.files hdisk
  have hdirectory : later.directory = start.directory := congrArg Disk.directory hdisk
  rw [hfiles, hdirectory, hfound]

/-- Running a project depends on no more of the host than the commands that it comes to, and what
    the program of the project does. -/
theorem runProject_congr (start : World) :
    ((tool.withCommands run).runProject configPath options overrides).runOn start =
      (tool.runProject configPath options overrides).runOn start := by
  unfold Tool.runProject
  refine runOn_bind_congr (createProject_congr hrun start) fun context created hcreated =>
    runOn_bind_congr (runOn_stage_congr ?_) fun _ _ _ => rfl
  obtain ⟨gathered, prepared, world, rendered, -, hprepare, hcomplete, -⟩ :=
    createProject_eq_ok_iff.1 hcreated
  obtain ⟨-, template, defaults, -, rfl⟩ := prepare_ok hprepare
  -- what is built is the directory that the source file was formatted in
  have hdir : context.project.dir = dirOf tool.settings.layout options :=
    congrArg RenderedProject.dir (complete_ok hcomplete).1
  rw [hdir]
  unfold Tool.buildAndRun
  exact runOn_bind_congr (build_congr hrun created) fun _ _ _ => rfl

end Agreement

/-! ## What commands see -/

section Seeing

variable {tool : Tool} {options : CreateOptions} {invocation : Invocation} {world : World}

/-- A path that a command is given: the source file, or the workspace in the environment. -/
def Tool.Gives (tool : Tool) (options : CreateOptions) (invocation : Invocation) (path : Path) :
    Prop :=
  path = tool.sourcePath options ∧ path ∈ invocation.arguments ∨
    ("GOPATH", path) ∈ invocation.environment

theorem Toolchain.format_directory (toolchain : Toolchain) (source : Path) :
    (toolchain.format source).directory = Path.parent? source := rfl

/-- Where nothing is a link, the source file is formatted from the directory that it has just been
    written in. -/
theorem format_startsIn {content : Bytes} (hwritten : tool.HasWritten options content world)
    (hlinks : world.files.NoLinks) :
    ∃ place,
      ((tool.toolchain options.workspace).format (tool.sourcePath options)).StartsIn world place ∧
      world.files.locate true world.directory (tool.sourcePath options) =
        .ok (place ++ [entryPoint], world.files.node? (place ++ [entryPoint])) ∧
      world.files.Absorbs (place ++ [entryPoint]) content := by
  obtain ⟨before, name, more, hdir, hname, hother, hwrites⟩ := hwritten
  -- no link was there before, so the copy has not been written through one over the source file
  have hbefore := FileSystem.noLinks_of_writeBoth hwrites hlinks
  obtain ⟨place, hin, -, habsorbs, -⟩ := FileSystem.writeBoth_entries hdir entryPoint_isEntry hname
    (Ne.symm hother) hbefore.noLinkIn hwrites
  obtain ⟨parent, hparent, hplace⟩ := hlinks.locate_parent hin
  refine ⟨place, ?_, hin.locate fun target => hlinks _ target, habsorbs⟩
  rw [Invocation.StartsIn, Toolchain.format_directory, Tool.sourcePath, hparent]
  exact hplace

theorem Tool.AsksGo.environment (h : tool.AsksGo options invocation world) :
    invocation.environment =
      if tool.settings.toolchain.legacyGopath then
        [("GOPATH", options.workspace), ("GO111MODULE", "off")]
      else [] := by
  cases h with
  | get | format | build => rfl

/-- Each path that a command is given is that of the workspace or of the source file. -/
theorem Tool.AsksGo.gives (h : tool.AsksGo options invocation world) {path : Path}
    (hgives : tool.Gives options invocation path) :
    path = options.workspace ∨ path = tool.sourcePath options := by
  rcases hgives with ⟨hsource, -⟩ | hgopath
  · exact .inr hsource
  · rw [h.environment] at hgopath
    split at hgopath
    · exact .inl (by simpa using hgopath)
    · cases hgopath

/-- **What the commands of the go tool see.** A workflow depends on no more of the host than the
    commands that it comes to. In `GOPATH` mode each of those of the go tool is given the workspace,
    and the one that formats is given the source file, which has just been written in the directory
    that the command is started in. A command sees what it is given if the path is absolute, or if
    the command is started where the tool is. A relative path that leads anywhere, where nothing is
    a link, is seen only from directories that agree with that of the tool above what it climbs. -/
theorem commands_see (tool : Tool) (configPath : Path) (options : CreateOptions)
    (overrides : Option Arguments) :
    (∀ run, (∀ invocation world, tool.Asks options invocation world →
        run invocation world = tool.host.run invocation world) → ∀ start,
      ((tool.withCommands run).createProject configPath options overrides).runOn start =
          (tool.createProject configPath options overrides).runOn start ∧
        ((tool.withCommands run).runProject configPath options overrides).runOn start =
          (tool.runProject configPath options overrides).runOn start) ∧
    (∀ content world, tool.HasWritten options content world → world.files.NoLinks → ∃ place,
      ((tool.toolchain options.workspace).format (tool.sourcePath options)).StartsIn world place ∧
      world.files.locate true world.directory (tool.sourcePath options) =
        .ok (place ++ [entryPoint], world.files.node? (place ++ [entryPoint])) ∧
      world.files.Absorbs (place ++ [entryPoint]) content) ∧
    tool.Gives options ((tool.toolchain options.workspace).format (tool.sourcePath options))
      (tool.sourcePath options) ∧
    Path.isAbsolute (tool.sourcePath options) = (Path.isAbsolute options.workspace ||
      Path.isAbsolute tool.settings.layout.sourceDir || Path.isAbsolute options.projectPath) ∧
    ∀ invocation world, tool.AsksGo options invocation world →
      (tool.settings.toolchain.legacyGopath = true →
        tool.Gives options invocation options.workspace) ∧
      ∀ path, tool.Gives options invocation path →
        (path = options.workspace ∨ path = tool.sourcePath options) ∧
        (Path.isAbsolute path = true ∨ invocation.directory = none →
          invocation.Sees world path) ∧
        (Path.isAbsolute path = false → world.files.NoLinks → ∀ location found,
          world.files.locate true world.directory path = .ok (location, found) →
          (invocation.Sees world path ↔ ∀ place, invocation.StartsIn world place →
            FileSystem.AgreeAbove (FileSystem.climbs path) place world.directory ∧
              ∃ result, world.files.locate true place path = .ok result)) := by
  refine ⟨fun run hrun start => ⟨createProject_congr hrun start, runProject_congr hrun start⟩,
    fun _ _ => format_startsIn, .inl ⟨rfl, ?_⟩, ?_, fun invocation world hasks => ⟨?_, ?_⟩⟩
  · exact List.mem_cons_of_mem _ List.mem_cons_self
  · have hentry : Path.isAbsolute entryPoint = false := by decide +kernel
    rw [Tool.sourcePath, Path.isAbsolute_join, hentry, dirOf, CreateOptions.projectDir,
      Path.isAbsolute_join, LayoutSettings.sourceRoot, Path.isAbsolute_join, Bool.or_false]
  · intro hlegacy
    rw [Tool.Gives, hasks.environment, if_pos hlegacy]
    exact .inr List.mem_cons_self
  · intro path hgives
    refine ⟨hasks.gives hgives, ?_, fun hrelative hlinks location found hfound =>
      Invocation.sees_iff hlinks hrelative hfound⟩
    rintro (habsolute | hdirectory)
    · exact Invocation.sees_of_isAbsolute habsolute
    · exact Invocation.sees_of_directory hdirectory path

end Seeing

/-! A project that is made in a workspace that is named from the directory above it. -/

namespace Revisited

/-- The options with relative paths. -/
def relative : CreateOptions := { options true with workspace := "w", sources := ["m"] }

/-- The project has just been written. -/
def unformatted : World := { start with files := written }

theorem dirOf_relative : dirOf tool.settings.layout relative = "w/src/p" := by decide +kernel

theorem sourcePath_relative : tool.sourcePath relative = "w/src/p/main.go" := by
  rw [Tool.sourcePath, dirOf_relative]
  decide +kernel

/-- The relative paths, with the names by which they are followed. -/
def routes : List (Path × List String) := [
  ("w", ["w"]), ("w/src/p", ["w", "src", "p"]), ("w/src/p/a", ["w", "src", "p", "a"]),
  ("w/src/p/main.go", ["w", "src", "p", "main.go"])]

theorem locate_routes {route : Path × List String} (hroute : route ∈ routes) (files : FileSystem)
    (place : Location) : files.locate true place route.1 =
      FileSystem.walk files true FileSystem.linkLimit place route.2 := by
  have hroutes : ∀ route ∈ routes, Path.isAbsolute route.1 = false ∧ route.1 ≠ "" ∧
      ¬ FileSystem.pathLimit < route.1.utf8ByteSize ∧ FileSystem.pieces route.1 = route.2 := by
    decide +kernel
  obtain ⟨hpath, hsome, hshort, hpieces⟩ := hroutes route hroute
  rw [FileSystem.locate_relative hpath hsome hshort, hpieces]

theorem locate_written {route : Path × List String} (hroute : route ∈ routes) :
    written.locate true [] route.1 = .ok (route.2, written.node? route.2) := by
  rw [locate_routes hroute]
  simp only [routes, List.mem_cons, List.not_mem_nil, or_false] at hroute
  rcases hroute with rfl | rfl | rfl | rfl <;> decide +kernel

theorem hasWritten_relative :
    tool.HasWritten relative (Text.Utf8.encode text) unformatted := by
  have hcopy : Path.join "w/src/p" "a" = "w/src/p/a" := by decide +kernel
  have hwrites : FileSystem.writeBoth [] "w/src/p/main.go" (Text.Utf8.encode text) "w/src/p/a"
      nothing start.files = (.ok (), written) := by
    have hslash : ¬ Path.endsWithSlash "w/src/p/main.go" ∧ ¬ Path.endsWithSlash "w/src/p/a" := by
      decide +kernel
    refine writeBoth_start ?_ ?_ hslash
    · rw [locate_routes (by decide : ("w/src/p/main.go", ["w", "src", "p", "main.go"]) ∈ routes)]
      decide +kernel
    · rw [locate_routes (by decide : ("w/src/p/a", ["w", "src", "p", "a"]) ∈ routes)]
      decide +kernel
  have hdir : "w/src/p" ≠ "" := by decide
  have hentry : Path.IsEntry "a" := ⟨by decide, by decide, by decide⟩
  have hother : "a" ≠ entryPoint := by decide
  rw [← hcopy] at hwrites
  unfold Tool.HasWritten
  rw [sourcePath_relative, dirOf_relative]
  exact ⟨start.files, "a", _, hdir, hentry, hother, hwrites⟩

theorem canonical_relative : written.canonical [] "w/src/p" = .ok "/w/src/p" := by
  unfold FileSystem.canonical
  rw [locate_written (by decide : ("w/src/p", ["w", "src", "p"]) ∈ routes)]
  decide +kernel

/-- From another directory none of the relative paths is seen. -/
theorem not_sees {invocation : Invocation} {place : Location} {route : Path × List String}
    (hroute : route ∈ routes) (hstarts : invocation.StartsIn unformatted place)
    (hplace : place ≠ []) : ¬ invocation.Sees unformatted route.1 := by
  have hroutes : ∀ route ∈ routes,
      Path.isAbsolute route.1 = false ∧ FileSystem.climbs route.1 = 0 := by decide +kernel
  obtain ⟨hpath, hclimbs⟩ := hroutes route hroute
  have hlinks : unformatted.files.NoLinks := FileSystem.noLinks_of_entries (by decide +kernel)
  rw [Invocation.sees_iff_of_climbs_eq_zero hlinks hpath hclimbs (locate_written hroute)]
  exact fun hsame => hplace (hsame place hstarts)

end Revisited

/-- For a project in a workspace `w` that is named from the directory above it, the commands that
    format and build are started in the directory of the project. From there neither the source file
    nor the workspace is found. -/
theorem commands_miss :
    let format := (Revisited.tool.toolchain "w").format "w/src/p/main.go"
    let build := (Revisited.tool.toolchain "w").build "/w/src/p"
    Revisited.tool.AsksGo Revisited.relative format Revisited.unformatted ∧
    Revisited.tool.AsksGo Revisited.relative build Revisited.unformatted ∧
    ¬ format.Sees Revisited.unformatted "w/src/p/main.go" ∧
    ¬ format.Sees Revisited.unformatted "w" ∧ ¬ build.Sees Revisited.unformatted "w" := by
  intro format build
  have hformat : format.StartsIn Revisited.unformatted ["w", "src", "p"] := by
    have hdirectory : format.directory = some "w/src/p" := by decide +kernel
    rw [Invocation.StartsIn, hdirectory]
    exact Revisited.locate_written (by decide : ("w/src/p", ["w", "src", "p"]) ∈ Revisited.routes)
  have hbuild : build.StartsIn Revisited.unformatted ["w", "src", "p"] := by
    have hplace : Revisited.written.locate true [] "/w/src/p" =
        .ok (["w", "src", "p"], some .directory) := by decide +kernel
    exact hplace
  have hsource : ("w/src/p/main.go", ["w", "src", "p", "main.go"]) ∈ Revisited.routes := by decide
  have hworkspace : ("w", ["w"]) ∈ Revisited.routes := by decide
  refine ⟨?_, ?_, Revisited.not_sees hsource hformat (by decide),
    Revisited.not_sees hworkspace hformat (by decide),
    Revisited.not_sees hworkspace hbuild (by decide)⟩
  · have hasks := Tool.AsksGo.format Revisited.hasWritten_relative
    rw [Revisited.sourcePath_relative] at hasks
    exact hasks
  · refine .build ?_
    rw [Revisited.dirOf_relative]
    exact Revisited.canonical_relative

end Pipewright
