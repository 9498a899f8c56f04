import Pipewright.Proofs.Json.Reading
import Pipewright.Proofs.Project.Data
import Pipewright.Proofs.World.Entries
import Pipewright.Proofs.Workflow.Creation
import Pipewright.Proofs.Workflow.Stages

set_option autoImplicit false

/-! # Created projects

**A created project agrees with what it was made from.** `Tool.Agrees` says of a project that the
copy of its configuration has the bytes of the file as it was loaded, that these bytes say what the
returned configuration is, that the packages are those that the documents bind its URNs to, each
with the revision of its pin, and that the source file is the template with data that list just
these packages.
Every creation that succeeds makes such a project (`createProject_agrees`), whatever the fetcher
does to the files in between. -/

namespace Pipewright

open Pipewright.Action Project

/-! ## Completing -/

theorem orIo_eq_ok {α : Type} {path : Path} {result : Except Errno α} {world after : World} {a : α}
    (h : (Job.orIo path result).runOn world = (.ok a, after)) : result = .ok a ∧ after = world := by
  cases result with
  | ok b =>
    cases h
    exact ⟨rfl, rfl⟩
  | error e => cases h

/-- A write that goes well changes the files and nothing else but the journal. -/
theorem writeFile_ok {path : Path} {content : Bytes} {result : Except Errno Unit}
    {world middle after : World}
    (h : (Job.writeFile path content).runOn world = (.ok result, middle))
    (hok : (Job.orIo path result).runOn middle = (.ok (), after)) :
    world.files.write world.directory path content = .ok after.files ∧
      after.directory = world.directory := by
  obtain ⟨rfl, rfl⟩ := orIo_eq_ok hok
  rw [runOn_writeFile] at h
  cases hwrite : world.files.write world.directory path content with
  | ok files =>
    rw [hwrite] at h
    cases h
    exact ⟨rfl, rfl⟩
  | error e =>
    rw [hwrite] at h
    cases h

/-- A project that is completed has its source file and its copy written, and then the source file
    formatted. -/
theorem complete_ok {host : Host} {toolchain : Toolchain} {config : LoadedConfig}
    {prepared : Prepared} {project : RenderedProject} {world after : World}
    (h : (complete host toolchain config prepared).runOn world = (.ok project, after)) :
    project = ⟨prepared.dir, Path.join prepared.dir entryPoint,
      Path.join prepared.dir config.fileName⟩ ∧
    ∃ text files written,
      Template.render prepared.template prepared.data.toJson = .ok text ∧
      world.files.write world.directory project.sourcePath (Text.Utf8.encode text) = .ok files ∧
      files.write world.directory project.configCopyPath config.bytes = .ok written.files ∧
      written.directory = world.directory ∧
      (host.run (toolchain.format project.sourcePath) written).2.Logs after := by
  unfold complete at h
  cases htext : Template.render prepared.template prepared.data.toJson with
  | error fault =>
    rw [htext] at h
    cases h
  | ok text =>
    rw [htext] at h
    obtain ⟨first, world₁, hwrite, h⟩ := runOn_bind_eq_ok h
    obtain ⟨⟨⟩, world₂, hok, h⟩ := runOn_bind_eq_ok h
    obtain ⟨hsource, hdirectory⟩ := writeFile_ok hwrite hok
    obtain ⟨second, world₃, hwrite, h⟩ := runOn_bind_eq_ok h
    obtain ⟨⟨⟩, world₄, hok, h⟩ := runOn_bind_eq_ok h
    obtain ⟨hcopy, hdirectory'⟩ := writeFile_ok hwrite hok
    rw [hdirectory] at hcopy hdirectory'
    obtain ⟨result, formatted, hcommand, h⟩ := runOn_bind_eq_ok h
    obtain ⟨logged, hlogged, hformat, -⟩ :=
      Tool.runCommand_run host (toolchain.format (Path.join prepared.dir entryPoint)) world₄
    rw [hcommand] at hformat
    have hrest : project = ⟨prepared.dir, Path.join prepared.dir entryPoint,
        Path.join prepared.dir config.fileName⟩ ∧ formatted.Logs after := by
      cases result with
      | ok output =>
        cases h
        exact ⟨rfl, (World.Logs.refl formatted).record _ _⟩
      | error failure =>
        cases h
        exact ⟨rfl, ((World.Logs.refl formatted).record _ _).record _ _⟩
    obtain ⟨rfl, hlogs⟩ := hrest
    rw [← hlogged.files_eq] at hcopy
    exact ⟨rfl, text, world₂.files, logged.note (.command _), rfl, hsource, hcopy,
      hlogged.directory_eq.trans hdirectory', hformat.trans hlogs⟩

/-- A project whose template can be rendered and whose files can be written is completed. -/
theorem complete_writes (host : Host) (toolchain : Toolchain) {config : LoadedConfig}
    {prepared : Prepared} {text : String} {files more : FileSystem} {world : World}
    (htext : Template.render prepared.template prepared.data.toJson = .ok text)
    (hsource : world.files.write world.directory (Path.join prepared.dir entryPoint)
      (Text.Utf8.encode text) = .ok files)
    (hcopy : files.write world.directory (Path.join prepared.dir config.fileName) config.bytes =
      .ok more) :
    ∃ project after,
      (complete host toolchain config prepared).runOn world = (.ok project, after) := by
  let source := Path.join prepared.dir entryPoint
  let copy := Path.join prepared.dir config.fileName
  let written := { world.note (.write source (Text.Utf8.encode text)) with files }
  let copied := { written.note (.write copy config.bytes) with files := more }
  have hwritten : (Job.writeFile source (Text.Utf8.encode text)).runOn world =
      (.ok (.ok ()), written) := by
    rw [runOn_writeFile, hsource]
  have hcopied : (Job.writeFile copy config.bytes).runOn written = (.ok (.ok ()), copied) := by
    have hafter : written.files.write written.directory copy config.bytes = .ok more := hcopy
    rw [runOn_writeFile, hafter]
  have hwell : ∀ path world, (Job.orIo path (.ok ())).runOn world = (.ok (), world) :=
    fun _ _ => rfl
  obtain ⟨result, hresult⟩ : ∃ result,
      ((runCommand host (toolchain.format source)).runOn copied).1 = .ok result := by
    obtain ⟨logged, -, -, hresult⟩ := Tool.runCommand_run host (toolchain.format source) copied
    exact ⟨_, hresult⟩
  unfold complete
  rw [htext]
  dsimp only
  rw [runOn_bind_ok hwritten, runOn_bind_ok (hwell _ _), runOn_bind_ok hcopied,
    runOn_bind_ok (hwell _ _), runOn_bind_ok (Prod.ext hresult rfl)]
  cases result with
  | ok output => exact ⟨_, _, rfl⟩
  | error failure => exact ⟨_, _, rfl⟩

/-! ## Agreement -/

/-- Nothing but what the path names has changed. -/
def World.AltersAtMost (path : Path) (world after : World) : Prop :=
  after.directory = world.directory ∧ ∀ location,
    after.files.node? location = world.files.node? location ∨
      ∃ found, world.files.locate true world.directory path = .ok (location, found)

/-- If it is an entry of a directory that is named, no other location has changed. -/
theorem World.AltersAtMost.alters {world after : World} {dir : Path} {place : Location}
    {name : String} {content : Bytes} (h : world.AltersAtMost (Path.join dir name) after)
    (hcontains : world.files.Contains world.directory dir place name)
    (habsorbs : world.files.Absorbs (place ++ [name]) content) :
    FileSystem.Alters (place ++ [name]) world.files after.files := by
  refine ⟨fun other hother => ?_, habsorbs.noWay⟩
  rcases h.2 other with hsame | ⟨found, hlocate⟩
  · exact hsame
  · rw [hcontains.locate habsorbs.not_link] at hlocate
    cases hlocate
    exact absurd rfl hother

/-- The packages are those that the bindings give to the URNs, each of them once. -/
def Implement (bindings : List Binding) (urns : List String) (packages : List Package) : Prop :=
  (packages.map Package.uri).Nodup ∧
    (∀ urn ∈ urns, ∃! package, package ∈ packages ∧ Binds bindings urn package.uri) ∧
    ∀ package ∈ packages, ∃ urn ∈ urns, Binds bindings urn package.uri

/-- The files of a project are made of its template, of these packages and of its configuration:
    before it is formatted, the source file has what the template gives for data that list the
    packages, and afterwards the copy has the bytes of the configuration, if formatting keeps to the
    source file. -/
def Tool.Writes (tool : Tool) (options : CreateOptions) (overrides : Option Arguments)
    (start : World) (context : ProjectContext) (after : World) : Prop :=
  let config := context.pipeline.config
  let packages := context.pipeline.packages
  let project := context.project
  ∃ fetched template createTime defaults text written,
    let data : ProjectData :=
      { options, packages, configPath := config.path, configFileName := config.fileName
        createTime, arguments := mergeArguments defaults overrides }
    Fetched (tool.activeFetcher options) start fetched ∧
    templateOn fetched.disk (tool.settings.layout.templatePaths options).template = .ok template ∧
    data.toJson.ListsPackages packages ∧
    Template.render template data.toJson = .ok text ∧
    written.files.Keeps written.directory project.sourcePath (Text.Utf8.encode text) ∧
    (tool.host.run ((tool.toolchain options.workspace).format project.sourcePath) written).2.Logs
      after ∧
    (written.AltersAtMost project.sourcePath after →
      after.files.Keeps after.directory project.configCopyPath config.bytes)

/-- The project that a creation has made agrees with what it was made from: the bytes of the
    configuration are those of its file at the start, its URNs and its packages are those that
    these bytes and the documents name, and its files are made of both. -/
structure Tool.Agrees (tool : Tool) (configPath : Path) (options : CreateOptions)
    (overrides : Option Arguments) (start : World) (context : ProjectContext) (after : World) :
    Prop where
  read : start.files.read start.directory configPath = .ok context.pipeline.config.bytes
  parsed : Json.ofBytes? PipelineConfig.decode context.pipeline.config.bytes =
    .ok context.pipeline.config.config
  urns : context.pipeline.urns = context.pipeline.config.config.urns
  packages : ∃ bindings, Resolvable start options.sources context.pipeline.urns bindings ∧
    Implement bindings context.pipeline.urns context.pipeline.packages
  revisions : ∀ package ∈ context.pipeline.packages,
    package.revision = (Dictionary.get? package.uri options.pins).getD ""
  files : tool.Writes options overrides start context after

/-- Pinned packages of import paths that ascend implement the URNs that are bound to these. -/
theorem implement_of_binds {bindings : List Binding} {urns uris : List String}
    {options : CreateOptions} {sourceRoot : Path} (hcons : Consistent bindings)
    (hbound : ∀ urn ∈ urns, ∃ pkg, Binds bindings urn pkg) (hascend : BytesAscend uris)
    (hmem : ∀ uri, uri ∈ uris ↔ ∃ urn ∈ urns, Binds bindings urn uri) :
    Implement bindings urns (uris.map fun uri => Tool.pin options ⟨uri, "", sourceRoot⟩) := by
  refine ⟨?_, fun urn hurn => ?_, ?_⟩
  · have huris : (uris.map fun uri => Tool.pin options ⟨uri, "", sourceRoot⟩).map Package.uri =
        uris := by
      rw [List.map_map]
      exact List.map_id uris
    rw [huris]
    exact hascend.nodup
  · obtain ⟨pkg, hpkg⟩ := hbound urn hurn
    refine ⟨Tool.pin options ⟨pkg, "", sourceRoot⟩, ⟨?_, hpkg⟩, ?_⟩
    · exact List.mem_map_of_mem ((hmem pkg).2 ⟨urn, hurn, hpkg⟩)
    · rintro package ⟨hpackage, hbinds⟩
      obtain ⟨uri, -, rfl⟩ := List.mem_map.1 hpackage
      have huri : uri = pkg := consistent_iff_binds.1 hcons urn uri pkg hbinds hpkg
      rw [huri]
  · intro package hpackage
    obtain ⟨uri, huri, rfl⟩ := List.mem_map.1 hpackage
    exact (hmem uri).1 huri

theorem entryPoint_isEntry : Path.IsEntry entryPoint := ⟨by decide, by decide, by decide⟩

/-- What options that are not refused have. -/
theorem CreateOptions.validate_eq_ok_iff {options : CreateOptions} :
    options.validate = .ok () ↔
      options.workspace ≠ "" ∧ options.sources ≠ [] ∧
      templateNameFault? options.templateName = none ∧ options.projectPath ≠ "" ∧
      brokenPin? options.pins = none := by
  have hthrow : ∀ {failure : Failure} (next : Unit → Except Failure Unit),
      (throw failure >>= next) ≠ .ok () := nofun
  unfold validate
  by_cases hworkspace : options.workspace = ""
  · simp [hworkspace, hthrow]
  by_cases hsources : options.sources = []
  · simp [hworkspace, hsources, hthrow]
  cases hname : templateNameFault? options.templateName with
  | some fault => simp [hworkspace, hsources, hthrow]
  | none =>
    by_cases hpath : options.projectPath = ""
    · simp [hworkspace, hsources, hpath, hthrow]
    cases hpins : brokenPin? options.pins with
    | some package => simp [hworkspace, hsources, hpath]
    | none => simp [hworkspace, hsources, hpath]; rfl

/-- Options that are not refused name a directory for the project. -/
theorem CreateOptions.projectPath_ne_empty {options : CreateOptions}
    (h : options.validate = .ok ()) : options.projectPath ≠ "" :=
  (validate_eq_ok_iff.1 h).2.2.2.1

/-- **Agreement.** A project that is created agrees with what it was made from, whatever the fetcher
    does to the files in between, if no symbolic link lies in its directory and its files are not
    written to devices. -/
theorem createProject_agrees {tool : Tool} {configPath : Path} {options : CreateOptions}
    {overrides : Option Arguments} {start after : World} {context : ProjectContext}
    (hcreated : (tool.createProject configPath options overrides).runOn start =
      (.ok context, after))
    (hlinks : ∀ prepared world,
      tool.ComesToRender configPath options overrides start prepared world →
        world.files.NoLinkIn world.directory prepared.dir)
    (hdevices : ∀ prepared world,
      tool.ComesToRender configPath options overrides start prepared world →
        ∀ name ∈ [entryPoint, prepared.data.configFileName],
          world.files.stat world.directory (Path.join prepared.dir name) ≠ .ok .device) :
    tool.Agrees configPath options overrides start context after := by
  obtain ⟨gathered, prepared, world, rendered, hgather, hprepare, hcomplete, rfl⟩ :=
    createProject_eq_ok_iff.1 hcreated
  have hgathers := tool.gather_gathers options configPath start
  have hfetched := tool.gather_moves configPath options start
  rw [hgather] at hgathers hfetched
  obtain ⟨hvalid, config, uris, hload, ⟨bindings, hresolvable, hascend, hmem⟩, hpipeline⟩ :=
    hgathers.ok
  obtain ⟨-, -, hname, hread, hparsed⟩ := LoadedConfig.onDisk_eq_ok_iff.1 hload
  obtain ⟨hother, template, defaults, htemplate, rfl⟩ := prepare_ok hprepare
  obtain ⟨hproject, text, files, written, htext, hsource, hcopy, hdirectory, hformat⟩ :=
    complete_ok hcomplete
  rcases context with ⟨⟨_, urns, packages⟩, project⟩
  cases hpipeline
  dsimp only at hproject
  subst hproject
  have hcomes : tool.ComesToRender configPath options overrides start _ world :=
    ⟨_, _, hgather, hprepare⟩
  have hdir : dirOf tool.settings.layout options ≠ "" :=
    Path.join_ne_empty (CreateOptions.projectPath_ne_empty hvalid)
  -- both files lie in one directory under different names, so neither write undoes the other
  obtain ⟨place, hsourceIn, hcopyIn, habsorbs, -, hsourceHolds, hcopyHolds⟩ :=
    FileSystem.write_entries hdir entryPoint_isEntry (Path.fileName?_isEntry hname)
      (Ne.symm hother) (hlinks _ _ hcomes) hsource hcopy
  replace hsourceHolds := hsourceHolds (hdevices _ _ hcomes _ (by simp))
  replace hcopyHolds := hcopyHolds (hdevices _ _ hcomes _ (by simp))
  rw [← hdirectory] at hsourceIn hcopyIn
  refine ⟨hread, hparsed, rfl, ⟨bindings, hresolvable, ?_⟩, ?_, ?_⟩
  · exact implement_of_binds hresolvable.2.2.1 hresolvable.2.2.2 hascend hmem
  · intro package hpackage
    obtain ⟨uri, -, rfl⟩ := List.mem_map.1 hpackage
    rfl
  · refine ⟨gathered, template, _, defaults, text, written, hfetched, htemplate,
      ProjectData.listsPackages _, htext, hsourceIn.keeps hsourceHolds, ?_, fun halters => ?_⟩
    · exact hformat.trans ((World.Logs.refl rendered).record .info .workflow)
    · -- what formatting may change is no way to the copy
      have hsourceOnly := halters.alters hsourceIn habsorbs
      have hkept : rendered.files.Keeps written.directory _ config.bytes :=
        (hcopyIn.kept hsourceOnly.keepsWays).keeps
          (hcopyHolds.altered hsourceOnly (by simpa using hother))
      rw [← halters.1] at hkept
      exact hkept

/-! A fetcher that takes the configuration away does not take it from the project. -/

namespace Forgetful

def actors : Bytes :=
  Text.Utf8.encode "\x7b\"inboxes\":[\x7b\"name\":\"in\",\"urn\":\"urn:a\"\x7d]\x7d"

def mapping : Bytes :=
  Text.Utf8.encode "\x7b\"packages\":[\x7b\"urn\":\"urn:a\",\"pkg\":\"x\"\x7d]\x7d"

def start : World :=
  World.fresh [
    (["a"], .file actors false), (["m"], .file mapping false),
    (["w"], .directory), (["w", "src"], .directory), (["w", "src", "tpl"], .directory),
    (["w", "src", "tpl", "t"], .directory),
    (["w", "src", "tpl", "t", "main.go"], .file (Text.Utf8.encode "main") false)]

def options : CreateOptions := ⟨"/w", ["/m"], "t", "p", false, true, false, [("x", "v1")]⟩

def tool : Tool :=
  { settings := { ToolSettings.default with layout := ⟨"src", "tpl"⟩ }
    host :=
      { run := fun _ world => (.ok ⟨.exited 0, [], []⟩, world)
        start := fun _ world => (.error .absent, world) }
    fetcher := some fun _ _ => Job.update fun world =>
      { world with files := world.files.remove world.directory "/a" } }

/-- The files without the configuration. -/
def left : FileSystem := start.files.remove [] "/a"

theorem decodes : ∃ config,
    Json.ofBytes? PipelineConfig.decode actors = .ok config ∧ config.urns = ["urn:a"] :=
  Except.exists_eq_ok_of_toOption_map (by decide +kernel)

theorem gathers : ∃ config journal log,
    (tool.gather "/a" options).runOn start =
      (.ok ⟨⟨config, "/a", "a", actors⟩, ["urn:a"], [⟨"x", "v1", "/w/src"⟩]⟩,
        { start with files := left, journal, log }) := by
  obtain ⟨config, hdecode, hurns⟩ := decodes
  have hname : Path.fileName? "/a" = some "a" := by decide +kernel
  have hread : start.files.read [] "/a" = .ok actors := by decide +kernel
  have hload : LoadedConfig.onDisk start.disk "/a" = .ok ⟨config, "/a", "a", actors⟩ :=
    LoadedConfig.onDisk_eq_ok_iff.2
      ⟨⟨actors, false, by decide +kernel⟩, rfl, hname, hread, hdecode⟩
  have hroot : tool.settings.layout.sourceRoot options.workspace = "/w/src" := by decide +kernel
  have hpackages : ((resolve MappingDocument.load
      (tool.settings.layout.sourceRoot options.workspace) options.sources config.urns).runOn
        start).1 = .ok [⟨"x", "", "/w/src"⟩] := by
    rw [hroot, hurns]
    decide +kernel
  obtain ⟨resolved, hresolved, hquiet⟩ := tool.runOn_resolve_ok hload hpackages
  rw [hurns] at hresolved
  have hvalid : (stage (ExceptT.mk (pure options.validate)) : Job Unit).runOn start =
      (.ok (), start) := rfl
  refine ⟨config, .fetch "x" "v1" false :: resolved.journal,
    ⟨.info, .fetching⟩ :: resolved.log, ?_⟩
  unfold Tool.gather
  rw [runOn_bind_ok hvalid, runOn_bind_ok hresolved, hquiet]
  rfl

/-- The text of a template without tags. -/
def plainText? : List Template.Element → Option String
  | [.text text] => some text
  | _ => none

theorem eq_of_plainText? {template : List Template.Element} {text : String}
    (h : plainText? template = some text) : template = [.text text] := by
  unfold plainText? at h
  split at h <;> cases h
  rfl

theorem templates : templateOn ⟨left, []⟩ "/w/src/tpl/t/main.go" = .ok [.text "main"] := by
  obtain ⟨template, htemplate, htext⟩ : ∃ template,
      templateOn ⟨left, []⟩ "/w/src/tpl/t/main.go" = .ok template ∧
        plainText? template = some "main" :=
    Except.exists_eq_ok_of_toOption_map (by decide +kernel)
  rw [htemplate, eq_of_plainText? htext]

/-- The files with the directory of the project. -/
def made : FileSystem := left.put ["w", "src", "p"] .directory

/-- The files with the source file too. -/
def sourced : FileSystem :=
  made.put ["w", "src", "p", "main.go"] (.file (Text.Utf8.encode "main") false)

theorem prepares (config : PipelineConfig) (journal : List Effect) (log : List LogRecord) :
    ∃ prepared world,
      (prepare tool.settings.layout options [⟨"x", "v1", "/w/src"⟩] ⟨config, "/a", "a", actors⟩
        none).runOn { start with files := left, journal, log } = (.ok prepared, world) ∧
      prepared.dir = "/w/src/p" ∧ prepared.template = [.text "main"] ∧
      world.files = made ∧ world.directory = [] := by
  have hpaths : tool.settings.layout.templatePaths options =
      ⟨"/w/src/tpl/t/main.go", "/w/src/tpl/t/args.json"⟩ := by decide +kernel
  have hdir : dirOf tool.settings.layout options = "/w/src/p" := by decide +kernel
  have hname : "a" ≠ entryPoint := by decide
  have hdefaults : left.read [] "/w/src/tpl/t/args.json" = .error .absent := by decide +kernel
  have hnew : left.exists? [] "/w/src/p" = .ok false := by decide +kernel
  have hmake : left.makeDirectories [] "/w/src/p" = (.ok (), made) := by decide +kernel
  have hprepare := @prepare_new tool.settings.layout options [⟨"x", "v1", "/w/src"⟩]
    ⟨config, "/a", "a", actors⟩ none { start with files := left, journal, log } [.text "main"] hname
  rw [hpaths, hdir] at hprepare
  exact hprepare templates hdefaults hnew hmake

theorem completes (config : PipelineConfig) {prepared : Prepared} {world : World}
    (hdir : prepared.dir = "/w/src/p") (htemplate : prepared.template = [.text "main"])
    (hfiles : world.files = made) (hdirectory : world.directory = []) :
    ∃ project after,
      (complete tool.host (tool.toolchain options.workspace) ⟨config, "/a", "a", actors⟩
        prepared).runOn world = (.ok project, after) := by
  have hsource : made.write [] "/w/src/p/main.go" (Text.Utf8.encode "main") = .ok sourced := by
    have hlocate : made.locate true [] "/w/src/p/main.go" =
        .ok (["w", "src", "p", "main.go"], none) := by decide +kernel
    unfold FileSystem.write
    rw [hlocate]
    exact if_neg (by decide +kernel)
  have hcopy : sourced.write [] "/w/src/p/a" actors =
      .ok (sourced.put ["w", "src", "p", "a"] (.file actors false)) := by
    have hlocate : sourced.locate true [] "/w/src/p/a" = .ok (["w", "src", "p", "a"], none) := by
      decide +kernel
    unfold FileSystem.write
    rw [hlocate]
    exact if_neg (by decide +kernel)
  have htext : Template.render prepared.template prepared.data.toJson = .ok "main" := by
    rw [htemplate]
    rfl
  have hmain : Path.join "/w/src/p" entryPoint = "/w/src/p/main.go" := by decide +kernel
  have hbeside : Path.join "/w/src/p" "a" = "/w/src/p/a" := by decide +kernel
  rw [← hmain, ← hdir, ← hdirectory, ← hfiles] at hsource
  rw [← hbeside, ← hdir, ← hdirectory] at hcopy
  exact complete_writes _ _ htext hsource hcopy

theorem creates : ∃ context after,
    (tool.createProject "/a" options none).runOn start = (.ok context, after) ∧
    ∀ prepared world, tool.ComesToRender "/a" options none start prepared world →
      world.files = made := by
  obtain ⟨config, journal, log, hgather⟩ := gathers
  obtain ⟨prepared, world, hprepare, hdir, htemplate, hfiles, hdirectory⟩ :=
    prepares config journal log
  obtain ⟨project, after, hcomplete⟩ := completes config hdir htemplate hfiles hdirectory
  refine ⟨⟨⟨⟨config, "/a", "a", actors⟩, ["urn:a"], [⟨"x", "v1", "/w/src"⟩]⟩, project⟩, _,
    createProject_eq_ok_iff.2 ⟨_, prepared, world, after, hgather, hprepare, hcomplete, rfl⟩, ?_⟩
  rintro other reached ⟨pipeline, gathered, hgather', hprepare'⟩
  rw [hgather] at hgather'
  cases hgather'
  rw [hprepare] at hprepare'
  cases hprepare'
  exact hfiles

end Forgetful

/-- The fetcher takes the configuration away, and the copy has it nevertheless. -/
theorem createProject_agrees_forgetful : ∃ context after,
    (Forgetful.tool.createProject "/a" Forgetful.options none).runOn Forgetful.start =
      (.ok context, after) ∧
    Forgetful.tool.Agrees "/a" Forgetful.options none Forgetful.start context after ∧
    after.files.Keeps after.directory context.project.configCopyPath Forgetful.actors := by
  obtain ⟨context, after, hcreated, hfiles⟩ := Forgetful.creates
  have hlinks : Forgetful.made.NoLinks := FileSystem.noLinks_of_entries (by decide +kernel)
  have hdevices : Forgetful.made.NoDevices := FileSystem.noDevices_of_entries (by decide +kernel)
  have hagrees := createProject_agrees hcreated
    (fun prepared world hcomes => by
      rw [hfiles prepared world hcomes]
      exact hlinks.noLinkIn)
    (fun prepared world hcomes _ _ => by
      rw [hfiles prepared world hcomes]
      exact hdevices.stat)
  have hread : Forgetful.start.files.read [] "/a" = .ok Forgetful.actors := by decide +kernel
  obtain ⟨_, _, _, _, _, written, _, _, _, _, _, hformat, hcopy⟩ := hagrees.files
  have hbytes : context.pipeline.config.bytes = Forgetful.actors :=
    Except.ok.inj (hagrees.read.symm.trans hread)
  rw [hbytes] at hcopy
  -- the command that formats leaves this world as it is
  have hlogs : written.Logs after := hformat
  refine ⟨context, after, hcreated, hagrees, hcopy ⟨hlogs.directory_eq, fun location => .inl ?_⟩⟩
  rw [hlogs.files_eq]

end Pipewright
