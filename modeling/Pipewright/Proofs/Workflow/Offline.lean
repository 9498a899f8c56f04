import Pipewright.Proofs.Json.Reading
import Pipewright.Proofs.Project.Overwriting
import Pipewright.Proofs.Template.Reads
import Pipewright.Proofs.Workflow.Creation
import Pipewright.Proofs.Workflow.Stages

set_option autoImplicit false

/-! # Creating without fetching

Where no packages are fetched, all that a project is made of is found on the disk: `Tool.gather`
and `Project.survey` answer with functions of it (`Tool.gather_answers`, `survey_answers`), and so
does what is prepared for rendering (`Tool.ComesToRender.prepared_eq`). -/

namespace Pipewright

open Pipewright.Action Pipewright.Project

namespace Project

variable {start : World}

/-- The default arguments at a path. -/
def argumentsOn (disk : Disk) (path : Path) : Except Failure Arguments :=
  match disk.files.read disk.directory path with
  | .error e => if e = .absent then .ok [] else .error (.io path (.system e))
  | .ok bytes =>
    match Json.parse? bytes with
    | .ok (.object members) => .ok members
    | .ok _ => .error (.config path "template args must be a JSON object")
    | .error fault => .error (.config path ("malformed template args: " ++ fault.message))

theorem loadArguments_answers (path : Path) :
    (loadArguments path).Answers start.Quiet (argumentsOn start.disk path) := by
  refine (Job.readFile_answers path).bind_ok ?_
  unfold argumentsOn World.disk
  cases start.files.read start.directory path with
  | error e =>
    by_cases habsent : e = .absent
    · simp only [habsent, if_true]
      exact .pure _
    · simp only [habsent, if_false]
      exact .throw _
  | ok bytes =>
    dsimp only
    cases Json.parse? bytes with
    | error fault => exact .throw _
    | ok json =>
      cases json with
      | object members => exact .pure _
      | _ => exact .throw _

/-- What is read for a project, by what is on the disk. -/
def surveyOn (disk : Disk) (layout : LayoutSettings) (options : CreateOptions)
    (config : LoadedConfig) (overrides : Option Arguments) : Except Failure Survey := do
  checkFileName config
  let template ← templateOn disk (layout.templatePaths options).template
  let defaults ← argumentsOn disk (layout.templatePaths options).arguments
  return ⟨template, mergeArguments defaults overrides⟩

theorem surveyOn_eq_ok_iff {disk : Disk} {layout : LayoutSettings} {options : CreateOptions}
    {config : LoadedConfig} {overrides : Option Arguments} {survey : Survey} :
    surveyOn disk layout options config overrides = .ok survey ↔
      config.fileName ≠ entryPoint ∧ ∃ template defaults,
        templateOn disk (layout.templatePaths options).template = .ok template ∧
        argumentsOn disk (layout.templatePaths options).arguments = .ok defaults ∧
        survey = ⟨template, mergeArguments defaults overrides⟩ := by
  have hname : checkFileName config = .ok () ↔ config.fileName ≠ entryPoint := by
    unfold checkFileName
    split
    · next heq => simp [heq]
    · next hne => simp [hne]
  unfold surveyOn
  simp only [Except.bind_ok_iff, pure, Except.pure, Except.ok.injEq]
  constructor
  · rintro ⟨⟨⟩, hother, template, htemplate, defaults, hdefaults, rfl⟩
    exact ⟨hname.1 hother, template, defaults, htemplate, hdefaults, rfl⟩
  · rintro ⟨hother, template, defaults, htemplate, hdefaults, rfl⟩
    exact ⟨(), hname.2 hother, template, htemplate, defaults, hdefaults, rfl⟩

theorem survey_answers (layout : LayoutSettings) (options : CreateOptions) (config : LoadedConfig)
    (overrides : Option Arguments) :
    (survey layout options config overrides).Answers start.Quiet
      (surveyOn start.disk layout options config overrides) := by
  have hname : Answers start.Quiet (liftM (checkFileName config) : Job Unit)
      (checkFileName config) := fun _ hworld => ⟨rfl, hworld⟩
  refine hname.bind fun _ _ => (Job.log_answers _ _).bind_ok ?_
  exact (loadTemplate_answers _).bind fun template _ =>
    (loadArguments_answers _).bind fun defaults _ => .pure _

end Project

/-- What is gathered without fetching, by what is on the disk of a world. -/
def Tool.gatherOn (tool : Tool) (configPath : Path) (options : CreateOptions) (world : World) :
    Except Failure ResolvedPipeline := do
  options.validate
  let config ← LoadedConfig.onDisk world.disk configPath
  let packages ← ((Pipewright.resolve MappingDocument.load
    (tool.settings.layout.sourceRoot options.workspace) options.sources
      config.config.urns).runOn world).1
  return ⟨config, config.config.urns, applyPins options.pins packages⟩

theorem Tool.gatherOn_eq_ok_iff {tool : Tool} {configPath : Path} {options : CreateOptions}
    {world : World} {pipeline : ResolvedPipeline} :
    tool.gatherOn configPath options world = .ok pipeline ↔
      options.validate = .ok () ∧ ∃ config packages,
        LoadedConfig.onDisk world.disk configPath = .ok config ∧
        ((Pipewright.resolve MappingDocument.load
          (tool.settings.layout.sourceRoot options.workspace) options.sources
            config.config.urns).runOn world).1 = .ok packages ∧
        pipeline = ⟨config, config.config.urns, applyPins options.pins packages⟩ := by
  unfold Tool.gatherOn
  simp only [Except.bind_ok_iff, pure, Except.pure, Except.ok.injEq]
  constructor
  · rintro ⟨⟨⟩, hvalid, config, hload, packages, hresolve, rfl⟩
    exact ⟨hvalid, config, packages, hload, hresolve, rfl⟩
  · rintro ⟨hvalid, config, packages, hload, hresolve, rfl⟩
    exact ⟨(), hvalid, config, hload, packages, hresolve, rfl⟩

theorem Tool.gather_answers (tool : Tool) (configPath : Path) {options : CreateOptions}
    (hget : options.getPackages = false) (start : World) :
    (tool.gather configPath options).Answers start.Quiet
      (tool.gatherOn configPath options start) := by
  have hvalidate : Answers start.Quiet
      (stage (ExceptT.mk (pure options.validate))) options.validate :=
    stage_answers fun _ hworld => ⟨rfl, hworld⟩
  have hresolve := tool.resolve_answers configPath options.sources options.workspace start
  have hgather := hvalidate.bind fun _ _ => hresolve.bind fun pipeline _ =>
    Answers.pure { pipeline with packages := applyPins options.pins pipeline.packages }
  unfold Tool.gather Tool.gatherOn
  simp only [hget, Bool.false_eq_true, if_false, pure_bind]
  simp only [bind_assoc, pure_bind] at hgather
  exact hgather

theorem Project.ready_prepared {layout : LayoutSettings} {options : CreateOptions}
    {packages : List Package} {config : LoadedConfig} {surveyed : Survey} {prepared : Prepared}
    {start asked world : World} (hasked : start.Quiet asked)
    (h : (ready layout options packages config surveyed).runOn asked = (.ok prepared, world)) :
    prepared = surveyed.prepared layout options packages config start.clock := by
  have hclock : asked.clock = start.clock := by rw [hasked]
  rw [runOn_ready, hclock] at h
  dsimp only at h
  split at h
  · cases h
    rfl
  · cases h

/-- What is prepared without fetching, by what is on the disk. -/
theorem Tool.ComesToRender.prepared_eq {tool : Tool} {configPath : Path} {options : CreateOptions}
    {overrides : Option Arguments} {start world : World} {prepared : Prepared}
    {pipeline : ResolvedPipeline} {surveyed : Survey} (hget : options.getPackages = false)
    (hgathers : tool.gatherOn configPath options start = .ok pipeline)
    (hsurveys : surveyOn start.disk tool.settings.layout options pipeline.config overrides =
      .ok surveyed)
    (h : tool.ComesToRender configPath options overrides start prepared world) :
    prepared = surveyed.prepared tool.settings.layout options pipeline.packages pipeline.config
      start.clock := by
  obtain ⟨other, gathered, hgather, hprepare⟩ := h
  obtain ⟨hanswer, hquiet⟩ := tool.gather_answers configPath hget start start (.refl start)
  rw [hgather] at hanswer hquiet
  obtain rfl : other = pipeline := Except.ok.inj (hanswer.trans hgathers)
  obtain ⟨hsurvey, hread⟩ := survey_answers tool.settings.layout options other.config overrides
    gathered hquiet
  rw [hsurveys] at hsurvey
  rw [runOn_prepare_ok options other.packages (Prod.ext hsurvey rfl)] at hprepare
  have hasked := hread.note (.inspect (dirOf tool.settings.layout options))
  dsimp only at hprepare
  -- nothing but making the directory is left, whether it is there or not
  split at hprepare
  · cases hprepare
  · exact ready_prepared hasked hprepare
  · split at hprepare
    · exact ready_prepared (hasked.record .warn .rendering) hprepare
    · cases hprepare

/-! ## A project that is there already -/

namespace Revisited

/-- The text of an empty object. -/
def nothing : Bytes := Text.Utf8.encode "\x7b\x7d"

/-- A constant for each argument, below the path of the configuration. -/
def source : String :=
  "package main // \x7b\x7bconfig\x7d\x7d\n" ++
    "\x7b\x7b#each args\x7d\x7dconst \x7b\x7b@key\x7d\x7d = \x7b\x7bthis\x7d\x7d\n" ++
    "\x7b\x7b/each\x7d\x7d"

/-- The arguments of the template. -/
def defaults : String := "\x7b\"depth\":\"3\",\"width\":\"8\"\x7d"

def start : World :=
  World.fresh [
    (["a"], .file nothing false), (["m"], .file nothing false),
    (["w"], .directory), (["w", "src"], .directory), (["w", "src", "p"], .directory),
    (["w", "src", "tpl"], .directory), (["w", "src", "tpl", "t"], .directory),
    (["w", "src", "tpl", "t", "main.go"], .file (Text.Utf8.encode source) false),
    (["w", "src", "tpl", "t", "args.json"], .file (Text.Utf8.encode defaults) false)]

/-- A formatted file ends in one line end more. -/
def formatted (content : Bytes) : Bytes := content ++ Text.Utf8.encode "\n"

/-- What is built of any project. -/
def program : Bytes := Text.Utf8.encode "#!/bin/sh\n"

/-- Formats a file in its place. -/
def format (path : Path) (world : World) : Except Errno Completed × World :=
  match world.files.locate true world.directory path with
  | .ok (location, some (.file content isExecutable)) =>
    (.ok ⟨.exited 0, [], []⟩,
      { world with files := world.files.put location (.file (formatted content) isExecutable) })
  | _ => (.ok ⟨.exited 1, [], []⟩, world)

/-- Builds the program at a path. -/
def build (path : Path) (world : World) : Except Errno Completed × World :=
  match world.files.write world.directory path program with
  | .ok files => (.ok ⟨.exited 0, [], []⟩, { world with files })
  | .error _ => (.ok ⟨.exited 1, [], []⟩, world)

/-- The go tool formats, and builds a program in the directory it is started in. -/
def run (invocation : Invocation) (world : World) : Except Errno Completed × World :=
  match invocation.arguments with
  | ["fmt", source] => format source world
  | ["build", "-o", artifact, _] =>
    build (Path.join (invocation.directory.getD ".") artifact) world
  | _ => (.ok ⟨.exited 0, [], []⟩, world)

def tool : Tool :=
  { settings := { ToolSettings.default with layout := ⟨"src", "tpl"⟩ }
    host := { run, start := fun _ world => (.error .absent, world) }
    fetcher := none }

/-- The options, with overwriting allowed or not. -/
def options (force : Bool) : CreateOptions := ⟨"/w", ["/m"], "t", "p", force, false, false, []⟩

theorem gathers (force : Bool) : ∃ config,
    tool.gatherOn "/a" (options force) start = .ok ⟨⟨config, "/a", "a", nothing⟩, [], []⟩ := by
  obtain ⟨config, hdecode, hurns⟩ : ∃ config,
      Json.ofBytes? PipelineConfig.decode nothing = .ok config ∧ config.urns = [] :=
    Except.exists_eq_ok_of_toOption_map (by decide +kernel)
  have hname : Path.fileName? "/a" = some "a" := by decide +kernel
  have hread : start.files.read [] "/a" = .ok nothing := by decide +kernel
  have hload : LoadedConfig.onDisk start.disk "/a" = .ok ⟨config, "/a", "a", nothing⟩ :=
    LoadedConfig.onDisk_eq_ok_iff.2
      ⟨⟨nothing, false, by decide +kernel⟩, rfl, hname, hread, hdecode⟩
  have hpackages : ((resolve MappingDocument.load "/w/src" ["/m"] []).runOn start).1 =
      .ok [] := by decide +kernel
  have hroot : tool.settings.layout.sourceRoot "/w" = "/w/src" := by decide +kernel
  have hvalid : (options force).validate = .ok () := by cases force <;> rfl
  refine ⟨config, Tool.gatherOn_eq_ok_iff.2 ⟨hvalid, _, [], hload, ?_, ?_⟩⟩
  · rw [hurns]
    rw [← hroot] at hpackages
    exact hpackages
  · rw [hurns]
    rfl

theorem paths (force : Bool) : tool.settings.layout.templatePaths (options force) =
    ⟨"/w/src/tpl/t/main.go", "/w/src/tpl/t/args.json"⟩ := by
  cases force <;> decide +kernel

/-- The template of this text; only the kernel is to parse it. -/
@[irreducible]
def template : List Template.Element := (Template.parse source).toOption.getD []

theorem parse_source : Template.parse source = .ok template := by
  obtain ⟨parsed, hparse, -⟩ : ∃ parsed, Template.parse source = .ok parsed ∧
      parsed.isEmpty = false :=
    Except.exists_eq_ok_of_toOption_map (by decide +kernel)
  rw [template, hparse]
  rfl

/-- The template and its arguments. -/
def surveyed : Survey := ⟨template, [("depth", .string "3"), ("width", .string "8")]⟩

theorem templates (force : Bool) :
    templateOn start.disk (tool.settings.layout.templatePaths (options force)).template =
      .ok template := by
  have hread : start.files.read [] "/w/src/tpl/t/main.go" = .ok (Text.Utf8.encode source) := by
    decide +kernel
  have htext : Text.Utf8.decode? (Text.Utf8.encode source) = some source := by decide +kernel
  unfold templateOn World.disk
  rw [paths]
  change (match start.files.read [] "/w/src/tpl/t/main.go" with
    | .error e => _
    | .ok bytes => _) = _
  rw [hread]
  dsimp only
  rw [htext]
  dsimp only
  rw [parse_source]
  rfl

theorem surveys (force : Bool) (config : PipelineConfig) :
    surveyOn start.disk tool.settings.layout (options force) ⟨config, "/a", "a", nothing⟩ none =
      .ok surveyed := by
  have hname : "a" ≠ entryPoint := by decide
  refine surveyOn_eq_ok_iff.2 ⟨hname, _, surveyed.arguments, templates force, ?_, rfl⟩
  rw [paths]
  decide +kernel

theorem exists_dir (force : Bool) :
    start.files.exists? start.directory (dirOf tool.settings.layout (options force)) =
      .ok true := by
  have hdir : dirOf tool.settings.layout (options force) = "/w/src/p" := by
    cases force <;> decide +kernel
  rw [hdir]
  decide +kernel

/-- What is rendered. -/
def prepared (force : Bool) : Prepared :=
  surveyed.prepared tool.settings.layout (options force) [] ⟨.empty, "/a", "a", nothing⟩ 0

theorem prepared_eq {force : Bool} {other : Prepared} {world : World}
    (h : tool.ComesToRender "/a" (options force) none start other world) :
    other = prepared force := by
  obtain ⟨config, hgathers⟩ := gathers force
  exact h.prepared_eq rfl hgathers (surveys force config)

/-- The places that the template looks its values up at. -/
def places : List (List String) :=
  [["config"], ["args"], ["args", "depth"], ["args", "width"]]

/-- Nothing is looked up on a way that leads past these places. -/
theorem avoids (force : Bool) {way : List String} (hway : ∀ path ∈ places, ¬ path <+: way) :
    ∀ lookup ∈ Template.reads (prepared force).template (prepared force).data.toJson,
      lookup.Avoids way := by
  have hplaces : (Template.reads (prepared force).template (prepared force).data.toJson).filterMap
      Template.Lookup.location? = places := by
    cases force <;> decide +kernel
  intro lookup hlookup path hpath
  refine hway path ?_
  rw [← hplaces, List.mem_filterMap]
  exact ⟨lookup, hlookup, hpath⟩

end Revisited

end Pipewright
