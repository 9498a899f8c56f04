import Pipewright.Proofs.Workflow.Consistency
import Pipewright.Proofs.Workflow.Forcing
import Pipewright.Proofs.Workflow.StageOrder

set_option autoImplicit false

/-! # Refusals

A creation is refused, that is, fails with a failure of the class `validation`, in two places only:
when its options are validated, before anything is looked at, and when the renderer finds that the
copy of the configuration would take the place of the source file (`createProject_clash`). The
second comes behind the fetching of packages. So **a refusal means that nothing has been done**, and
the files are as they were, unless packages are fetched for a configuration with this one name; and
then the fetch pass is all that has been done (`createProject_refused`). -/

namespace Pipewright

open Pipewright.Action Project

/-! ## Failures that are no refusals -/

theorem LoadedConfig.onDisk_error {disk : Disk} {path : Path} {failure : Failure}
    (h : onDisk disk path = .error failure) : failure.category = .config := by
  have hmapped : ∀ {α β : Type} {first : Except β α} {wording : β → String},
      first.mapError (fun e => Failure.config path (wording e)) = .error failure →
        failure.category = .config := by
    intro α β first wording hfirst
    cases first with
    | ok a => cases hfirst
    | error e => cases hfirst; rfl
  unfold onDisk at h
  by_cases hpath : path = ""
  · rw [if_pos hpath] at h
    cases h
    rfl
  rw [if_neg hpath] at h
  rcases Except.bind_error_iff.1 h with hstat | ⟨node, -, h⟩
  · exact hmapped hstat
  cases node with
  | directory | link _ | device => cases h; rfl
  | file content isExecutable =>
    cases hname : Path.fileName? path with
    | none => rw [hname] at h; cases h; rfl
    | some fileName =>
      rw [hname] at h
      rcases Except.bind_error_iff.1 h with hread | ⟨bytes, -, h⟩
      · exact hmapped hread
      rcases Except.bind_error_iff.1 h with hdecode | ⟨config, -, h⟩
      · exact hmapped hdecode
      · cases h

theorem FailsFirst.category_ne {world : World} {documents : List Path} {urns : List String}
    {failure : Failure} (h : FailsFirst world documents urns failure) (hsome : documents ≠ []) :
    failure.category ≠ .validation := by
  cases h with
  | noDocument => exact absurd rfl hsome
  | unloadable | conflicting | unresolved => exact nofun

theorem IsFetchOrIo.category_ne {failure : Failure} (h : IsFetchOrIo failure) :
    failure.category ≠ .validation := by
  rcases h with ⟨package, message, rfl⟩ | ⟨path, cause, rfl⟩
  · exact nofun
  · exact nofun

theorem Project.IsRenderOrIo.category_ne {failure : Failure} (h : IsRenderOrIo failure) :
    failure.category ≠ .validation := by
  rcases h with ⟨template, message, rfl⟩ | ⟨path, cause, rfl⟩
  · exact nofun
  · exact nofun

namespace Project

theorem templateOn_error {disk : Disk} {path : Path} {failure : Failure}
    (h : templateOn disk path = .error failure) : failure.category = .render := by
  unfold templateOn at h
  split at h
  · cases h
    rfl
  · split at h
    · cases h
      rfl
    · next text htext =>
      cases hparse : Template.parse text with
      | ok template => rw [hparse] at h; cases h
      | error fault => rw [hparse] at h; cases h; rfl

theorem argumentsOn_error {disk : Disk} {path : Path} {failure : Failure}
    (h : argumentsOn disk path = .error failure) : failure.category ≠ .validation := by
  unfold argumentsOn at h
  split at h
  · split at h
    · cases h
    · cases h
      exact nofun
  · split at h
    · cases h
    · cases h
      exact nofun
    · cases h
      exact nofun

/-- The refusal of a configuration that is named like the source file. -/
def nameClash (config : LoadedConfig) : Failure :=
  .validation "config"
    ("configuration file " ++ config.path ++ " would overwrite the generated " ++ entryPoint)

theorem checkFileName_clash {config : LoadedConfig} (h : config.fileName = entryPoint) :
    checkFileName config = .error (nameClash config) := if_pos h

variable {host : Host} {layout : LayoutSettings} {toolchain : Toolchain} {options : CreateOptions}
  {packages : List Package} {config : LoadedConfig} {overrides : Option Arguments}

/-- Reading what a project is made of refuses nothing but the name of the configuration. -/
theorem surveyOn_error {disk : Disk} {failure : Failure}
    (h : surveyOn disk layout options config overrides = .error failure)
    (hname : config.fileName ≠ entryPoint) : failure.category ≠ .validation := by
  have hchecked : checkFileName config = .ok () := if_neg hname
  unfold surveyOn at h
  rw [hchecked] at h
  rcases Except.bind_error_iff.1 h with hok | ⟨⟨⟩, -, h⟩
  · cases hok
  rcases Except.bind_error_iff.1 h with htemplate | ⟨template, -, h⟩
  · rw [templateOn_error htemplate]
    exact nofun
  rcases Except.bind_error_iff.1 h with harguments | ⟨defaults, -, h⟩
  · exact argumentsOn_error harguments
  · cases h

theorem render_clash (world : World) (h : config.fileName = entryPoint) :
    (render host layout toolchain options packages config overrides).runOn world =
      (.error (nameClash config), world) := by
  have hchecked : (liftM (checkFileName config) : Job Unit).runOn world =
      (.error (nameClash config), world) := by
    rw [checkFileName_clash h]
    rfl
  unfold render prepare
  rw [bind_assoc, runOn_bind_error hchecked]

/-- Rendering refuses nothing but the name of the configuration. -/
theorem render_failsWith (hname : config.fileName ≠ entryPoint) :
    (render host layout toolchain options packages config overrides).FailsWith
      fun failure => failure.category ≠ .validation := by
  intro world failure hfailure
  have hon := (survey_answers layout options config overrides world (.refl world)).1
  rcases hsurvey : (survey layout options config overrides).runOn world with
    ⟨first | surveyed, read⟩
  · rw [hsurvey] at hon
    rw [runOn_render_error host toolchain options packages hsurvey] at hfailure
    cases hfailure
    exact surveyOn_error hon.symm hname
  · have hmake : FailsWith (fun failure => failure.category ≠ .validation)
        (make host layout toolchain options packages config surveyed) :=
      (make_failsWith host layout toolchain options packages config surveyed).imp fun _ =>
        IsRenderOrIo.category_ne
    rw [runOn_render_ok host toolchain options packages hsurvey] at hfailure
    dsimp only at hfailure
    split at hfailure
    · cases hfailure
      exact nofun
    · exact hmake _ _ hfailure
    · split at hfailure
      · exact hmake _ _ hfailure
      · cases hfailure
        exact nofun

end Project

/-! ## Runs that only look -/

/-- Being a look at the world, which changes nothing. -/
def Effect.IsLook : Effect → Prop
  | .inspect _ | .read _ => True
  | _ => False

namespace Tool

variable {tool : Tool} {options : CreateOptions} {start after : World}

/-- No effect leads to a world that differs in its log alone. -/
theorem Leads.logs_of_nil (h : tool.Leads options start [] after) : start.Logs after := by
  generalize hnil : ([] : List Effect) = effects at h
  cases h with
  | idle hlogs => exact hlogs
  | step _ _ _ => exact absurd hnil.symm (List.append_ne_nil_of_right_ne_nil _ (by simp))

/-- Looks are all that comes into the journal, and nothing else changes but the log. -/
theorem Leads.looks {effects : List Effect} (h : tool.Leads options start effects after)
    (hlooks : ∀ effect ∈ effects, effect.IsLook) :
    start.Quiet after ∧ after.journal = effects.reverse ++ start.journal := by
  induction h with
  | idle hlogs =>
    rw [hlogs]
    exact ⟨rfl, rfl⟩
  | step _ hstep hlogs ih =>
    simp only [List.forall_mem_append, List.forall_mem_singleton] at hlooks
    obtain ⟨hquiet, hjournal⟩ := ih hlooks.1
    cases hstep with
    | inspect path | read path =>
      rw [hlogs]
      exact ⟨hquiet.trans rfl, by simp [World.note, hjournal]⟩
    | write _ | writeRefused _ | makeDirectories _ | fetch _ _ _ | command _ | launch _ =>
      exact hlooks.2.elim

variable (tool options) in
/-- The effects of gathering for a project whose URNs stand for these import paths. -/
def gatherEffects (configPath : Path) (uris : List String) : List Effect :=
  loadEffects configPath ++ options.sources.map .read ++
    if options.getPackages then
      uris.map fun uri => fetchEffect options
        (pin options ⟨uri, "", tool.settings.layout.sourceRoot options.workspace⟩)
    else []

variable (tool) in
theorem gatherEffects_looks (configPath : Path) (uris : List String)
    (hget : options.getPackages = false) :
    ∀ effect ∈ tool.gatherEffects options configPath uris, effect.IsLook := by
  have hload : ∀ effect ∈ loadEffects configPath, effect.IsLook := by
    simp [loadEffects, Effect.IsLook]
  have hread : ∀ effect ∈ options.sources.map Effect.read, effect.IsLook := by
    simp [Effect.IsLook]
  unfold gatherEffects
  rw [if_neg (by simp [hget]), List.append_nil]
  exact List.forall_mem_append.2 ⟨hload, hread⟩

/-- Gathering that succeeds reads the configuration and the documents, and then fetches each package
    if it is asked to. -/
theorem Gathers.leads {configPath : Path} {pipeline : ResolvedPipeline}
    (h : tool.Gathers options configPath start (.ok pipeline) after) :
    ∃ uris, LoadedConfig.onDisk start.disk configPath = .ok pipeline.config ∧
      ResolvesTo start options.sources pipeline.config.config.urns uris ∧
      tool.Leads options start (tool.gatherEffects options configPath uris) after := by
  cases h with
  | fetched _ hresolves hget hleads =>
    cases hresolves with
    | resolved hload huris hread =>
      refine ⟨_, hload, huris, ?_⟩
      have hall := hread.trans hleads
      unfold gatherEffects
      rw [if_pos hget]
      simpa [Function.comp_def] using hall
  | unasked _ hresolves hget hleads =>
    cases hresolves with
    | resolved hload huris hread =>
      refine ⟨_, hload, huris, ?_⟩
      have hall := hread.trans hleads
      unfold gatherEffects
      rw [if_neg (by simp [hget])]
      exact hall

/-- Gathering refuses nothing but options. -/
theorem Gathers.refused_of_category {configPath : Path} {failure : Failure}
    (hfetcher : tool.FetcherFails)
    (h : tool.Gathers options configPath start (.error failure) after)
    (hrefused : failure.category = .validation) :
    options.validate = .error failure ∧ start.Logs after := by
  cases h with
  | refused hvalid hleads => exact ⟨hvalid, hleads.logs_of_nil⟩
  | unresolved hvalid hresolves =>
    cases hresolves with
    | unloaded hload _ _ =>
      rw [LoadedConfig.onDisk_error hload] at hrefused
      cases hrefused
    | unresolved _ hfails _ _ =>
      exact absurd hrefused
        (hfails.category_ne (CreateOptions.validate_eq_ok_iff.1 hvalid).2.1)
  | unfetched _ _ hget _ _ hfails =>
    obtain ⟨fetcher, failed, hactive, hcall, -⟩ := hfails
    obtain rfl : _ = fetcher := Option.some.inj ((if_pos hget).symm.trans hactive)
    exact absurd hrefused
      (hfetcher.fetcher _ _ _ _ failure (congrArg Prod.fst hcall)).category_ne

end Tool

/-- A configuration that is named like the source file is refused when all has been gathered. -/
theorem createProject_clash {tool : Tool} {configPath : Path} {options : CreateOptions}
    {pipeline : ResolvedPipeline} {start gathered : World} (overrides : Option Arguments)
    (hgather : (tool.gather configPath options).runOn start = (.ok pipeline, gathered))
    (hname : pipeline.config.fileName = entryPoint) :
    (tool.createProject configPath options overrides).runOn start =
      (.error (nameClash pipeline.config), gathered.record .error .logging) := by
  unfold Tool.createProject
  rw [runOn_bind_ok hgather, runOn_bind_error (runOn_stage_error (render_clash gathered hname))]

/-- **A refusal means that nothing has been done.** A creation that fails with a failure of the
    class `validation` has only looked, unless packages are fetched for a configuration that is
    named like the source file. Either the options are refused, before anything is looked at, or
    that name is, and then all that has been done is what gathering does when it succeeds. -/
theorem createProject_refused {tool : Tool} {configPath : Path} {options : CreateOptions}
    {overrides : Option Arguments} {start after : World} {failure : Failure}
    (hfetcher : tool.FetcherFails)
    (hrun : (tool.createProject configPath options overrides).runOn start =
      (.error failure, after))
    (hrefused : failure.category = .validation) :
    (options.getPackages = false ∨ Path.fileName? configPath ≠ some entryPoint →
      start.Quiet after ∧ ∃ effects, after.journal = effects ++ start.journal ∧
        ∀ effect ∈ effects, effect.IsLook) ∧
    ((options.validate = .error failure ∧ start.Logs after) ∨
      options.validate = .ok () ∧ Path.fileName? configPath = some entryPoint ∧
      ∃ config uris, LoadedConfig.onDisk start.disk configPath = .ok config ∧
        ResolvesTo start options.sources config.config.urns uris ∧ failure = nameClash config ∧
        tool.Leads options start (tool.gatherEffects options configPath uris) after) := by
  have hgathers := tool.gather_gathers options configPath start
  rcases hgather : (tool.gather configPath options).runOn start with ⟨first | pipeline, gathered⟩
  · rw [hgather] at hgathers
    rw [runOn_createProject_error options hgather] at hrun
    cases hrun
    obtain ⟨hvalid, hlogs⟩ : _ ∧ start.Logs after :=
      hgathers.refused_of_category hfetcher hrefused
    refine ⟨fun _ => ⟨hlogs.quiet, [], hlogs.journal_eq, nofun⟩, .inl ⟨hvalid, hlogs⟩⟩
  rw [hgather] at hgathers
  by_cases hname : pipeline.config.fileName = entryPoint
  · rw [createProject_clash overrides hgather hname] at hrun
    cases hrun
    obtain ⟨uris, hload, huris, hleads⟩ := hgathers.leads
    have hfile : Path.fileName? configPath = some entryPoint := by
      rw [← hname]
      exact (LoadedConfig.onDisk_eq_ok_iff.1 hload).2.2.1
    have hall := hleads.logs ((World.Logs.refl gathered).record .error .logging)
    refine ⟨fun hquiet => ?_, .inr ⟨hgathers.ok.1, hfile, _, uris, hload, huris, rfl, hall⟩⟩
    have hget : options.getPackages = false := hquiet.resolve_right (absurd hfile)
    obtain ⟨hkept, hjournal⟩ := hall.looks (tool.gatherEffects_looks configPath uris hget)
    exact ⟨hkept, _, hjournal, fun effect heffect =>
      tool.gatherEffects_looks configPath uris hget effect (List.mem_reverse.1 heffect)⟩
  · rw [runOn_createProject_ok options hgather] at hrun
    rcases hrender : (render tool.host tool.settings.layout (tool.toolchain options.workspace)
      options pipeline.packages pipeline.config overrides).runOn gathered with
      ⟨other | project, rendered⟩
    · rw [hrender] at hrun
      cases hrun
      exact absurd hrefused (render_failsWith hname gathered failure (congrArg Prod.fst hrender))
    · rw [hrender] at hrun
      cases hrun

/-! ## A configuration with the name of the source file -/

namespace Misnamed

open Forgetful (actors mapping decodes)

def start : World :=
  World.fresh [(["main.go"], .file actors false), (["m"], .file mapping false)]

def options (getPackages : Bool) : CreateOptions :=
  ⟨"/w", ["/m"], "t", "p", false, getPackages, false, []⟩

/-- The fetcher takes the document away. -/
def tool : Tool :=
  { Forgetful.tool with
    fetcher := some fun _ _ => Job.update fun world =>
      { world with files := world.files.remove world.directory "/m" } }

theorem fetcherFails : tool.FetcherFails := by
  rintro fetcher ⟨⟩ package update
  exact FailsWith.of_ok fun _ => ⟨(), rfl⟩

/-- The files without the document. -/
def left : FileSystem := start.files.remove [] "/m"

theorem left_ne : left ≠ start.files := by
  have hgone : left.read [] "/m" = .error .absent := by decide +kernel
  have hthere : start.files.read [] "/m" = .ok mapping := by decide +kernel
  intro h
  rw [h, hthere] at hgone
  cases hgone

theorem gathers (getPackages : Bool) : ∃ pipeline gathered,
    (tool.gather "/main.go" (options getPackages)).runOn start = (.ok pipeline, gathered) ∧
    pipeline.config.fileName = entryPoint ∧
    (getPackages = true → gathered.files = left ∧ .fetch "x" "" false ∈ gathered.journal) := by
  obtain ⟨config, hdecode, hurns⟩ := decodes
  have hname : Path.fileName? "/main.go" = some "main.go" := by decide +kernel
  have hread : start.files.read [] "/main.go" = .ok actors := by decide +kernel
  have hload : LoadedConfig.onDisk start.disk "/main.go" =
      .ok ⟨config, "/main.go", "main.go", actors⟩ :=
    LoadedConfig.onDisk_eq_ok_iff.2
      ⟨⟨actors, false, by decide +kernel⟩, rfl, hname, hread, hdecode⟩
  have hroot : tool.settings.layout.sourceRoot (options getPackages).workspace = "/w/src" := by
    change tool.settings.layout.sourceRoot "/w" = "/w/src"
    decide +kernel
  have hpackages : ((resolve MappingDocument.load
      (tool.settings.layout.sourceRoot (options getPackages).workspace)
      (options getPackages).sources config.urns).runOn start).1 =
        .ok [⟨"x", "", "/w/src"⟩] := by
    rw [hroot, hurns]
    cases getPackages <;> decide +kernel
  obtain ⟨resolved, hresolved, hquiet⟩ := tool.runOn_resolve_ok hload hpackages
  have hvalid : (stage (ExceptT.mk (pure (options getPackages).validate)) : Job Unit).runOn start =
      (.ok (), start) := by
    cases getPackages <;> rfl
  unfold Tool.gather
  rw [runOn_bind_ok hvalid, runOn_bind_ok hresolved, hquiet]
  cases getPackages with
  | true => exact ⟨_, _, rfl, rfl, fun _ => ⟨rfl, List.mem_cons_self⟩⟩
  | false => exact ⟨_, _, rfl, rfl, fun hget => absurd hget (by decide)⟩

theorem refuses (getPackages : Bool) : ∃ failure after,
    (tool.createProject "/main.go" (options getPackages) none).runOn start =
      (.error failure, after) ∧
    failure.category = .validation ∧
    (getPackages = true → after.files = left ∧ .fetch "x" "" false ∈ after.journal) := by
  obtain ⟨pipeline, gathered, hgather, hname, hfetched⟩ := gathers getPackages
  exact ⟨_, _, createProject_clash none hgather hname, rfl, hfetched⟩

end Misnamed

/-- Without fetching, the refusal of the name leaves everything as it was. -/
theorem createProject_refused_misnamed : ∃ failure after,
    (Misnamed.tool.createProject "/main.go" (Misnamed.options false) none).runOn Misnamed.start =
      (.error failure, after) ∧
    failure.category = .validation ∧ Misnamed.start.Quiet after ∧
    ∃ effects, after.journal = effects ++ Misnamed.start.journal ∧
      ∀ effect ∈ effects, effect.IsLook := by
  obtain ⟨failure, after, hrun, hrefused, -⟩ := Misnamed.refuses false
  exact ⟨failure, after, hrun, hrefused,
    (createProject_refused Misnamed.fetcherFails hrun hrefused).1 (.inl rfl)⟩

/-- With fetching, it comes when the fetcher has been called and has changed the files. -/
theorem createProject_refused_late : ∃ failure after,
    Misnamed.tool.FetcherFails ∧
    (Misnamed.tool.createProject "/main.go" (Misnamed.options true) none).runOn Misnamed.start =
      (.error failure, after) ∧
    failure.category = .validation ∧
    .fetch "x" "" false ∈ after.journal ∧ after.files ≠ Misnamed.start.files := by
  obtain ⟨failure, after, hrun, hrefused, hfetched⟩ := Misnamed.refuses true
  obtain ⟨hfiles, hcalled⟩ := hfetched rfl
  exact ⟨failure, after, Misnamed.fetcherFails, hrun, hrefused, hcalled,
    hfiles ▸ Misnamed.left_ne⟩

end Pipewright
