import Pipewright.Proofs.Mapping.Resolution
import Pipewright.Proofs.Workflow.Steps

set_option autoImplicit false

/-! # The stages before rendering

`Tool.gather` validates the options, loads the configuration, resolves its URNs and fetches the
packages. `Tool.Gathers` tells the runs of these stages apart by the one that fails first, with the
effects up to there; `gather_gathers` says that every run is one of them. -/

namespace Pipewright

open Pipewright.Action

/-- The URNs are bound by documents to these import paths, each named once, in ascending order. -/
def ResolvesTo (world : World) (documents : List Path) (urns uris : List String) : Prop :=
  ∃ bindings, Resolvable world documents urns bindings ∧ BytesAscend uris ∧
    ∀ uri, uri ∈ uris ↔ ∃ urn ∈ urns, Binds bindings urn uri

/-- Resolution resolves to import paths, or fails with what goes wrong first. -/
theorem resolve_run (world : World) (sourceRoot : Path) (documents : List Path)
    (urns : List String) :
    (∃ uris, ResolvesTo world documents urns uris ∧
      ((resolve MappingDocument.load sourceRoot documents urns).runOn world).1 =
        .ok (uris.map fun uri => ⟨uri, "", sourceRoot⟩)) ∨
    ∃ failure, FailsFirst world documents urns failure ∧
      ((resolve MappingDocument.load sourceRoot documents urns).runOn world).1 =
        .error failure := by
  rcases resolvable_or_failsFirst world documents urns with ⟨bindings, h⟩ | ⟨failure, h⟩
  · obtain ⟨uris, hok, hascend, hmem⟩ := h.resolve_ok sourceRoot
    exact .inl ⟨uris, ⟨bindings, h, hascend, hmem⟩, hok⟩
  · exact .inr ⟨failure, h, h.resolve_error sourceRoot⟩

theorem ResolvesTo.of_disk_eq {world other : World} (hdisk : other.disk = world.disk)
    {documents : List Path} {urns uris : List String} (h : ResolvesTo world documents urns uris) :
    ResolvesTo other documents urns uris := by
  obtain ⟨bindings, hresolvable, hrest⟩ := h
  exact ⟨bindings, hresolvable.of_disk_eq hdisk, hrest⟩

/-- A stage answers what its action answers. -/
theorem stage_answers {α : Type} {start : World} {action : Job α} {result : Except Failure α}
    (h : action.Answers start.Quiet result) : (stage action).Answers start.Quiet result := by
  intro world hworld
  refine ⟨(runOn_stage_fst action world).trans (h world hworld).1, ?_⟩
  have hafter := (h world hworld).2
  rw [runOn_stage]
  rcases hrun : action.runOn world with ⟨failure | a, after⟩
  · rw [hrun] at hafter
    exact hafter.record _ _
  · rw [hrun] at hafter
    exact hafter

namespace Tool

variable {tool : Tool} {options : CreateOptions}

/-! ## Loading and resolving -/

/-- Loading and resolving only look at the disk. -/
theorem resolve_answers (tool : Tool) (configPath : Path) (sources : List Path) (workspace : Path)
    (start : World) :
    (tool.resolve configPath sources workspace).Answers start.Quiet (do
      let config ← LoadedConfig.onDisk start.disk configPath
      let packages ← ((Pipewright.resolve MappingDocument.load
        (tool.settings.layout.sourceRoot workspace) sources config.config.urns).runOn start).1
      return ⟨config, config.config.urns, packages⟩) := by
  refine (stage_answers (LoadedConfig.load_answers configPath)).bind fun config _ =>
    (stage_answers fun world hworld => ⟨resolve_of_disk_eq hworld.disk_eq _ _ _,
      hworld.trans (Pipewright.resolve_moves _ _ _ world)⟩).bind fun packages _ => ?_
  have hdone : (do
      Job.log .info .resolution
      return ⟨config, config.config.urns, packages⟩ : Job ResolvedPipeline).Answers start.Quiet
        (.ok ⟨config, config.config.urns, packages⟩) :=
    (Job.log_answers _ _).bind_ok (Answers.pure _)
  cases config.config.urns.isEmpty with
  | true => exact hdone
  | false => exact (Job.log_answers _ _).bind_ok hdone

/-- A configuration that can be loaded, and whose URNs can be resolved, is resolved. -/
theorem runOn_resolve_ok {configPath : Path} {sources : List Path} {workspace : Path}
    {start : World} {config : LoadedConfig} {packages : List Package}
    (hload : LoadedConfig.onDisk start.disk configPath = .ok config)
    (hpackages : ((Pipewright.resolve MappingDocument.load
      (tool.settings.layout.sourceRoot workspace) sources config.config.urns).runOn start).1 =
        .ok packages) :
    ∃ resolved, (tool.resolve configPath sources workspace).runOn start =
        (.ok ⟨config, config.config.urns, packages⟩, resolved) ∧ start.Quiet resolved := by
  obtain ⟨hresult, hquiet⟩ := tool.resolve_answers configPath sources workspace start start
    (.refl start)
  rw [hload] at hresult
  change _ = (do
    let packages ← ((Pipewright.resolve MappingDocument.load
      (tool.settings.layout.sourceRoot workspace) sources config.config.urns).runOn start).1
    return (⟨config, config.config.urns, packages⟩ : ResolvedPipeline)) at hresult
  rw [hpackages] at hresult
  exact ⟨_, Prod.ext hresult rfl, hquiet⟩

/-- The effects of loading a configuration. -/
def loadEffects (configPath : Path) : List Effect := [.inspect configPath, .read configPath]

theorem load_keepsTo (configPath : Path) :
    tool.KeepsTo options (loadEffects configPath) (LoadedConfig.load configPath) := by
  unfold LoadedConfig.load loadEffects
  by_cases hpath : configPath = ""
  · rw [if_pos hpath]
    exact .throw _
  rw [if_neg hpath]
  refine (stat_keepsTo configPath).bind fun result =>
    (orFail_keepsTo _ result).bind_idle fun node => ?_
  cases node with
  | directory | link _ | device => exact .throw _
  | file content isExecutable =>
    cases Path.fileName? configPath with
    | none => exact .throw _
    | some fileName =>
      refine (readFile_keepsTo configPath).bind fun result =>
        (orFail_keepsTo _ result).bind_idle fun bytes => ?_
      cases Json.ofBytes? PipelineConfig.decode bytes with
      | ok config => exact (log_keepsTo _ _).bind_idle fun _ => .pure _
      | error fault => exact .throw _

theorem loadMapping_keepsTo (path : Path) :
    tool.KeepsTo options [.read path] (MappingDocument.load path) := by
  refine (readFile_keepsTo path).bind fun result =>
    (orFail_keepsTo _ result).bind_idle fun bytes => ?_
  cases Json.ofBytes? MappingDocument.decode bytes with
  | ok document => exact (log_keepsTo _ _).bind_idle fun _ => .pure document
  | error fault => exact .throw _

theorem mergeDocuments_keepsTo (table : MappingTable) (documents : List Path) :
    tool.KeepsTo options (documents.map .read)
      (MappingTable.mergeDocuments MappingDocument.load table documents) := by
  induction documents generalizing table with
  | nil => exact .pure table
  | cons path rest ih =>
    refine (loadMapping_keepsTo path).bind fun document => ?_
    rcases table.merge path document with ⟨_ | conflict, next⟩
    · exact ih next
    · exact .throw _

theorem resolve_keepsTo (sourceRoot : Path) (documents : List Path) (urns : List String) :
    tool.KeepsTo options (documents.map .read)
      (Pipewright.resolve MappingDocument.load sourceRoot documents urns) := by
  unfold Pipewright.resolve
  by_cases h : documents = []
  · rw [if_pos h]
    exact .throw _
  · rw [if_neg h]
    exact (mergeDocuments_keepsTo .empty documents).then_idle fun table => .mk_pure _

variable (tool options) in
/-- How loading a configuration and resolving its URNs can end. -/
inductive Resolves (configPath : Path) (start : World) :
    Except Failure ResolvedPipeline → World → Prop
  /-- The configuration cannot be loaded. -/
  | unloaded {failure : Failure} {effects : List Effect} {after : World} :
      LoadedConfig.onDisk start.disk configPath = .error failure →
      effects <+: loadEffects configPath → tool.Leads options start effects after →
      Resolves configPath start (.error failure) after
  /-- The URNs cannot be resolved. -/
  | unresolved {config : LoadedConfig} {failure : Failure} {read : List Path} {after : World} :
      LoadedConfig.onDisk start.disk configPath = .ok config →
      FailsFirst start options.sources config.config.urns failure → read <+: options.sources →
      tool.Leads options start (loadEffects configPath ++ read.map .read) after →
      Resolves configPath start (.error failure) after
  /-- Every URN is resolved. -/
  | resolved {config : LoadedConfig} {uris : List String} {after : World} :
      LoadedConfig.onDisk start.disk configPath = .ok config →
      ResolvesTo start options.sources config.config.urns uris →
      tool.Leads options start (loadEffects configPath ++ options.sources.map .read) after →
      Resolves configPath start
        (.ok ⟨config, config.config.urns,
          uris.map fun uri => ⟨uri, "", tool.settings.layout.sourceRoot options.workspace⟩⟩) after

variable (tool options) in
/-- Loading and resolving only look, one document after the other. -/
theorem resolve_resolves (configPath : Path) (start : World) :
    let run := (tool.resolve configPath options.sources options.workspace).runOn start
    tool.Resolves options configPath start run.1 run.2 := by
  simp only [Tool.resolve]
  obtain ⟨effects, hprefix, hleads, hall⟩ :=
    stage_keepsTo (load_keepsTo configPath : tool.KeepsTo options _ _) start
  obtain ⟨hresult, -⟩ := LoadedConfig.load_answers configPath start (.refl start)
  have hquiet := stage_moves (Answers.moves fun _ => LoadedConfig.load_answers configPath) id start
  rw [← runOn_stage_fst] at hresult
  rcases hload : (stage (LoadedConfig.load configPath)).runOn start with ⟨failure | config, loaded⟩
  · rw [hload] at hresult hleads
    rw [runOn_bind_error hload]
    exact .unloaded hresult.symm hprefix hleads
  rw [hload] at hresult hleads hall hquiet
  obtain rfl := hall config rfl
  rw [runOn_bind_ok hload]
  obtain ⟨reads, hreads, hreadLeads, hreadAll⟩ := stage_keepsTo (resolve_keepsTo
    (tool.settings.layout.sourceRoot options.workspace) options.sources
    config.config.urns : tool.KeepsTo options _ _) loaded
  have houtcome := resolve_run loaded (tool.settings.layout.sourceRoot options.workspace)
    options.sources config.config.urns
  -- loading changes no file, so the documents say what they said at the start
  have hdisk : start.disk = loaded.disk := hquiet.disk_eq.symm
  rw [← runOn_stage_fst] at houtcome
  rcases hrun : (stage (Pipewright.resolve MappingDocument.load
    (tool.settings.layout.sourceRoot options.workspace) options.sources
    config.config.urns)).runOn loaded with ⟨failure | packages, resolved⟩
  · rw [hrun] at houtcome hreadLeads
    rw [runOn_bind_error hrun]
    obtain ⟨read, hread, rfl⟩ := List.prefix_map_iff.1 hreads
    rcases houtcome with ⟨uris, -, hok⟩ | ⟨first, hfirst, herror⟩
    · cases hok
    · cases herror
      exact .unresolved hresult.symm (hfirst.of_disk_eq hdisk) hread (hleads.trans hreadLeads)
  · rw [hrun] at houtcome hreadLeads hreadAll
    obtain rfl := hreadAll packages rfl
    rw [runOn_bind_ok hrun]
    rcases houtcome with ⟨uris, huris, hok⟩ | ⟨first, -, herror⟩
    · cases hok
      have hlogged := (World.Logs.refl resolved).record .debug .resolution
      have hresolves : ∀ {after}, resolved.Logs after →
          tool.Resolves options configPath start _ after := fun hlogs =>
        .resolved hresult.symm (huris.of_disk_eq hdisk) ((hleads.trans hreadLeads).logs hlogs)
      cases config.config.urns.isEmpty with
      | true => exact hresolves ((World.Logs.refl resolved).record .info .resolution)
      | false => exact hresolves (hlogged.record .info .resolution)
    · cases herror

/-! ## Fetching -/

/-- The package with the revision that its pin names, if it has one. -/
def pin (options : CreateOptions) (package : Package) : Package :=
  { package with revision := (Dictionary.get? package.uri options.pins).getD package.revision }

theorem applyPins_eq (packages : List Package) :
    applyPins options.pins packages = packages.map (pin options) := by
  refine List.map_congr_left fun package _ => ?_
  unfold Package.pinned pin
  cases Dictionary.get? package.uri options.pins <;> rfl

variable (tool options) in
/-- The fetcher is called on the package, and fails; nothing is done after that. -/
def FetchFails (package : Package) (failure : Failure) (world after : World) : Prop :=
  ∃ fetcher failed, tool.activeFetcher options = some fetcher ∧
    (fetcher package options.updatePackages).runOn (world.note (fetchEffect options package)) =
      (.error failure, failed) ∧ failed.Logs after

/-- Packages are fetched in their order, all of them, or up to the first that cannot be. -/
theorem fetchEach_run {fetcher : Fetcher World}
    (hactive : tool.activeFetcher options = some fetcher) {packages : List Package}
    (hroot : ∀ package ∈ packages,
      package.sourceRoot = tool.settings.layout.sourceRoot options.workspace) (world : World) :
    let run := (fetchEach (noted fetcher) options.updatePackages packages).runOn world
    (run.1 = .ok () ∧ tool.Leads options world (packages.map (fetchEffect options)) run.2) ∨
    ∃ done package rest before failure, packages = done ++ package :: rest ∧
      tool.Leads options world (done.map (fetchEffect options)) before ∧
      tool.FetchFails options package failure before run.2 ∧ run.1 = .error failure := by
  -- each call begins in the world that the one before it left
  induction packages generalizing world with
  | nil => exact .inl ⟨rfl, .refl world⟩
  | cons package rest ih =>
    rw [List.forall_mem_cons] at hroot
    have hcall : (noted fetcher package options.updatePackages).runOn world =
        (fetcher package options.updatePackages).runOn
          (world.note (fetchEffect options package)) := rfl
    rcases hrun : (fetcher package options.updatePackages).runOn
      (world.note (fetchEffect options package)) with ⟨failure | ⟨⟩, fetched⟩
    · rw [fetchEach, runOn_bind_error (hcall.trans hrun)]
      exact .inr ⟨[], package, rest, world, failure, rfl, .refl world,
        ⟨fetcher, fetched, hactive, hrun, .refl fetched⟩, rfl⟩
    · rw [fetchEach, runOn_bind_ok (hcall.trans hrun)]
      have hfirst : tool.Leads options world [fetchEffect options package] fetched :=
        (Step.fetch hactive hroot.1 hrun).leads (.refl fetched)
      rcases ih hroot.2 fetched with ⟨hok, hleads⟩ |
        ⟨done, other, later, before, failure, rfl, hleads, hfails, herror⟩
      · exact .inl ⟨hok, hfirst.trans hleads⟩
      · exact .inr ⟨package :: done, other, later, before, failure, rfl, hfirst.trans hleads,
          hfails, herror⟩

theorem FetchFails.logs {package : Package} {failure : Failure} {world middle after : World}
    (h : tool.FetchFails options package failure world middle) (hlogs : middle.Logs after) :
    tool.FetchFails options package failure world after := by
  obtain ⟨fetcher, failed, hactive, hcall, hfailed⟩ := h
  exact ⟨fetcher, failed, hactive, hcall, hfailed.trans hlogs⟩

variable (tool) in
/-- The stage of fetching calls the fetcher on the packages with their pins. -/
theorem fetch_run (hget : options.getPackages = true) {packages : List Package}
    (hroot : ∀ package ∈ packages,
      package.sourceRoot = tool.settings.layout.sourceRoot options.workspace) (world : World) :
    let run := (stage (tool.fetch options packages)).runOn world
    (run.1 = .ok (packages.map (pin options)) ∧
      tool.Leads options world ((packages.map (pin options)).map (fetchEffect options)) run.2) ∨
    ∃ done package rest before failure, packages.map (pin options) = done ++ package :: rest ∧
      tool.Leads options world (done.map (fetchEffect options)) before ∧
      tool.FetchFails options package failure before run.2 ∧ run.1 = .error failure := by
  generalize hfetcher : tool.fetcher.getD (goFetcher tool.host (tool.toolchain options.workspace)) =
    fetcher
  have hactive : tool.activeFetcher options = some fetcher := by
    rw [← hfetcher]
    exact if_pos hget
  have hpinned : ∀ package ∈ packages.map (pin options),
      package.sourceRoot = tool.settings.layout.sourceRoot options.workspace := by
    simpa [pin] using hroot
  have hfetch := fetchEach_run hactive hpinned world
  simp only [runOn_stage, Tool.fetch, fetchAll, applyPins_eq, hfetcher, bind_assoc, pure_bind]
  rcases hrun : (fetchEach (noted fetcher) options.updatePackages
    (packages.map (pin options))).runOn world with ⟨failure | ⟨⟩, fetched⟩
  · rw [hrun] at hfetch
    rw [runOn_bind_error hrun]
    rcases hfetch with ⟨hok, -⟩ |
      ⟨done, package, rest, before, first, hsplit, hleads, hfails, herror⟩
    · cases hok
    · cases herror
      exact .inr ⟨done, package, rest, before, failure, hsplit, hleads,
        hfails.logs ((World.Logs.refl fetched).record _ _), rfl⟩
  · rw [hrun] at hfetch
    rw [runOn_bind_ok hrun]
    rcases hfetch with ⟨-, hleads⟩ | ⟨_, _, _, _, _, _, _, _, herror⟩
    · exact .inl ⟨rfl, hleads.logs ((World.Logs.refl fetched).record .info .fetching)⟩
    · cases herror

/-! ## The stages in order -/

variable (tool options) in
/-- How the stages before rendering can end. -/
inductive Gathers (configPath : Path) (start : World) :
    Except Failure ResolvedPipeline → World → Prop
  /-- The options are refused before anything is looked at. -/
  | refused {failure : Failure} {after : World} :
      options.validate = .error failure → tool.Leads options start [] after →
      Gathers configPath start (.error failure) after
  | unresolved {failure : Failure} {after : World} :
      options.validate = .ok () → tool.Resolves options configPath start (.error failure) after →
      Gathers configPath start (.error failure) after
  /-- A package cannot be fetched: those before it are, and those behind it are left. -/
  | unfetched {pipeline : ResolvedPipeline} {done rest : List Package} {package : Package}
      {failure : Failure} {resolved before after : World} :
      options.validate = .ok () → tool.Resolves options configPath start (.ok pipeline) resolved →
      options.getPackages = true →
      pipeline.packages.map (pin options) = done ++ package :: rest →
      tool.Leads options resolved (done.map (fetchEffect options)) before →
      tool.FetchFails options package failure before after →
      Gathers configPath start (.error failure) after
  | fetched {pipeline : ResolvedPipeline} {resolved after : World} :
      options.validate = .ok () → tool.Resolves options configPath start (.ok pipeline) resolved →
      options.getPackages = true →
      tool.Leads options resolved
        ((pipeline.packages.map (pin options)).map (fetchEffect options)) after →
      Gathers configPath start
        (.ok { pipeline with packages := pipeline.packages.map (pin options) }) after
  /-- The packages are only given their revisions. -/
  | unasked {pipeline : ResolvedPipeline} {resolved after : World} :
      options.validate = .ok () → tool.Resolves options configPath start (.ok pipeline) resolved →
      options.getPackages = false → tool.Leads options resolved [] after →
      Gathers configPath start
        (.ok { pipeline with packages := pipeline.packages.map (pin options) }) after

/-- When all these stages succeed, the configuration is the one on the disk, and the packages are
    those of its URNs, with their pins. -/
theorem Gathers.ok {configPath : Path} {start after : World} {pipeline : ResolvedPipeline}
    (h : tool.Gathers options configPath start (.ok pipeline) after) :
    options.validate = .ok () ∧ ∃ config uris,
      LoadedConfig.onDisk start.disk configPath = .ok config ∧
      ResolvesTo start options.sources config.config.urns uris ∧
      pipeline = ⟨config, config.config.urns, uris.map fun uri =>
        pin options ⟨uri, "", tool.settings.layout.sourceRoot options.workspace⟩⟩ := by
  have hresolved : ∀ {resolved : World} {first : ResolvedPipeline},
      tool.Resolves options configPath start (.ok first) resolved → ∃ config uris,
        LoadedConfig.onDisk start.disk configPath = .ok config ∧
        ResolvesTo start options.sources config.config.urns uris ∧
        { first with packages := first.packages.map (pin options) } =
          (⟨config, config.config.urns, uris.map fun uri =>
            pin options ⟨uri, "", tool.settings.layout.sourceRoot options.workspace⟩⟩ :
            ResolvedPipeline) := by
    intro resolved first hresolves
    cases hresolves with
    | resolved hload huris _ => exact ⟨_, _, hload, huris, by simp⟩
  cases h with
  | fetched hvalid hresolves _ _ => exact ⟨hvalid, hresolved hresolves⟩
  | unasked hvalid hresolves _ _ => exact ⟨hvalid, hresolved hresolves⟩

/-- The packages that are resolved have no revision yet. -/
theorem Resolves.packages_latest {configPath : Path} {start resolved : World}
    {pipeline : ResolvedPipeline}
    (h : tool.Resolves options configPath start (.ok pipeline) resolved) :
    ∀ package ∈ pipeline.packages, package.revision = "" ∧
      package.sourceRoot = tool.settings.layout.sourceRoot options.workspace := by
  cases h with
  | resolved => simp

theorem runOn_validate_ok (h : options.validate = .ok ()) (world : World) :
    (stage (ExceptT.mk (pure options.validate)) : Job Unit).runOn world = (.ok (), world) := by
  rw [h]
  rfl

/-- Behind resolution the packages get their pins, and are fetched if need be. -/
theorem gather_resolved {configPath : Path} {start resolved : World} {pipeline : ResolvedPipeline}
    (hvalid : options.validate = .ok ())
    (hresolve : (tool.resolve configPath options.sources options.workspace).runOn start =
      (.ok pipeline, resolved)) :
    let packages := pipeline.packages.map (pin options)
    (∃ after,
      (tool.gather configPath options).runOn start = (.ok { pipeline with packages }, after) ∧
      tool.Leads options resolved
        (if options.getPackages then packages.map (fetchEffect options) else []) after) ∨
    options.getPackages = true ∧ ∃ done package rest failure before after,
      packages = done ++ package :: rest ∧
      tool.Leads options resolved (done.map (fetchEffect options)) before ∧
      tool.FetchFails options package failure before after ∧
      (tool.gather configPath options).runOn start = (.error failure, after) := by
  unfold Tool.gather
  rw [runOn_bind_ok (runOn_validate_ok hvalid start), runOn_bind_ok hresolve]
  cases hget : options.getPackages with
  | false =>
    simp only [Bool.false_eq_true, if_false, applyPins_eq]
    exact .inl ⟨resolved, rfl, .refl resolved⟩
  | true =>
    have hresolves := tool.resolve_resolves options configPath start
    rw [hresolve] at hresolves
    have hfetch := tool.fetch_run hget
      (fun package hpackage => (hresolves.packages_latest package hpackage).2) resolved
    simp only [if_true]
    rcases hrun : (stage (tool.fetch options pipeline.packages)).runOn resolved with
      ⟨failure | packages, after⟩
    · rw [hrun] at hfetch
      rw [runOn_bind_error hrun]
      rcases hfetch with ⟨hok, -⟩ |
        ⟨done, package, rest, before, first, hsplit, hleads, hfails, herror⟩
      · cases hok
      · cases herror
        exact .inr ⟨trivial, done, package, rest, failure, before, after, hsplit, hleads, hfails,
          rfl⟩
    · rw [hrun] at hfetch
      rw [runOn_bind_ok hrun]
      rcases hfetch with ⟨hok, hleads⟩ | ⟨_, _, _, _, _, _, _, _, herror⟩
      · cases hok
        exact .inl ⟨after, rfl, hleads⟩
      · cases herror

variable (tool options) in
theorem gather_gathers (configPath : Path) (start : World) :
    let run := (tool.gather configPath options).runOn start
    tool.Gathers options configPath start run.1 run.2 := by
  intro run
  cases hvalid : options.validate with
  | error failure =>
    have hrefused : (stage (ExceptT.mk (pure options.validate)) : Job Unit).runOn start =
        (.error failure, start.record .error .logging) := by
      rw [hvalid]
      rfl
    have hrun : run = (.error failure, _) := runOn_bind_error hrefused
    rw [hrun]
    exact .refused hvalid (.idle ((World.Logs.refl start).record _ _))
  | ok valid =>
    have hresolves := tool.resolve_resolves options configPath start
    rcases hresolve : (tool.resolve configPath options.sources options.workspace).runOn start with
      ⟨failure | pipeline, resolved⟩
    · rw [hresolve] at hresolves
      have hrun : run = (.error failure, resolved) :=
        (runOn_bind_ok (runOn_validate_ok hvalid start)).trans (runOn_bind_error hresolve)
      rw [hrun]
      exact .unresolved hvalid hresolves
    · rw [hresolve] at hresolves
      rcases gather_resolved hvalid hresolve with ⟨after, hrun, hleads⟩ |
        ⟨hget, done, package, rest, failure, before, after, hsplit, hleads, hfails, hrun⟩
      · change run = _ at hrun
        rw [hrun]
        cases hget : options.getPackages with
        | true =>
          rw [hget, if_pos rfl] at hleads
          exact .fetched hvalid hresolves hget hleads
        | false =>
          rw [hget] at hleads
          exact .unasked hvalid hresolves hget hleads
      · change run = _ at hrun
        rw [hrun]
        exact .unfetched hvalid hresolves hget hsplit hleads hfails

end Tool

end Pipewright
