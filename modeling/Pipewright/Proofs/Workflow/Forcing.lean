import Pipewright.Proofs.Project.Data
import Pipewright.Proofs.Workflow.Creation
import Pipewright.Proofs.Workflow.Offline

set_option autoImplicit false

/-! # Forcing

A creation is run twice from one world, without and with leave to overwrite. Up to the look at the
directory of the project the two runs are one, for nothing before it asks for that leave; behind it
they differ in one datum of the template. No failure but the refusal of a project that is there can
be overcome by forcing (`Tool.gather_lasting`, `survey_lasting`, `make_lasting`), so
**forcing changes exactly the creations that fail with such a failure** (`forcing_decides`). -/

namespace Pipewright

open Pipewright.Action Project

/-! ## Failures of gathering -/

theorem stage_failsWith {α : Type} {P : Failure → Prop} {action : Job α}
    (h : action.FailsWith P) : (stage action).FailsWith P := by
  intro world failure hfailure
  rw [runOn_stage_fst] at hfailure
  exact h world failure hfailure

theorem CreateOptions.validate_lasting {options : CreateOptions} {failure : Failure}
    (h : options.validate = .error failure) : IsLasting failure := by
  unfold validate at h
  by_cases hworkspace : options.workspace = ""
  · rw [if_pos hworkspace] at h
    cases h
    rfl
  by_cases hsources : options.sources = []
  · rw [if_neg hworkspace, if_pos hsources] at h
    cases h
    rfl
  rw [if_neg hworkspace, if_neg hsources] at h
  cases hname : templateNameFault? options.templateName with
  | some fault =>
    rw [hname] at h
    cases h
    rfl
  | none =>
    rw [hname] at h
    by_cases hpath : options.projectPath = ""
    · rw [if_pos hpath] at h
      cases h
      rfl
    rw [if_neg hpath] at h
    cases hpins : brokenPin? options.pins with
    | some package =>
      rw [hpins] at h
      cases h
      rfl
    | none =>
      rw [hpins] at h
      cases h

theorem orFail_lasting {α : Type} {fail : Errno → Failure} (hfail : ∀ e, IsLasting (fail e))
    (result : Except Errno α) : (Job.orFail fail result).FailsWith IsLasting := by
  cases result with
  | ok a => exact .pure a
  | error e => exact .throw (hfail e)

theorem LoadedConfig.load_lasting (path : Path) : (load path).FailsWith IsLasting := by
  unfold load
  by_cases hpath : path = ""
  · rw [if_pos hpath]
    exact .throw rfl
  rw [if_neg hpath]
  have hfail : ∀ e : Errno, IsLasting (.config path e.describe) := fun _ => rfl
  refine (FailsWith.of_ok fun _ => ⟨_, rfl⟩).bind fun found =>
    (orFail_lasting hfail found).bind fun node => ?_
  cases node with
  | directory | link _ | device => exact .throw rfl
  | file content isExecutable =>
    dsimp only
    cases Path.fileName? path with
    | none => exact .throw rfl
    | some fileName =>
      refine (FailsWith.of_ok fun _ => ⟨_, rfl⟩).bind fun read =>
        (orFail_lasting hfail read).bind fun bytes => ?_
      cases Json.ofBytes? PipelineConfig.decode bytes with
      | ok config => exact (log_failsWith _ _ _).bind fun _ => .pure _
      | error fault => exact .throw rfl

theorem mergeDocuments_lasting (table : MappingTable) (documents : List Path) :
    (MappingTable.mergeDocuments MappingDocument.load table documents).FailsWith IsLasting := by
  induction documents generalizing table with
  | nil => exact .pure table
  | cons path rest ih =>
    refine FailsWith.bind (fun world failure hfailure => ?_) fun document => ?_
    · rw [((MappingDocument.load_answers path) world (.refl world)).1] at hfailure
      obtain ⟨message, rfl⟩ := MappingDocument.onDisk_error hfailure
      rfl
    · rcases table.merge path document with ⟨_ | conflict, next⟩
      · exact ih next
      · exact .throw rfl

theorem resolve_lasting (sourceRoot : Path) (documents : List Path) (urns : List String) :
    (resolve MappingDocument.load sourceRoot documents urns).FailsWith IsLasting := by
  unfold resolve
  by_cases h : documents = []
  · rw [if_pos h]
    exact .throw rfl
  rw [if_neg h]
  refine (mergeDocuments_lasting .empty documents).bind fun table => ?_
  unfold MappingTable.resolve
  cases table.importPaths urns [] with
  | ok uris => exact .pure _
  | error urn => exact .throw rfl

/-- A failure of fetching, or a failed file operation. -/
def IsFetchOrIo (failure : Failure) : Prop :=
  (∃ package message, failure = .fetch package message) ∨ IsIo failure

theorem IsFetchOrIo.isLasting {failure : Failure} (h : IsFetchOrIo failure) :
    IsLasting failure := by
  rcases h with ⟨package, message, rfl⟩ | hio
  · rfl
  · exact hio.isLasting

theorem runFor_failsWith (host : Host) (package : Package) (invocation : Invocation) :
    (runFor host package invocation).FailsWith IsFetchOrIo := by
  refine (runCommand_failsWith _ _ _).bind fun result => ?_
  cases result with
  | ok _ => exact .pure _
  | error failure => exact .throw (.inl ⟨_, _, rfl⟩)

theorem goFetcher_failsWith (host : Host) (toolchain : Toolchain) (package : Package)
    (update : Bool) : (goFetcher host toolchain package update).FailsWith IsFetchOrIo := by
  have hrun := runFor_failsWith host package
  have hcheckout : ((if package.isPinned then do
      Job.log .info .fetching
      runFor host package (toolchain.checkout package.sourceDir package.revision)
    else pure ()) : Job Unit).FailsWith IsFetchOrIo := by
    split
    · exact (log_failsWith _ _ _).bind fun _ => hrun _
    · exact .pure ()
  refine (FailsWith.of_ok fun _ => ⟨_, rfl⟩).bind fun found =>
    ((orIo_failsWith _ found).imp fun _ => .inr).bind fun isPresent => ?_
  dsimp only
  split
  · exact (log_failsWith _ _ _).bind fun _ => (hrun _).bind fun _ => hcheckout
  · split
    · exact (log_failsWith _ _ _).bind fun _ => (hrun _).bind fun _ => hcheckout
    · exact (log_failsWith _ _ _).bind fun _ => hcheckout

/-- The tool's own fetcher, if it has one, does not fail but in fetching or in a file operation. -/
def Tool.FetcherFails (tool : Tool) : Prop :=
  ∀ fetcher, tool.fetcher = some fetcher →
    ∀ package update, (fetcher package update).FailsWith IsFetchOrIo

/-- Neither does the fetcher that packages are fetched with, the tool's own or the go tool. -/
theorem Tool.FetcherFails.fetcher {tool : Tool} (h : tool.FetcherFails) (toolchain : Toolchain)
    (package : Package) (update : Bool) :
    (tool.fetcher.getD (goFetcher tool.host toolchain) package update).FailsWith IsFetchOrIo := by
  cases hown : tool.fetcher with
  | none => exact goFetcher_failsWith _ _ package update
  | some own => exact h own hown package update

theorem fetchEach_lasting {fetcher : Fetcher World}
    (h : ∀ package update, (fetcher package update).FailsWith IsLasting) (update : Bool)
    (packages : List Package) :
    (fetchEach (noted fetcher) update packages).FailsWith IsLasting := by
  induction packages with
  | nil => exact .pure ()
  | cons package rest ih =>
    refine FailsWith.bind ?_ fun _ => ih
    exact (FailsWith.of_ok fun _ => ⟨(), rfl⟩).bind fun _ => h package update

theorem Tool.gather_lasting {tool : Tool} (hfetcher : tool.FetcherFails) (configPath : Path)
    (options : CreateOptions) : (tool.gather configPath options).FailsWith IsLasting := by
  have hactive : ∀ package update,
      (tool.fetcher.getD (goFetcher tool.host (tool.toolchain options.workspace)) package
        update).FailsWith IsLasting :=
    fun package update => (hfetcher.fetcher _ package update).imp fun _ => IsFetchOrIo.isLasting
  have hfetch : ∀ packages, (tool.fetch options packages).FailsWith IsLasting := fun packages =>
    ((fetchEach_lasting hactive _ _).bind fun _ => .pure _).bind fun _ =>
      (log_failsWith _ _ _).bind fun _ => .pure _
  refine (stage_failsWith (.mk_pure fun _ => CreateOptions.validate_lasting)).bind fun _ =>
    FailsWith.bind ?_ fun pipeline => ?_
  · refine (stage_failsWith (LoadedConfig.load_lasting _)).bind fun config =>
      (stage_failsWith (resolve_lasting _ _ _)).bind fun packages => ?_
    cases config.config.urns.isEmpty with
    | true => exact (log_failsWith _ _ _).bind fun _ => .pure _
    | false => exact (log_failsWith _ _ _).bind fun _ => (log_failsWith _ _ _).bind fun _ => .pure _
  · cases options.getPackages with
    | true => exact (stage_failsWith (hfetch _)).bind fun _ => .pure _
    | false => exact .pure _

/-! ## The two runs -/

/-- The options, with overwriting allowed or not. -/
def CreateOptions.forced (options : CreateOptions) (force : Bool) : CreateOptions :=
  { options with forceWrite := force }

/-- The project is rendered the same whether the data say that it may be overwritten or not. -/
def Project.Prepared.IgnoresForce (prepared : Prepared) : Prop :=
  ∀ force,
    Template.render prepared.template
        { prepared.data with options := prepared.data.options.forced force }.toJson =
      Template.render prepared.template prepared.data.toJson

/-- A template that looks nothing up on the way to the option ignores it. -/
theorem Project.Prepared.ignoresForce_of_avoids {prepared : Prepared}
    (h : ∀ lookup ∈ Template.reads prepared.template prepared.data.toJson,
      lookup.Avoids ["create_options", "force_write"]) : prepared.IgnoresForce :=
  fun force => Template.render_of_agreeOff (prepared.data.agreeOff_forceWrite force) h

/-- What a creation makes of a rendering. -/
def finished (pipeline : ResolvedPipeline) :
    Except Failure RenderedProject × World → Except Failure ProjectContext × World
  | (.ok project, after) => (.ok { pipeline, project }, after.record .info .workflow)
  | (.error failure, after) => (.error failure, after.record .error .logging)

section Runs

variable {tool : Tool} {configPath : Path} {options : CreateOptions}
  {overrides : Option Arguments} {start gathered : World} {pipeline : ResolvedPipeline}

variable (options) in
theorem runOn_createProject_ok
    (h : (tool.gather configPath options).runOn start = (.ok pipeline, gathered)) :
    (tool.createProject configPath options overrides).runOn start =
      finished pipeline ((Project.render tool.host tool.settings.layout
        (tool.toolchain options.workspace) options pipeline.packages pipeline.config
        overrides).runOn gathered) := by
  unfold Tool.createProject
  rw [runOn_bind_ok h, runOn_bind, runOn_stage]
  rcases (Project.render tool.host tool.settings.layout (tool.toolchain options.workspace) options
    pipeline.packages pipeline.config overrides).runOn gathered with ⟨failure | project, after⟩
  · rfl
  · rfl

variable (options) in
theorem runOn_createProject_error {failure : Failure}
    (h : (tool.gather configPath options).runOn start = (.error failure, gathered)) :
    (tool.createProject configPath options overrides).runOn start = (.error failure, gathered) := by
  unfold Tool.createProject
  rw [runOn_bind_error h]

theorem finished_lasting {run : Except Failure RenderedProject × World}
    (h : ∀ failure, run.1 = .error failure → IsLasting failure) (failure : Failure)
    (hfailure : (finished pipeline run).1 = .error failure) : IsLasting failure := by
  rcases run with ⟨other | project, after⟩
  · cases hfailure
    exact h failure rfl
  · cases hfailure

/-- The creation finds the project there: what it is made of could be read, and then, at this world,
    the directory of the project was. -/
def Tool.FindsProject (tool : Tool) (configPath : Path) (options : CreateOptions)
    (overrides : Option Arguments) (start : World) (pipeline : ResolvedPipeline) (surveyed : Survey)
    (read : World) : Prop :=
  (∃ gathered,
    (tool.gather configPath options).runOn start = (.ok pipeline, gathered) ∧
    (survey tool.settings.layout options pipeline.config overrides).runOn gathered =
      (.ok surveyed, read)) ∧
  Fetched (tool.activeFetcher options) start read ∧
  read.files.exists? read.directory (dirOf tool.settings.layout options) = .ok true

/-- Makes the project in spite of the one that is there. -/
def Tool.overwrite (tool : Tool) (options : CreateOptions) (pipeline : ResolvedPipeline)
    (surveyed : Survey) (read : World) : Except Failure ProjectContext × World :=
  let asked := read.note (.inspect (dirOf tool.settings.layout options))
  finished pipeline ((make tool.host tool.settings.layout (tool.toolchain options.workspace) options
    pipeline.packages pipeline.config surveyed).runOn (asked.record .warn .rendering))

theorem survey_moves (layout : LayoutSettings) (options : CreateOptions) (config : LoadedConfig)
    (overrides : Option Arguments) :
    (survey layout options config overrides).Moves World.Quiet := by
  have hname : (liftM (checkFileName config) : Job Unit).Moves World.Quiet := .mk_pure _
  have htemplate : ∀ path, (loadTemplate path).Moves World.Quiet := fun path =>
    Answers.moves fun _ => loadTemplate_answers path
  exact hname.bind fun _ => (Job.log_moves _ _).bind fun _ => (htemplate _).bind fun template =>
    (loadArguments_moves _).bind fun defaults => .pure _

section Found

variable {surveyed : Survey} {read : World}
  (h : tool.FindsProject configPath options overrides start pipeline surveyed read)

include h

theorem Tool.FindsProject.refused :
    ((tool.createProject configPath (options.forced false) overrides).runOn start).1 =
      .error (.projectExists (dirOf tool.settings.layout options)) := by
  obtain ⟨⟨gathered, hgather, hsurvey⟩, -, hexists⟩ := h
  have hrender := runOn_render_ok tool.host (tool.toolchain options.workspace)
    (options.forced false) pipeline.packages hsurvey
  have hdir : dirOf tool.settings.layout (options.forced false) =
      dirOf tool.settings.layout options := rfl
  rw [runOn_createProject_ok (options.forced false) hgather]
  simp only [hdir, hexists] at hrender
  exact congrArg (fun rendered => (finished pipeline rendered).1) hrender

theorem Tool.FindsProject.overwritten :
    (tool.createProject configPath (options.forced true) overrides).runOn start =
      tool.overwrite (options.forced true) pipeline surveyed read := by
  obtain ⟨⟨gathered, hgather, hsurvey⟩, -, hexists⟩ := h
  have hrender := runOn_render_ok tool.host (tool.toolchain options.workspace)
    (options.forced true) pipeline.packages hsurvey
  have hdir : dirOf tool.settings.layout (options.forced true) =
      dirOf tool.settings.layout options := rfl
  rw [runOn_createProject_ok (options.forced true) hgather]
  simp only [hdir, hexists] at hrender
  exact congrArg (finished pipeline) hrender

end Found

variable (tool options pipeline) in
/-- A template that ignores whether the project may be overwritten is made to the same project. -/
theorem runOn_make_forced {asked : World} {surveyed : Survey}
    (hignores : ∀ prepared after,
      (ready tool.settings.layout (options.forced false) pipeline.packages pipeline.config
        surveyed).runOn asked = (.ok prepared, after) → prepared.IgnoresForce) :
    (make tool.host tool.settings.layout (tool.toolchain options.workspace) (options.forced true)
      pipeline.packages pipeline.config surveyed).runOn asked =
    (make tool.host tool.settings.layout (tool.toolchain options.workspace) (options.forced false)
      pipeline.packages pipeline.config surveyed).runOn asked := by
  have hdir : ∀ force, dirOf tool.settings.layout (options.forced force) =
      dirOf tool.settings.layout options := fun _ => rfl
  unfold make
  simp only [runOn_bind, runOn_ready, hdir] at hignores ⊢
  generalize asked.files.makeDirectories asked.directory (dirOf tool.settings.layout options) =
    made at hignores ⊢
  rcases made with ⟨_ | ⟨⟩, files⟩
  · rfl
  · have hcomplete : complete tool.host (tool.toolchain options.workspace) pipeline.config
        (surveyed.prepared tool.settings.layout (options.forced true) pipeline.packages
          pipeline.config asked.clock) =
      complete tool.host (tool.toolchain options.workspace) pipeline.config
        (surveyed.prepared tool.settings.layout (options.forced false) pipeline.packages
          pipeline.config asked.clock) :=
      complete_congr rfl rfl (hignores _ _ rfl true)
    exact congrArg (Action.runOn · _) hcomplete

/-- Either whether overwriting is allowed makes no difference, or the project is there. -/
theorem createProject_forced (hfetcher : tool.FetcherFails)
    (hignores : ∀ prepared world, tool.ComesToRender configPath (options.forced false) overrides
      start prepared world → prepared.IgnoresForce) :
    let run := fun force =>
      (tool.createProject configPath (options.forced force) overrides).runOn start
    (run true = run false ∧ ∀ failure, (run false).1 = .error failure → IsLasting failure) ∨
    ∃ pipeline surveyed read,
      tool.FindsProject configPath options overrides start pipeline surveyed read ∧
      (run false).1 = .error (.projectExists (dirOf tool.settings.layout options)) ∧
      run true = tool.overwrite (options.forced true) pipeline surveyed read ∧
      ∀ failure, (run true).1 = .error failure → IsLasting failure := by
  intro run
  have hsame : ∀ {result}, (∀ force, run force = result) →
      (∀ failure, result.1 = .error failure → IsLasting failure) →
      run true = run false ∧ ∀ failure, (run false).1 = .error failure → IsLasting failure :=
    fun hrun hlasting => ⟨(hrun true).trans (hrun false).symm, (hrun false).symm ▸ hlasting⟩
  rcases hgather : (tool.gather configPath options).runOn start with ⟨failure | pipeline, gathered⟩
  · refine .inl (hsame (fun force => runOn_createProject_error (options.forced force) hgather) ?_)
    rintro _ ⟨⟩
    exact tool.gather_lasting hfetcher configPath options start failure (by rw [hgather])
  have hrun : ∀ force, run force = finished pipeline _ := fun force =>
    runOn_createProject_ok (options.forced force) hgather
  rcases hsurvey : (survey tool.settings.layout options pipeline.config overrides).runOn gathered
    with ⟨failure | surveyed, read⟩
  · have hrender : ∀ force, run force = finished pipeline (.error failure, read) := fun force => by
      rw [hrun force, runOn_render_error _ _ (options.forced force) _ hsurvey]
    refine .inl (hsame hrender ?_)
    rintro _ ⟨⟩
    exact survey_lasting _ _ _ _ gathered failure (by rw [hsurvey])
  have hprepare := fun force =>
    runOn_prepare_ok (options.forced force) pipeline.packages hsurvey
  have hrender := fun force =>
    runOn_render_ok tool.host (tool.toolchain options.workspace) (options.forced force)
      pipeline.packages hsurvey
  have hdir : ∀ force, dirOf tool.settings.layout (options.forced force) =
      dirOf tool.settings.layout options := fun _ => rfl
  simp only [hdir] at hprepare hrender
  cases hexists : read.files.exists? read.directory (dirOf tool.settings.layout options) with
  | error e =>
    rw [hexists] at hrender
    refine .inl (hsame (fun force => (hrun force).trans (congrArg _ (hrender force))) ?_)
    rintro _ ⟨⟩
    rfl
  | ok isThere =>
    cases isThere with
    | false =>
      rw [hexists] at hprepare hrender
      have hmake : ∀ force, run force = finished pipeline _ := fun force =>
        (hrun force).trans (congrArg _ (hrender force))
      have hforced := runOn_make_forced tool options pipeline fun prepared after hready =>
        hignores prepared after ⟨pipeline, gathered, hgather, (hprepare false).trans hready⟩
      have htrue : run true = run false :=
        (hmake true).trans ((congrArg (finished pipeline) hforced).trans (hmake false).symm)
      refine .inl (hsame (Bool.forall_bool.mpr ⟨rfl, htrue⟩) ?_)
      rw [hmake false]
      exact finished_lasting fun failure => make_lasting _ _ _ _ _ _ _ _ failure
    | true =>
      have hfetched := tool.gather_moves configPath options start
      rw [hgather] at hfetched
      have hquiet := survey_moves tool.settings.layout options pipeline.config overrides gathered
      rw [hsurvey] at hquiet
      have hfinds : tool.FindsProject configPath options overrides start pipeline surveyed read :=
        ⟨⟨gathered, hgather, hsurvey⟩, hfetched.then_quiet hquiet, hexists⟩
      have hover : run true = tool.overwrite (options.forced true) pipeline surveyed read :=
        hfinds.overwritten
      refine .inr ⟨pipeline, surveyed, read, hfinds, hfinds.refused, hover, fun other hother => ?_⟩
      rw [hover] at hother
      exact finished_lasting (fun failure => make_lasting _ _ _ _ _ _ _ _ failure) other hother

/-- **What forcing decides.** Where the project is rendered the same whether it may be overwritten
    or not, allowing it changes only a creation that finds the project there. A creation that
    succeeds, or fails with a failure that forcing does not overcome, is the same run either way.
    One that fails with a failure that forcing overcomes has found the project; with overwriting
    allowed the project is made from there on, and such a failure does not come again. -/
theorem forcing_decides (hfetcher : tool.FetcherFails)
    (hignores : ∀ prepared world, tool.ComesToRender configPath (options.forced false) overrides
      start prepared world → prepared.IgnoresForce) :
    let run := fun force =>
      (tool.createProject configPath (options.forced force) overrides).runOn start
    (∀ context, (run false).1 = .ok context → run true = run false) ∧
    ∀ failure, (run false).1 = .error failure →
      (failure.isRecoverable = false → run true = run false) ∧
      (failure.isRecoverable = true →
        (∃ pipeline surveyed read,
          tool.FindsProject configPath options overrides start pipeline surveyed read ∧
          failure = .projectExists (dirOf tool.settings.layout options) ∧
          run true = tool.overwrite (options.forced true) pipeline surveyed read) ∧
        ∀ later, (run true).1 = .error later → later.isRecoverable = false) ∧
      (failure.isRecoverable = true ↔ (run true).1 ≠ (run false).1) := by
  intro run
  rcases createProject_forced hfetcher hignores with
    ⟨hsame, hlasting⟩ | ⟨pipeline, surveyed, read, hfinds, hrefused, hover, hlasting⟩
  · refine ⟨fun _ _ => hsame, fun failure hfailure => ?_⟩
    have hkept : failure.isRecoverable = false := hlasting failure hfailure
    refine ⟨fun _ => hsame, fun hrecoverable => ?_, fun hrecoverable => ?_, fun hchanged => ?_⟩
    · rw [hkept] at hrecoverable
      cases hrecoverable
    · rw [hkept] at hrecoverable
      cases hrecoverable
    · exact absurd (congrArg Prod.fst hsame) hchanged
  · refine ⟨fun context hcontext => ?_, fun failure hfailure => ?_⟩
    · rw [hrefused] at hcontext
      cases hcontext
    · obtain rfl : failure = .projectExists _ := Except.error.inj (hfailure.symm.trans hrefused)
      refine ⟨nofun, fun _ => ⟨⟨pipeline, surveyed, read, hfinds, rfl, hover⟩, hlasting⟩,
        fun _ hsame => ?_, fun _ => rfl⟩
      -- a failure that forcing does not overcome is not the one that it does
      have hlast := hlasting _ (hsame.trans hrefused)
      cases hlast

end Runs

/-- A project that is there is refused, and no longer when overwriting is allowed; its template
    looks up where the configuration lies and what the arguments are. -/
theorem forcing_decides_revisited :
    let run := fun force =>
      (Revisited.tool.createProject "/a" (Revisited.options force) none).runOn Revisited.start
    (run false).1 = .error (.projectExists "/w/src/p") ∧ (run true).1 ≠ (run false).1 ∧
      ∀ later, (run true).1 = .error later → later.isRecoverable = false := by
  intro run
  obtain ⟨config, hpipeline⟩ := Revisited.gathers false
  have hget : (Revisited.options false).getPackages = false := rfl
  obtain ⟨hgather, hquiet⟩ :=
    Revisited.tool.gather_answers "/a" hget Revisited.start _ (.refl _)
  obtain ⟨hsurvey, hread⟩ := survey_answers Revisited.tool.settings.layout (Revisited.options false)
    ⟨config, "/a", "a", Revisited.nothing⟩ none _ hquiet
  rw [Revisited.surveys] at hsurvey
  rw [hpipeline] at hgather
  have hexists := Revisited.exists_dir false
  rw [← hread.files_eq, ← hread.directory_eq] at hexists
  have hfinds : Revisited.tool.FindsProject "/a" (Revisited.options false) none Revisited.start
      _ _ _ :=
    ⟨⟨_, Prod.ext hgather rfl, Prod.ext hsurvey rfl⟩, .idle hread, hexists⟩
  have hdir : dirOf Revisited.tool.settings.layout (Revisited.options false) = "/w/src/p" := by
    decide +kernel
  have hrefused : (run false).1 = .error (.projectExists "/w/src/p") := by
    rw [← hdir]
    exact hfinds.refused
  have hignores : ∀ prepared world, Revisited.tool.ComesToRender "/a"
      ((Revisited.options false).forced false) none Revisited.start prepared world →
        prepared.IgnoresForce := by
    intro prepared world hcomes
    rw [Revisited.prepared_eq hcomes]
    exact Project.Prepared.ignoresForce_of_avoids (Revisited.avoids false (by decide))
  have hfetcher : Revisited.tool.FetcherFails := nofun
  obtain ⟨-, hfails⟩ := forcing_decides hfetcher hignores
  obtain ⟨-, hlasting, hchanged⟩ := hfails _ hrefused
  exact ⟨hrefused, hchanged.1 rfl, (hlasting rfl).2⟩

end Pipewright
