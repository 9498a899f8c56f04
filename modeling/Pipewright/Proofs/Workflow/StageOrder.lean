import Pipewright.Proofs.Workflow.Stages

set_option autoImplicit false

/-! # The order of the stages

**One stage after the other.** Creating a project validates, loads, resolves, fetches and renders,
and running it builds and launches as well, each only when all before it succeeded, and the failure
of the first stage that fails is that of the whole (`stages_in_order`). What each stage does to the
world is given by its effects, whatever the fetcher and the programs do in between. -/

namespace Pipewright

open Pipewright.Action Project

namespace Tool

variable {tool : Tool} {options : CreateOptions}

/-! ## Rendering -/

variable (tool options) in
/-- The effects of preparing a project. -/
def prepareEffects : List Effect :=
  let paths := tool.settings.layout.templatePaths options
  let dir := dirOf tool.settings.layout options
  [.read paths.template, .read paths.arguments, .inspect dir, .makeDirectories dir]

variable (tool options) in
/-- The effects of writing a project, given the text of its source file. -/
def completeEffects (config : LoadedConfig) (text : String) : List Effect :=
  let dir := dirOf tool.settings.layout options
  let source := Path.join dir entryPoint
  [.write source (Text.Utf8.encode text), .write (Path.join dir config.fileName) config.bytes,
    .command ((tool.toolchain options.workspace).format source)]

theorem loadTemplate_keepsTo (path : Path) :
    tool.KeepsTo options [.read path] (loadTemplate path) := by
  refine (readFile_keepsTo path).then_idle fun result => ?_
  cases result with
  | error e => exact .throw _
  | ok bytes =>
    simp only
    cases Text.Utf8.decode? bytes with
    | none => exact .throw _
    | some text =>
      simp only
      cases Template.parse text with
      | ok template => exact .pure template
      | error fault => exact .throw _

theorem loadArguments_keepsTo (path : Path) :
    tool.KeepsTo options [.read path] (loadArguments path) := by
  refine (readFile_keepsTo path).then_idle fun result => ?_
  cases result with
  | error e =>
    simp only
    split
    · exact .pure _
    · exact .throw _
  | ok bytes =>
    simp only
    split
    · exact .pure _
    · exact .throw _
    · exact .throw _

theorem prepareDirectory_keepsTo (dir : Path) (force : Bool) :
    tool.KeepsTo options [.inspect dir, .makeDirectories dir] (prepareDirectory dir force) := by
  have hmake : tool.KeepsTo options [.makeDirectories dir]
      (do Job.orIo dir (← Job.makeDirectories dir) : Job Unit) :=
    (makeDirectories_keepsTo dir).then_idle fun result => orFail_keepsTo _ result
  refine (fileExists_keepsTo dir).bind fun result =>
    KeepsTo.bind_idle (orFail_keepsTo _ result) fun isPresent => ?_
  cases isPresent with
  | false => exact hmake
  | true =>
    cases force with
    | false => exact .throw _
    | true => exact (log_keepsTo _ _).bind_idle fun _ => hmake

variable (tool options) in
theorem prepare_keepsTo (packages : List Package) (config : LoadedConfig)
    (overrides : Option Arguments) :
    tool.KeepsTo options (tool.prepareEffects options)
      (prepare tool.settings.layout options packages config overrides) := by
  have hname : tool.KeepsTo options [] (liftM (checkFileName config) : Job Unit) :=
    KeepsTo.mk_pure (checkFileName config)
  refine hname.bind_idle fun _ => (log_keepsTo _ _).bind_idle fun _ =>
    (loadTemplate_keepsTo _).bind fun template => (loadArguments_keepsTo _).bind fun defaults =>
      (prepareDirectory_keepsTo _ _).then_idle fun _ => ?_
  exact fun world => ⟨[], List.prefix_rfl, .refl world, fun _ _ => rfl⟩

theorem complete_keepsTo (config : LoadedConfig) {prepared : Prepared} {text : String}
    (hdir : prepared.dir = dirOf tool.settings.layout options)
    (htext : Template.render prepared.template prepared.data.toJson = .ok text) :
    tool.KeepsTo options (tool.completeEffects options config text)
      (complete tool.host (tool.toolchain options.workspace) config prepared) := by
  unfold complete completeEffects
  rw [htext, hdir]
  refine (writeFile_keepsTo _ _).bind fun first =>
    KeepsTo.bind_idle (orFail_keepsTo _ first) fun _ =>
      (writeFile_keepsTo _ _).bind fun second =>
        KeepsTo.bind_idle (orFail_keepsTo _ second) fun _ =>
          (runCommand_keepsTo _).then_idle fun result => ?_
  cases result with
  | ok _ => exact (log_keepsTo _ _).bind_idle fun _ => .pure _
  | error _ =>
    exact (log_keepsTo _ _).bind_idle fun _ => (log_keepsTo _ _).bind_idle fun _ => .pure _

variable (tool options) in
/-- Rendering takes its steps in order, all of them if it succeeds. -/
theorem render_leads (packages : List Package) (config : LoadedConfig)
    (overrides : Option Arguments) (world : World) :
    let run := (render tool.host tool.settings.layout (tool.toolchain options.workspace) options
      packages config overrides).runOn world
    ∃ text effects,
      effects <+: tool.prepareEffects options ++ tool.completeEffects options config text ∧
      tool.Leads options world effects run.2 ∧
      ∀ project, run.1 = .ok project →
        effects = tool.prepareEffects options ++ tool.completeEffects options config text := by
  simp only [render]
  obtain ⟨effects, hprefix, hleads, hall⟩ :=
    tool.prepare_keepsTo options packages config overrides world
  rcases hprepare :
    (prepare tool.settings.layout options packages config overrides).runOn world with
    ⟨failure | prepared, middle⟩
  · rw [hprepare] at hleads
    rw [runOn_bind_error hprepare]
    exact ⟨"", effects, hprefix.trans (List.prefix_append _ _), hleads, fun _ herror => by
      cases herror⟩
  rw [hprepare] at hleads hall
  obtain rfl := hall prepared rfl
  rw [runOn_bind_ok hprepare]
  have hdir : prepared.dir = dirOf tool.settings.layout options := by
    obtain ⟨-, template, defaults, -, rfl⟩ := prepare_ok hprepare
    rfl
  -- without a text nothing is written, and the rest of the plan does not matter
  cases htext : Template.render prepared.template prepared.data.toJson with
  | error fault =>
    have hfails : (complete tool.host (tool.toolchain options.workspace) config prepared).runOn
        middle = (.error (.render prepared.templatePath fault.message), middle) := by
      unfold complete
      rw [htext]
      rfl
    rw [hfails]
    exact ⟨"", _, List.prefix_append _ _, hleads, fun _ herror => by cases herror⟩
  | ok text =>
    obtain ⟨more, hmore, hmoreLeads, hmoreAll⟩ := complete_keepsTo config hdir htext middle
    refine ⟨text, _, (List.prefix_append_right_inj _).2 hmore, hleads.trans hmoreLeads,
      fun project hok => ?_⟩
    rw [hmoreAll project hok]

/-! ## Creating -/

/-- How creating a project can end. -/
inductive Creates (tool : Tool) (configPath : Path) (options : CreateOptions)
    (overrides : Option Arguments) (start : World) : Except Failure ProjectContext → World → Prop
  /-- A stage before rendering fails, and the template is not looked at. -/
  | ungathered {failure : Failure} {after : World} :
      tool.Gathers options configPath start (.error failure) after →
      Creates tool configPath options overrides start (.error failure) after
  | unrendered {pipeline : ResolvedPipeline} {failure : Failure} {text : String}
      {effects : List Effect} {gathered rendered after : World} :
      tool.Gathers options configPath start (.ok pipeline) gathered →
      (render tool.host tool.settings.layout (tool.toolchain options.workspace) options
        pipeline.packages pipeline.config overrides).runOn gathered = (.error failure, rendered) →
      effects <+: tool.prepareEffects options ++
        tool.completeEffects options pipeline.config text →
      tool.Leads options gathered effects after →
      Creates tool configPath options overrides start (.error failure) after
  | created {pipeline : ResolvedPipeline} {project : RenderedProject} {text : String}
      {gathered rendered after : World} :
      tool.Gathers options configPath start (.ok pipeline) gathered →
      (render tool.host tool.settings.layout (tool.toolchain options.workspace) options
        pipeline.packages pipeline.config overrides).runOn gathered = (.ok project, rendered) →
      tool.Leads options gathered (tool.prepareEffects options ++
        tool.completeEffects options pipeline.config text) after →
      Creates tool configPath options overrides start (.ok ⟨pipeline, project⟩) after

variable (tool options) in
theorem createProject_creates (configPath : Path) (overrides : Option Arguments) (start : World) :
    let run := (tool.createProject configPath options overrides).runOn start
    tool.Creates configPath options overrides start run.1 run.2 := by
  simp only [Tool.createProject]
  have hgathers := tool.gather_gathers options configPath start
  rcases hgather : (tool.gather configPath options).runOn start with ⟨failure | pipeline, gathered⟩
  · rw [hgather] at hgathers
    rw [runOn_bind_error hgather]
    exact .ungathered hgathers
  rw [hgather] at hgathers
  rw [runOn_bind_ok hgather]
  obtain ⟨text, effects, hprefix, hleads, hall⟩ := tool.render_leads options
    pipeline.packages pipeline.config overrides gathered
  rcases hrender : (render tool.host tool.settings.layout (tool.toolchain options.workspace) options
    pipeline.packages pipeline.config overrides).runOn gathered with ⟨failure | project, rendered⟩
  · rw [hrender] at hleads
    rw [runOn_bind_error (runOn_stage_error hrender)]
    exact .unrendered hgathers hrender hprefix
      (hleads.logs ((World.Logs.refl rendered).record .error .logging))
  · rw [hrender] at hleads hall
    obtain rfl := hall project rfl
    rw [runOn_bind_ok (runOn_stage_ok hrender)]
    exact .created hgathers hrender
      (hleads.logs ((World.Logs.refl rendered).record .info .workflow))

/-! ## Building and launching -/

/-- How building a project can end. -/
inductive Builds (tool : Tool) (options : CreateOptions) (dir : Path) (start : World) :
    Except Failure Path → World → Prop
  /-- The directory of the project is not found. -/
  | lost {cause : IoCause} {after : World} :
      tool.Leads options start [.inspect dir] after →
      Builds tool options dir start (.error (.io dir cause)) after
  | unbuilt {place : Path} {message : String} {after : World} :
      tool.Leads options start
        [.inspect dir, .command ((tool.toolchain options.workspace).build place)] after →
      Builds tool options dir start (.error (.build place message)) after
  /-- The command that builds has succeeded. -/
  | built {place : Path} {completed : Completed} {before built after : World} :
      tool.Leads options start [.inspect dir] before →
      tool.host.run ((tool.toolchain options.workspace).build place)
        (before.note (.command ((tool.toolchain options.workspace).build place))) =
          (.ok completed, built) →
      completed.status.isSuccess = true → built.Logs after →
      Builds tool options dir start (.ok (Path.join place artifactName)) after

variable (tool options) in
theorem build_builds (dir : Path) (start : World) :
    let run := (tool.build options.workspace dir).runOn start
    tool.Builds options dir start run.1 run.2 := by
  simp only [Tool.build]
  have hinspect : (Job.canonical dir).runOn start =
      (.ok (start.files.canonical start.directory dir), start.note (.inspect dir)) := rfl
  have hfound : tool.Leads options start [.inspect dir] (start.note (.inspect dir)) :=
    (Step.inspect dir).leads (.refl _)
  rw [runOn_bind_ok hinspect]
  cases start.files.canonical start.directory dir with
  | error e => exact .lost hfound
  | ok place =>
    have hplace : (Job.orIo dir (.ok place : Except Errno Path)).runOn (start.note (.inspect dir)) =
        (.ok place, start.note (.inspect dir)) := rfl
    have hlog : (Job.log .info .building).runOn (start.note (.inspect dir)) =
        (.ok (), (start.note (.inspect dir)).record .info .building) := rfl
    rw [runOn_bind_ok hplace, runOn_bind_ok hlog]
    generalize hbegun : (start.note (.inspect dir)).record .info .building = begun
    have hbefore : tool.Leads options start [.inspect dir] begun :=
      hfound.logs (hbegun ▸ (World.Logs.refl _).record _ _)
    obtain ⟨logged, hlogged, hafter, hresult⟩ :=
      runCommand_run tool.host ((tool.toolchain options.workspace).build place) begun
    rw [runOn_bind_ok (Prod.ext hresult rfl)]
    have hcommand : tool.Leads options start
        [.inspect dir, .command ((tool.toolchain options.workspace).build place)] _ :=
      .step (hbefore.logs hlogged) (.command _) hafter
    rcases hrun : tool.host.run ((tool.toolchain options.workspace).build place)
      (logged.note (.command ((tool.toolchain options.workspace).build place))) with
      ⟨e | completed, built⟩
    · exact .unbuilt hcommand
    · simp only [Completed.result]
      rw [hrun] at hafter
      cases hsuccess : completed.status.isSuccess with
      | true => exact .built (hbefore.logs hlogged) hrun hsuccess hafter
      | false => exact .unbuilt hcommand

theorem Builds.logs {dir : Path} {start middle after : World} {result : Except Failure Path}
    (h : tool.Builds options dir start result middle) (hlogs : middle.Logs after) :
    tool.Builds options dir start result after := by
  cases h with
  | lost hleads => exact .lost (hleads.logs hlogs)
  | unbuilt hleads => exact .unbuilt (hleads.logs hlogs)
  | built hleads hrun hsuccess hbuilt => exact .built hleads hrun hsuccess (hbuilt.trans hlogs)

variable (tool options) in
/-- Launching is one step, whether the program can be started or not. -/
theorem launch_leads (artifact dir : Path) (world : World) :
    tool.Leads options world [.launch ⟨artifact, [], [], some dir⟩]
      ((launch tool.host artifact dir).runOn world).2 := by
  refine Step.leads (.launch _) ?_
  unfold launch
  generalize (⟨artifact, [], [], some dir⟩ : Invocation) = invocation
  have hnoted : (Job.update (World.note (.launch invocation))).runOn world =
      (.ok (), world.note (.launch invocation)) := rfl
  rw [runOn_bind_ok hnoted, runOn_bind_ok (runOn_get _)]
  rcases tool.host.start invocation (world.note (.launch invocation)) with ⟨e | process, launched⟩
  · exact .refl launched
  · exact (World.Logs.refl launched).record .info .building

/-- Behind a program that is watched the world is as the program leaves it at some time, but for the
    journal, which is the tool's own. -/
theorem superviseProcess_leaves (settings : SupervisorSettings) (process : StartedProgram)
    (requests : List (Nat × ShutdownSignal)) (closing : Option Nat) (world : World) :
    ∃ time, World.Logs { process.worldAt time with journal := world.journal }
      ((superviseProcess settings process requests closing).runOn world).2 := by
  have hlog : ∀ level world, (Job.log level .supervision).runOn world =
      (.ok (), world.record level .supervision) := fun _ _ => rfl
  unfold superviseProcess
  rw [runOn_bind_ok (hlog _ _)]
  rcases watchProcess settings.stopTimeout (.start process.pid)
    (process.wakes requests closing) with ⟨result, time⟩
  refine ⟨time, ?_⟩
  simp only
  rw [runOn_bind_ok (hlog _ _), runOn_bind_ok (runOn_get _), runOn_bind_ok (runOn_set _ _)]
  cases process.requests.any (·.1 ≤ time) <;> cases result with
  | watching watch => rfl
  | failed failure => rfl
  | ended outcome => by_cases h : outcome.finalState = .running <;> simp [h] <;> rfl

/-- A program that is watched leaves the journal to the tool. -/
theorem superviseProcess_journal (settings : SupervisorSettings) (process : StartedProgram)
    (requests : List (Nat × ShutdownSignal)) (closing : Option Nat) (world : World) :
    ((superviseProcess settings process requests closing).runOn world).2.journal =
      world.journal := by
  obtain ⟨time, hleaves⟩ := superviseProcess_leaves settings process requests closing world
  rw [hleaves]

/-- How building and running a project can end. -/
inductive Runs (tool : Tool) (options : CreateOptions) (dir : Path) (start : World) :
    Except Failure SupervisorOutcome → World → Prop
  /-- Nothing is launched. -/
  | unbuilt {failure : Failure} {after : World} :
      tool.Builds options dir start (.error failure) after →
      Runs tool options dir start (.error failure) after
  /-- The artifact is launched, once, and nothing is done after that but to watch it. -/
  | launched {artifact : Path} {result : Except Failure SupervisorOutcome}
      {built launched after : World} :
      tool.Builds options dir start (.ok artifact) built →
      tool.Leads options built
        [.launch ⟨artifact, [], [], some ((Path.parent? artifact).getD dir)⟩] launched →
      after.journal = launched.journal →
      Runs tool options dir start result after

variable (tool options) in
theorem buildAndRun_runs (dir : Path) (start : World) :
    let run := (stage (tool.buildAndRun options.workspace dir)).runOn start
    tool.Runs options dir start run.1 run.2 := by
  simp only [Tool.buildAndRun, runOn_stage]
  have hbuilds := tool.build_builds options dir start
  rcases hbuild : (tool.build options.workspace dir).runOn start with ⟨failure | artifact, built⟩
  · rw [hbuild] at hbuilds
    rw [runOn_bind_error hbuild]
    exact .unbuilt (hbuilds.logs ((World.Logs.refl built).record _ _))
  rw [hbuild] at hbuilds
  rw [runOn_bind_ok hbuild]
  have hlaunch := tool.launch_leads options artifact
    ((Path.parent? artifact).getD dir) built
  rcases hrun : (launch tool.host artifact ((Path.parent? artifact).getD dir)).runOn built with
    ⟨failure | process, launched⟩
  · rw [hrun] at hlaunch
    rw [runOn_bind_error hrun]
    exact .launched hbuilds hlaunch rfl
  · rw [hrun] at hlaunch
    rw [runOn_bind_ok hrun]
    have hjournal := superviseProcess_journal tool.settings.supervisor process [] none launched
    rcases hwatch : (superviseProcess tool.settings.supervisor process [] none).runOn launched with
      ⟨failure | outcome, after⟩
    · rw [hwatch] at hjournal
      exact .launched hbuilds hlaunch hjournal
    · rw [hwatch] at hjournal
      exact .launched hbuilds hlaunch hjournal

end Tool

/-- **The order of the stages.** A creation ends with the failure of the first stage that fails, and
    no later stage has had an effect: nothing is looked at when the options are refused, the fetcher
    is called only when every URN is resolved, on each package once and in ascending order up to
    the first call that fails, and the template is read only when all packages are there. A run
    builds only what was created, and launches only what was built. -/
theorem stages_in_order (tool : Tool) (configPath : Path) (options : CreateOptions)
    (overrides : Option Arguments) (start : World) :
    let created := (tool.createProject configPath options overrides).runOn start
    let ran := (tool.runProject configPath options overrides).runOn start
    tool.Creates configPath options overrides start created.1 created.2 ∧
    (∀ failure, created.1 = .error failure → ran = (.error failure, created.2)) ∧
    ∀ context, created.1 = .ok context → ∃ result after,
      tool.Runs options context.project.dir created.2 result after ∧
        ran.1 = result.map (context, ·) ∧ after.Logs ran.2 := by
  intro created ran
  refine ⟨tool.createProject_creates options configPath overrides start, fun failure herror => ?_,
    fun context hok => ?_⟩
  · exact runOn_bind_error (Prod.ext herror rfl)
  · have hruns := tool.buildAndRun_runs options context.project.dir created.2
    have hran : ran = _ := runOn_bind_ok (Prod.ext hok rfl)
    rw [hran]
    rcases hrun :
      (stage (tool.buildAndRun options.workspace context.project.dir)).runOn created.2 with
      ⟨failure | outcome, after⟩
    · rw [hrun] at hruns
      rw [runOn_bind_error hrun]
      exact ⟨_, _, hruns, rfl, .refl after⟩
    · rw [hrun] at hruns
      rw [runOn_bind_ok hrun]
      exact ⟨_, _, hruns, rfl, (World.Logs.refl after).record .info .workflow⟩

end Pipewright
