import Pipewright.Project.Rendering
import Pipewright.Proofs.World.Directories
import Pipewright.Proofs.World.Looking

set_option autoImplicit false

/-! # Rendering a project

What rendering does to the files, step by step. Reading the template and its arguments is quiet, and
so is a refused directory (`prepareDirectory_refused`); a directory that is made gives `Gains` and
nothing else. After that only two kinds of failure are left: the template cannot be rendered with
its data, which changes nothing, or a file operation fails (`complete_error`). -/

namespace Pipewright.Project

open Pipewright.Action

variable {world : World}

/-! ## Reading -/

/-- The template at a path. -/
def templateOn (disk : Disk) (path : Path) : Except Failure (List Template.Element) :=
  match disk.files.read disk.directory path with
  | .error e => .error (.render path e.describe)
  | .ok bytes =>
    match Text.Utf8.decode? bytes with
    | none => .error (.render path "stream did not contain valid UTF-8")
    | some text => (Template.parse text).mapError fun fault => .render path fault.message

theorem loadTemplate_answers (path : Path) :
    (loadTemplate path).Answers world.Quiet (templateOn world.disk path) := by
  refine (Job.readFile_answers path).bind_ok ?_
  unfold templateOn World.disk
  cases world.files.read world.directory path with
  | error e => exact .throw _
  | ok bytes =>
    simp only
    cases Text.Utf8.decode? bytes with
    | none => exact .throw _
    | some text =>
      simp only
      cases Template.parse text with
      | ok template => exact .pure template
      | error fault => exact .throw _

theorem loadArguments_moves (path : Path) : (loadArguments path).Moves World.Quiet := by
  refine (Answers.moves fun _ => Job.readFile_answers path).bind fun result => ?_
  cases result with
  | error e =>
    simp only
    split
    · exact .pure _
    · exact .throw _
  | ok bytes =>
    simp only
    split
    · exact .pure _
    · exact .throw _
    · exact .throw _

/-! ## Making the directory -/

/-- Making the directory succeeds or fails as a file operation, and gains directories. -/
def MakesDirectory (dir : Path) (world : World) (run : Except Failure Unit × World) : Prop :=
  (run.1 = .ok () ∨ ∃ cause, run.1 = .error (.io dir cause)) ∧
    FileSystem.Gains world.directory dir world.files run.2.files

theorem runOn_makeDirectories (path : Path) (world : World) :
    (Job.makeDirectories path).runOn world =
      (.ok (world.files.makeDirectories world.directory path).1,
        { world.note (.makeDirectories path) with
          files := (world.files.makeDirectories world.directory path).2 }) :=
  rfl

theorem makeDirectories_run (dir : Path) {between : World} (h : world.Quiet between) :
    MakesDirectory dir world
      ((do Job.orIo dir (← Job.makeDirectories dir) : Job Unit).runOn between) := by
  have hgains := FileSystem.makeDirectories_gains world.directory world.files dir
  have hrun : (Job.makeDirectories dir).runOn between =
      (.ok (world.files.makeDirectories world.directory dir).1,
        { between.note (.makeDirectories dir) with
          files := (world.files.makeDirectories world.directory dir).2 }) := by
    rw [← h.files_eq, ← h.directory_eq]
    exact runOn_makeDirectories dir between
  rw [runOn_bind_ok hrun]
  generalize world.files.makeDirectories world.directory dir = made at hgains ⊢
  rcases made with ⟨_ | ⟨⟩, files⟩
  · exact ⟨.inr ⟨_, rfl⟩, hgains⟩
  · exact ⟨.inl rfl, hgains⟩

/-- Preparing the directory is quiet and fails, or makes the directory; one that is there is only
    made again with `force`. -/
theorem prepareDirectory_run (dir : Path) (force : Bool) {between : World}
    (h : world.Quiet between) :
    let run := (prepareDirectory dir force).runOn between
    (∃ failure, run.1 = .error failure ∧ world.Quiet run.2) ∨
      (force = false → world.files.exists? world.directory dir ≠ .ok true) ∧
        MakesDirectory dir world run := by
  have hinspect : (Job.fileExists dir).runOn between =
      (.ok (world.files.exists? world.directory dir), between.note (.inspect dir)) := by
    rw [← h.files_eq, ← h.directory_eq]
    rfl
  have hnoted : world.Quiet (between.note (.inspect dir)) := h.note _
  simp only [prepareDirectory]
  rw [runOn_bind_ok hinspect]
  cases world.files.exists? world.directory dir with
  | error e => exact .inl ⟨_, rfl, hnoted⟩
  | ok isPresent =>
    cases isPresent with
    | false => exact .inr ⟨by simp, makeDirectories_run dir hnoted⟩
    | true =>
      cases force with
      | false => exact .inl ⟨_, rfl, hnoted⟩
      | true => exact .inr ⟨by simp, makeDirectories_run dir (hnoted.record .warn .rendering)⟩

/-! ## Preparing -/

section Prepare

variable (layout : LayoutSettings) (options : CreateOptions) (packages : List Package)
  (config : LoadedConfig) (overrides : Option Arguments)

/-- The directory of the project that the options name. -/
abbrev dirOf : Path := options.projectDir (layout.sourceRoot options.workspace)

/-- What preparing a project does: it is quiet and fails, or it makes the directory. Then a file
    operation fails, or the template that is on the disk is ready to be rendered. -/
theorem prepare_run (world : World) :
    let run := (prepare layout options packages config overrides).runOn world
    (∃ failure, run.1 = .error failure ∧ world.Quiet run.2) ∨
    (options.forceWrite = false →
        world.files.exists? world.directory (dirOf layout options) ≠ .ok true) ∧
      FileSystem.Gains world.directory (dirOf layout options) world.files run.2.files ∧
      ((∃ cause, run.1 = .error (.io (dirOf layout options) cause)) ∨
        ∃ prepared, run.1 = .ok prepared ∧
          prepared.templatePath = (layout.templatePaths options).template ∧
          templateOn world.disk prepared.templatePath = .ok prepared.template) := by
  have hname : (liftM (checkFileName config) : Job Unit).Moves World.Quiet :=
    Moves.mk_pure (checkFileName config)
  have hload : ∀ path, (loadTemplate path).Moves World.Quiet := fun path =>
    Answers.moves fun _ => loadTemplate_answers path
  unfold prepare
  rcases hname.fails_or_goes_on _ world with hfail | ⟨⟨⟩, checked, -, hchecked, hrun⟩
  · exact .inl hfail
  rw [hrun]
  rcases (Job.log_moves .info .rendering).fails_or_goes_on _ checked with
    ⟨failure, herror, hquiet⟩ | ⟨⟨⟩, logged, -, hlogged, hrun⟩
  · exact .inl ⟨failure, herror, hchecked.trans hquiet⟩
  rw [hrun]
  rcases (hload _).fails_or_goes_on _ logged with
    ⟨failure, herror, hquiet⟩ | ⟨template, loaded, htemplate, hloaded, hrun⟩
  · exact .inl ⟨failure, herror, (hchecked.trans hlogged).trans hquiet⟩
  rw [hrun]
  rcases (loadArguments_moves _).fails_or_goes_on _ loaded with
    ⟨failure, herror, hquiet⟩ | ⟨arguments, between, -, hread, hrun⟩
  · exact .inl ⟨failure, herror, ((hchecked.trans hlogged).trans hloaded).trans hquiet⟩
  rw [hrun]
  have hbetween := ((hchecked.trans hlogged).trans hloaded).trans hread
  have hon := (loadTemplate_answers (layout.templatePaths options).template logged
    (hchecked.trans hlogged)).1
  rw [htemplate] at hon
  rcases prepareDirectory_run (dirOf layout options) options.forceWrite hbetween with
    ⟨failure, herror, hquiet⟩ | ⟨hforce, hdone, hgains⟩
  · rw [runOn_bind_error (Prod.ext herror rfl)]
    exact .inl ⟨failure, rfl, hquiet⟩
  · refine .inr ⟨hforce, ?_⟩
    rcases hdone with hok | ⟨cause, hio⟩
    · rw [runOn_bind_ok (Prod.ext hok rfl)]
      exact ⟨hgains, .inr ⟨_, rfl, rfl, hon.symm⟩⟩
    · rw [runOn_bind_error (Prod.ext hio rfl)]
      exact ⟨hgains, .inl ⟨cause, rfl⟩⟩

variable {layout options packages config overrides} in
/-- What is prepared when preparing succeeds: the template that is on the disk, and the data with
    just these packages. -/
theorem prepare_ok {prepared : Prepared} {after : World}
    (h : (prepare layout options packages config overrides).runOn world = (.ok prepared, after)) :
    config.fileName ≠ entryPoint ∧
      ∃ template defaults,
        templateOn world.disk (layout.templatePaths options).template = .ok template ∧
        prepared =
          { dir := dirOf layout options
            templatePath := (layout.templatePaths options).template
            template
            data :=
              { options, packages, configPath := config.path, configFileName := config.fileName
                createTime := Timestamp.rfc3339 after.clock
                arguments := mergeArguments defaults overrides } } := by
  unfold prepare at h
  obtain ⟨⟨⟩, checked, hcheck, h⟩ := runOn_bind_eq_ok h
  obtain ⟨⟨⟩, logged, hlog, h⟩ := runOn_bind_eq_ok h
  obtain ⟨template, loaded, htemplate, h⟩ := runOn_bind_eq_ok h
  obtain ⟨defaults, read, -, h⟩ := runOn_bind_eq_ok h
  obtain ⟨⟨⟩, made, -, h⟩ := runOn_bind_eq_ok h
  cases h
  have hchecked : checkFileName config = .ok () := congrArg Prod.fst hcheck
  have hname : config.fileName ≠ entryPoint := by
    intro heq
    rw [checkFileName, if_pos heq] at hchecked
    cases hchecked
  obtain rfl : world = checked := congrArg Prod.snd hcheck
  obtain rfl : world.record .info .rendering = logged := congrArg Prod.snd hlog
  have hquiet := (World.Quiet.refl world).record .info .rendering
  have hon := (loadTemplate_answers (layout.templatePaths options).template _ hquiet).1
  rw [htemplate] at hon
  exact ⟨hname, template, defaults, hon.symm, rfl⟩

/-- A project that is not there yet, of a template without default arguments, is prepared when its
    directory can be made. -/
theorem prepare_new (world : World) {template : List Template.Element}
    (hname : config.fileName ≠ entryPoint)
    (htemplate : templateOn world.disk (layout.templatePaths options).template = .ok template)
    (harguments : world.files.read world.directory (layout.templatePaths options).arguments =
      .error .absent)
    (hnew : world.files.exists? world.directory (dirOf layout options) = .ok false)
    {files : FileSystem}
    (hmake : world.files.makeDirectories world.directory (dirOf layout options) = (.ok (), files)) :
    ∃ prepared after,
      (prepare layout options packages config overrides).runOn world = (.ok prepared, after) ∧
      prepared.dir = dirOf layout options ∧ prepared.template = template ∧
      after.files = files ∧ after.directory = world.directory := by
  have hcheck : (liftM (checkFileName config) : Job Unit).runOn world = (.ok (), world) := by
    rw [checkFileName, if_neg hname]
    rfl
  have hlog : (Job.log .info .rendering).runOn world =
      (.ok (), world.record .info .rendering) := rfl
  obtain ⟨hload, hquiet⟩ := loadTemplate_answers (layout.templatePaths options).template
    (world.record .info .rendering) ((World.Quiet.refl world).record .info .rendering)
  rw [htemplate] at hload
  generalize hloaded : ((loadTemplate (layout.templatePaths options).template).runOn
    (world.record .info .rendering)).2 = loaded at hquiet
  have hdefaults : (loadArguments (layout.templatePaths options).arguments).runOn loaded =
      (.ok [], loaded.note (.read (layout.templatePaths options).arguments)) := by
    have hread : (Job.readFile (layout.templatePaths options).arguments).runOn loaded =
        (.ok (.error .absent), loaded.note (.read (layout.templatePaths options).arguments)) := by
      rw [← harguments, ← hquiet.files_eq, ← hquiet.directory_eq]
      rfl
    unfold loadArguments
    rw [runOn_bind_ok hread]
    rfl
  let asked := (loaded.note (.read (layout.templatePaths options).arguments)).note
    (.inspect (dirOf layout options))
  let made := { asked.note (.makeDirectories (dirOf layout options)) with files }
  have hdirectory : (prepareDirectory (dirOf layout options) options.forceWrite).runOn
      (loaded.note (.read (layout.templatePaths options).arguments)) = (.ok (), made) := by
    have hexists : (Job.fileExists (dirOf layout options)).runOn
        (loaded.note (.read (layout.templatePaths options).arguments)) =
          (.ok (.ok false), asked) := by
      rw [← hnew, ← hquiet.files_eq, ← hquiet.directory_eq]
      rfl
    have hmade : (Job.makeDirectories (dirOf layout options)).runOn asked =
        (.ok (.ok ()), made) := by
      have hasked : asked.files.makeDirectories asked.directory (dirOf layout options) =
          (.ok (), files) := by
        rw [← hmake, ← hquiet.files_eq, ← hquiet.directory_eq]
        rfl
      rw [runOn_makeDirectories, hasked]
    unfold prepareDirectory
    rw [runOn_bind_ok hexists]
    change ((do Job.orIo _ (← Job.makeDirectories _)) : Job Unit).runOn asked = _
    rw [runOn_bind_ok hmade]
    rfl
  unfold prepare
  rw [runOn_bind_ok hcheck, runOn_bind_ok hlog, runOn_bind_ok (Prod.ext hload hloaded),
    runOn_bind_ok hdefaults, runOn_bind_ok hdirectory]
  exact ⟨_, made, rfl, rfl, rfl, rfl, hquiet.directory_eq⟩

end Prepare

/-! ## Completing -/

/-- Being a failed file operation. -/
def IsIo (failure : Failure) : Prop := ∃ path cause, failure = .io path cause

theorem log_failsWith (P : Failure → Prop) (level : LogLevel) (part : LogPart) :
    (Job.log level part).FailsWith P :=
  .of_ok fun _ => ⟨(), rfl⟩

theorem orIo_failsWith {α : Type} (path : Path) (result : Except Errno α) :
    (Job.orIo path result).FailsWith IsIo := by
  cases result with
  | ok a => exact .pure a
  | error e => exact .throw ⟨path, _, rfl⟩

/-- Writing a file changes the files, or reports why it does not. -/
theorem runOn_writeFile (path : Path) (content : Bytes) (world : World) :
    (Job.writeFile path content).runOn world =
      match world.files.write world.directory path content with
      | .ok files => (.ok (.ok ()), { world.note (.write path content) with files })
      | .error e => (.ok (.error e), world.note (.write path content)) := by
  have hnoted : (Job.update (World.note (.write path content))).runOn world =
      (.ok (), world.note (.write path content)) := rfl
  unfold Job.writeFile
  rw [runOn_bind_ok hnoted, runOn_bind_ok (runOn_get _)]
  change (match world.files.write world.directory path content with | .ok _ => _ | .error _ => _ :
    Job _).runOn _ = _
  cases world.files.write world.directory path content with
  | ok files => rfl
  | error e => rfl

theorem writeFile_failsWith (P : Failure → Prop) (path : Path) (content : Bytes) :
    (Job.writeFile path content).FailsWith P := by
  refine .of_ok fun world => ?_
  rw [runOn_writeFile]
  cases world.files.write world.directory path content with
  | ok files => exact ⟨_, rfl⟩
  | error e => exact ⟨_, rfl⟩

/-- A command reports its failure as a result. -/
theorem runCommand_failsWith (P : Failure → Prop) (host : Host) (invocation : Invocation) :
    (runCommand host invocation).FailsWith P := by
  refine (log_failsWith P .debug .toolchain).bind fun _ => ?_
  refine (FailsWith.of_ok fun _ => ⟨(), rfl⟩).bind fun _ => ?_
  refine (FailsWith.of_ok fun world => ⟨world, rfl⟩).bind fun world => ?_
  rcases host.run invocation world with ⟨_ | completed, after⟩
  · exact (FailsWith.of_ok fun _ => ⟨⟨⟩, rfl⟩).bind fun _ => .pure _
  · refine (FailsWith.of_ok fun _ => ⟨⟨⟩, rfl⟩).bind fun _ => ?_
    cases hsuccess : completed.status.isSuccess with
    | true => simpa [hsuccess] using FailsWith.pure _
    | false => simpa [hsuccess] using (log_failsWith P _ _).bind fun _ => FailsWith.pure _

/-- A project that cannot be completed has a template that cannot be rendered, and then nothing is
    done, or a file operation fails. -/
theorem complete_error {host : Host} {toolchain : Toolchain} {config : LoadedConfig}
    {prepared : Prepared} {failure : Failure} {after : World}
    (h : (complete host toolchain config prepared).runOn world = (.error failure, after)) :
    (∃ fault, Template.render prepared.template prepared.data.toJson = .error fault ∧
      failure = .render prepared.templatePath fault.message ∧ after = world) ∨
    IsIo failure := by
  unfold complete at h
  cases hrender : Template.render prepared.template prepared.data.toJson with
  | error fault =>
    rw [hrender] at h
    cases h
    exact .inl ⟨fault, rfl, rfl, rfl⟩
  | ok text =>
    rw [hrender] at h
    refine .inr (FailsWith.bind ?_ (fun _ => ?_) world failure (congrArg Prod.fst h))
    · exact writeFile_failsWith _ _ _
    refine (orIo_failsWith _ _).bind fun _ => (writeFile_failsWith _ _ _).bind fun _ =>
      (orIo_failsWith _ _).bind fun _ => (runCommand_failsWith _ _ _).bind fun result => ?_
    cases result with
    | ok _ => exact (log_failsWith _ _ _).bind fun _ => .pure _
    | error _ =>
      exact (log_failsWith _ _ _).bind fun _ => (log_failsWith _ _ _).bind fun _ => .pure _

/-- The failure of a template on the disk that could be read but not be rendered. -/
def FailsInTemplate (disk : Disk) (path : Path) (failure : Failure) : Prop :=
  ∃ template data fault, templateOn disk path = .ok template ∧
    Template.render template data = .error fault ∧ failure = .render path fault.message

/-- What rendering a project does: it is quiet and fails, or it makes the directory. A failure after
    that is one of a file operation, or one in the template, which leaves just the directory. -/
theorem render_run (host : Host) (layout : LayoutSettings) (toolchain : Toolchain)
    (options : CreateOptions) (packages : List Package) (config : LoadedConfig)
    (overrides : Option Arguments) (world : World) :
    let run := (render host layout toolchain options packages config overrides).runOn world
    (∃ failure, run.1 = .error failure ∧ world.Quiet run.2) ∨
    (options.forceWrite = false →
        world.files.exists? world.directory (dirOf layout options) ≠ .ok true) ∧
      ∀ failure, run.1 = .error failure → ¬ IsIo failure →
        FailsInTemplate world.disk (layout.templatePaths options).template failure ∧
          FileSystem.Gains world.directory (dirOf layout options) world.files run.2.files := by
  have hprepare := prepare_run layout options packages config overrides world
  simp only [render]
  rcases hrun : (prepare layout options packages config overrides).runOn world with
    ⟨failure | prepared, middle⟩
  · rw [hrun] at hprepare
    rw [runOn_bind_error hrun]
    rcases hprepare with ⟨_, _, hquiet⟩ | ⟨hforce, hgains, ⟨cause, hio⟩ | ⟨_, hok, _⟩⟩
    · exact .inl ⟨failure, rfl, hquiet⟩
    · refine .inr ⟨hforce, fun failure hfailure hother => ?_⟩
      cases hio
      cases hfailure
      exact absurd ⟨_, cause, rfl⟩ hother
    · cases hok
  · rw [hrun] at hprepare
    rw [runOn_bind_ok hrun]
    rcases hprepare with ⟨_, herror, _⟩ | ⟨hforce, hgains, ⟨cause, hio⟩ | ⟨_, hok, hpath, hon⟩⟩
    · cases herror
    · cases hio
    · cases hok
      refine .inr ⟨hforce, fun failure hfailure hother => ?_⟩
      rcases hcomplete : (complete host toolchain config prepared).runOn middle with ⟨_, after⟩
      rw [hcomplete] at hfailure
      cases hfailure
      rcases complete_error hcomplete with ⟨fault, hrender, rfl, rfl⟩ | hio
      · rw [← hpath]
        exact ⟨⟨_, _, fault, hon, hrender, rfl⟩, hgains⟩
      · exact absurd hio hother

end Pipewright.Project
