import Pipewright.Proofs.Project.Rendering

set_option autoImplicit false

/-! # Overwriting a project

Rendering a project has three parts (`prepare_parts`, `runOn_render_ok`). What the project is made
of is read (`survey`), then it is looked whether the project is there, and only then is something
done to the disk (`make`). That a project may be overwritten matters between the parts, where a
project that is there is refused, and to the data of the template. -/

namespace Pipewright.Project

open Pipewright.Action

/-- What is read for a project. -/
structure Survey where
  template : List Template.Element
  arguments : Arguments

/-- Reads what a project is made of. -/
def survey (layout : LayoutSettings) (options : CreateOptions) (config : LoadedConfig)
    (overrides : Option Arguments) : Job Survey := do
  checkFileName config
  Job.log .info .rendering
  let template ← loadTemplate (layout.templatePaths options).template
  let defaults ← loadArguments (layout.templatePaths options).arguments
  return ⟨template, mergeArguments defaults overrides⟩

/-- What is prepared from what has been read, at a time. -/
def Survey.prepared (survey : Survey) (layout : LayoutSettings) (options : CreateOptions)
    (packages : List Package) (config : LoadedConfig) (clock : Timestamp) : Prepared :=
  { dir := dirOf layout options
    templatePath := (layout.templatePaths options).template
    template := survey.template
    data :=
      { options, packages
        configPath := config.path
        configFileName := config.fileName
        createTime := Timestamp.rfc3339 clock
        arguments := survey.arguments } }

/-- Makes the directory of a project, and prepares the project for it. -/
def ready (layout : LayoutSettings) (options : CreateOptions) (packages : List Package)
    (config : LoadedConfig) (survey : Survey) : Job Prepared := do
  Job.orIo (dirOf layout options) (← Job.makeDirectories (dirOf layout options))
  let world ← get
  return survey.prepared layout options packages config world.clock

/-- Makes the directory of a project, and the project in it. -/
def make (host : Host) (layout : LayoutSettings) (toolchain : Toolchain) (options : CreateOptions)
    (packages : List Package) (config : LoadedConfig) (survey : Survey) : Job RenderedProject := do
  complete host toolchain config (← ready layout options packages config survey)

section Parts

variable (host : Host) (layout : LayoutSettings) (toolchain : Toolchain) (options : CreateOptions)
  (packages : List Package) (config : LoadedConfig) (overrides : Option Arguments)

theorem prepare_parts :
    prepare layout options packages config overrides = (do
      let survey ← survey layout options config overrides
      let isThere ← Job.orIo (dirOf layout options) (← Job.fileExists (dirOf layout options))
      if isThere then
        unless options.forceWrite do throw (.projectExists (dirOf layout options))
        Job.log .warn .rendering
      ready layout options packages config survey) := by
  simp only [prepare, prepareDirectory, survey, ready, bind_assoc, pure_bind]
  refine bind_congr fun _ => bind_congr fun _ => bind_congr fun template =>
    bind_congr fun defaults => bind_congr fun _ => bind_congr fun isThere => ?_
  cases isThere with
  | false => simp only [Bool.false_eq_true, if_false, bind_assoc]; rfl
  | true =>
    cases options.forceWrite with
    | false => simp only [if_true, Bool.false_eq_true, if_false, bind_assoc]; rfl
    | true => simp only [if_true, bind_assoc]; rfl

variable {host layout toolchain options packages config overrides} {world read : World}

variable (options packages) in
/-- What is asked of the disk between reading and making. -/
theorem runOn_prepare_ok {surveyed : Survey}
    (h : (survey layout options config overrides).runOn world = (.ok surveyed, read)) :
    (prepare layout options packages config overrides).runOn world =
      let dir := dirOf layout options
      let asked := read.note (.inspect dir)
      let ready := ready layout options packages config surveyed
      match read.files.exists? read.directory dir with
      | .error e => (.error (.io dir (.system e)), asked)
      | .ok false => ready.runOn asked
      | .ok true =>
        if options.forceWrite then ready.runOn (asked.record .warn .rendering)
        else (.error (.projectExists dir), asked) := by
  have hasked : (Job.fileExists (dirOf layout options)).runOn read =
      (.ok (read.files.exists? read.directory (dirOf layout options)),
        read.note (.inspect (dirOf layout options))) := rfl
  rw [prepare_parts, runOn_bind_ok h, runOn_bind_ok hasked]
  dsimp only
  cases read.files.exists? read.directory (dirOf layout options) with
  | error e => rfl
  | ok isThere =>
    cases isThere with
    | false => rfl
    | true =>
      cases options.forceWrite with
      | false => rfl
      | true => rfl

theorem runOn_ready (survey : Survey) (world : World) :
    (ready layout options packages config survey).runOn world =
      let dir := dirOf layout options
      match world.files.makeDirectories world.directory dir with
      | (.ok (), files) =>
        (.ok (survey.prepared layout options packages config world.clock),
          { world.note (.makeDirectories dir) with files })
      | (.error e, files) =>
        (.error (.io dir (.system e)), { world.note (.makeDirectories dir) with files }) := by
  unfold ready
  rw [runOn_bind_ok (runOn_makeDirectories _ world)]
  dsimp only
  rcases world.files.makeDirectories world.directory (dirOf layout options) with ⟨_ | ⟨⟩, files⟩
  · rfl
  · rfl

variable (host toolchain options packages) in
theorem runOn_render_ok {surveyed : Survey}
    (h : (survey layout options config overrides).runOn world = (.ok surveyed, read)) :
    (render host layout toolchain options packages config overrides).runOn world =
      let dir := dirOf layout options
      let asked := read.note (.inspect dir)
      let make := make host layout toolchain options packages config surveyed
      match read.files.exists? read.directory dir with
      | .error e => (.error (.io dir (.system e)), asked)
      | .ok false => make.runOn asked
      | .ok true =>
        if options.forceWrite then make.runOn (asked.record .warn .rendering)
        else (.error (.projectExists dir), asked) := by
  simp only [render, make, runOn_bind, runOn_prepare_ok options packages h]
  cases read.files.exists? read.directory (dirOf layout options) with
  | error e => rfl
  | ok isThere =>
    cases isThere with
    | false => rfl
    | true =>
      cases options.forceWrite with
      | false => rfl
      | true => rfl

/-- What is completed depends on the data only by the text that they are rendered to. -/
theorem complete_congr {prepared other : Prepared} (hdir : other.dir = prepared.dir)
    (hpath : other.templatePath = prepared.templatePath)
    (htext : Template.render other.template other.data.toJson =
      Template.render prepared.template prepared.data.toJson) :
    complete host toolchain config other = complete host toolchain config prepared := by
  unfold complete
  rw [hdir, hpath, htext]

variable (host toolchain options packages) in
theorem runOn_render_error {failure : Failure}
    (h : (survey layout options config overrides).runOn world = (.error failure, read)) :
    (render host layout toolchain options packages config overrides).runOn world =
      (.error failure, read) := by
  rw [render, prepare_parts, bind_assoc, runOn_bind_error h]

end Parts

/-! ## Failures that forcing does not overcome -/

/-- Forcing does not overcome the failure. -/
def IsLasting (failure : Failure) : Prop := failure.isRecoverable = false

theorem IsIo.isLasting {failure : Failure} (h : IsIo failure) : IsLasting failure := by
  obtain ⟨path, cause, rfl⟩ := h
  rfl

/-- A failure of rendering, or a failed file operation. -/
def IsRenderOrIo (failure : Failure) : Prop :=
  (∃ template message, failure = .render template message) ∨ IsIo failure

theorem IsRenderOrIo.isLasting {failure : Failure} (h : IsRenderOrIo failure) :
    IsLasting failure := by
  rcases h with ⟨template, message, rfl⟩ | hio
  · rfl
  · exact hio.isLasting

theorem loadTemplate_lasting (path : Path) : (loadTemplate path).FailsWith IsLasting := by
  refine (FailsWith.of_ok fun _ => ⟨_, rfl⟩).bind fun result => ?_
  cases result with
  | error e => exact .throw rfl
  | ok bytes =>
    dsimp only
    cases Text.Utf8.decode? bytes with
    | none => exact .throw rfl
    | some text =>
      dsimp only
      cases Template.parse text with
      | ok template => exact .pure template
      | error fault => exact .throw rfl

theorem loadArguments_lasting (path : Path) : (loadArguments path).FailsWith IsLasting := by
  refine (FailsWith.of_ok fun _ => ⟨_, rfl⟩).bind fun result => ?_
  cases result with
  | error e =>
    dsimp only
    split
    · exact .pure _
    · exact .throw rfl
  | ok bytes =>
    dsimp only
    cases Json.parse? bytes with
    | error fault => exact .throw rfl
    | ok json =>
      cases json with
      | object members => exact .pure members
      | _ => exact .throw rfl

section Lasting

variable (host : Host) (layout : LayoutSettings) (toolchain : Toolchain) (options : CreateOptions)
  (packages : List Package) (config : LoadedConfig) (overrides : Option Arguments)

theorem survey_lasting : (survey layout options config overrides).FailsWith IsLasting := by
  have hname : (liftM (checkFileName config) : Job Unit).FailsWith IsLasting := by
    refine .mk_pure fun failure hfailure => ?_
    unfold checkFileName at hfailure
    split at hfailure
    · cases hfailure
      rfl
    · cases hfailure
  refine hname.bind fun _ => (log_failsWith _ _ _).bind fun _ => ?_
  refine (loadTemplate_lasting _).bind fun template => (loadArguments_lasting _).bind fun _ => ?_
  exact .pure _

theorem complete_failsWith (prepared : Prepared) :
    (complete host toolchain config prepared).FailsWith IsRenderOrIo := by
  intro world failure hfailure
  rcases complete_error (Prod.ext hfailure rfl) with ⟨fault, -, rfl, -⟩ | hio
  · exact .inl ⟨_, _, rfl⟩
  · exact .inr hio

/-- Once it is decided that the project is made, it does not matter whether it was there. -/
theorem make_failsWith (survey : Survey) :
    (make host layout toolchain options packages config survey).FailsWith IsRenderOrIo := by
  refine FailsWith.bind ?_ fun prepared => complete_failsWith host toolchain config prepared
  refine (FailsWith.of_ok fun _ => ⟨_, rfl⟩).bind fun made =>
    ((orIo_failsWith _ made).imp fun _ => .inr).bind fun _ => ?_
  exact (FailsWith.of_ok fun world => ⟨world, rfl⟩).bind fun world => .pure _

theorem make_lasting (survey : Survey) :
    (make host layout toolchain options packages config survey).FailsWith IsLasting :=
  (make_failsWith host layout toolchain options packages config survey).imp fun _ =>
    IsRenderOrIo.isLasting

end Lasting

end Pipewright.Project
