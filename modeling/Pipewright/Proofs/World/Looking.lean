import Pipewright.Pipeline.Loading
import Pipewright.Proofs.Action

set_option autoImplicit false

/-! # Looking at the disk

A world's `Disk` is its files and the directory that relative paths are taken from. The steps that
ask about files are quiet: they change a world in nothing but its journal and its log, and answer by
the disk alone. So do `LoadedConfig.load` and `MappingDocument.load`, whose answers are
`LoadedConfig.onDisk` and `MappingDocument.onDisk`. -/

namespace Pipewright

/-- The files, and the directory that relative paths are taken from. -/
structure Disk where
  files : FileSystem
  directory : Location

namespace World

/-- The part of a world that documents are read from. -/
def disk (world : World) : Disk := ⟨world.files, world.directory⟩

/-- Being the same but for the journal and the log. -/
def Quiet (start world : World) : Prop :=
  world = { start with journal := world.journal, log := world.log }

/-- A world with these nodes, in which nothing has happened yet. -/
def fresh (nodes : List (Location × Node)) : World :=
  { files := ⟨nodes⟩, directory := [], environment := [], clock := 0, pid := 1, nextPid := 2
    stdout := [], stderr := [], journal := [], log := [] }

variable {start world after : World}

theorem Quiet.refl (world : World) : world.Quiet world := rfl

theorem Quiet.trans (h : start.Quiet world) (hafter : world.Quiet after) : start.Quiet after := by
  unfold Quiet at *
  rw [hafter, h]

theorem Quiet.note (h : start.Quiet world) (effect : Effect) : start.Quiet (world.note effect) :=
  h.trans rfl

theorem Quiet.record (h : start.Quiet world) (level : LogLevel) (part : LogPart) :
    start.Quiet (world.record level part) :=
  h.trans rfl

/-- A quiet step leaves the disk as it is. -/
theorem Quiet.disk_eq (h : start.Quiet world) : world.disk = start.disk := by
  rw [h]
  rfl

theorem Quiet.files_eq (h : start.Quiet world) : world.files = start.files :=
  congrArg Disk.files h.disk_eq

theorem Quiet.directory_eq (h : start.Quiet world) : world.directory = start.directory :=
  congrArg Disk.directory h.disk_eq

instance : IsPreorder World Quiet where
  refl := Quiet.refl
  trans _ _ _ := Quiet.trans

end World

open Pipewright.Action

variable {α : Type} {start : World}

/-- An action that answers on the worlds that a quiet step leads to is quiet itself. -/
theorem Action.Answers.moves {action : Job α} {result : World → Except Failure α}
    (h : ∀ start : World, action.Answers start.Quiet (result start)) : action.Moves World.Quiet :=
  fun start => (h start start (.refl start)).2

namespace Job

theorem log_answers (level : LogLevel) (part : LogPart) :
    (Job.log level part).Answers start.Quiet (.ok ()) :=
  fun _ hw => ⟨rfl, hw.record level part⟩

theorem ask_answers (effect : Effect) (question : Disk → α) :
    (Job.ask effect fun world => question world.disk).Answers start.Quiet
      (.ok (question start.disk)) :=
  fun _ hw => ⟨congrArg (fun d => Except.ok (question d)) hw.disk_eq, hw.note effect⟩

theorem stat_answers (path : Path) :
    (Job.stat path).Answers start.Quiet (.ok (start.files.stat start.directory path)) :=
  ask_answers _ fun d => d.files.stat d.directory path

theorem readFile_answers (path : Path) :
    (Job.readFile path).Answers start.Quiet (.ok (start.files.read start.directory path)) :=
  ask_answers _ fun d => d.files.read d.directory path

theorem orFail_answers (fail : Errno → Failure) (result : Except Errno α) :
    (Job.orFail fail result).Answers start.Quiet (result.mapError fail) := by
  cases result with
  | ok a => exact Answers.pure a
  | error e => exact Answers.throw (fail e)

theorem log_moves (level : LogLevel) (part : LogPart) : (Job.log level part).Moves World.Quiet :=
  Answers.moves fun _ => log_answers level part

end Job

/-! ## Documents -/

/-- The mapping document at a path. -/
def MappingDocument.onDisk (disk : Disk) (path : Path) : Except Failure MappingDocument := do
  let bytes ← (disk.files.read disk.directory path).mapError fun e => .config path e.describe
  (Json.ofBytes? MappingDocument.decode bytes).mapError fun fault =>
    .config path ("malformed package source: " ++ fault.message)

theorem MappingDocument.load_answers (path : Path) :
    (MappingDocument.load path).Answers start.Quiet (onDisk start.disk path) := by
  unfold MappingDocument.load onDisk
  refine (Job.readFile_answers path).bind_ok ((Job.orFail_answers _ _).bind fun bytes _ => ?_)
  cases Json.ofBytes? MappingDocument.decode bytes with
  | ok document => exact (Job.log_answers _ _).bind_ok (Answers.pure document)
  | error fault => exact Answers.throw _

/-- Loading a mapping document fails with a configuration error that names the path. -/
theorem MappingDocument.onDisk_error {disk : Disk} {path : Path} {failure : Failure}
    (h : onDisk disk path = .error failure) : ∃ message, failure = .config path message := by
  unfold onDisk at h
  cases hread : disk.files.read disk.directory path with
  | error e =>
    rw [hread] at h
    exact ⟨_, (Except.error.inj h).symm⟩
  | ok bytes =>
    rw [hread] at h
    change (Json.ofBytes? MappingDocument.decode bytes).mapError _ = _ at h
    cases hdecode : Json.ofBytes? MappingDocument.decode bytes with
    | error fault =>
      rw [hdecode] at h
      exact ⟨_, (Except.error.inj h).symm⟩
    | ok document =>
      rw [hdecode] at h
      change Except.ok document = Except.error failure at h
      cases h

/-- The configuration at a path. -/
def LoadedConfig.onDisk (disk : Disk) (path : Path) : Except Failure LoadedConfig := do
  if path = "" then throw (.config "<none>" "config file name is empty")
  let node ← (disk.files.stat disk.directory path).mapError fun e => .config path e.describe
  match node with
  | .file _ _ =>
    match Path.fileName? path with
    | none => throw (.config path "no file name")
    | some fileName =>
      let bytes ← (disk.files.read disk.directory path).mapError fun e => .config path e.describe
      let config ← (Json.ofBytes? PipelineConfig.decode bytes).mapError fun fault =>
        .config path ("malformed configuration: " ++ fault.message)
      return { config, path, fileName, bytes }
  | _ => throw (.config path "config path must point to a regular file")

theorem LoadedConfig.load_answers (path : Path) :
    (LoadedConfig.load path).Answers start.Quiet (onDisk start.disk path) := by
  unfold LoadedConfig.load onDisk
  by_cases hpath : path = ""
  · rw [if_pos hpath, if_pos hpath]
    exact Answers.throw _
  · rw [if_neg hpath, if_neg hpath]
    refine (Job.stat_answers path).bind_ok ((Job.orFail_answers _ _).bind fun node _ => ?_)
    cases node with
    | directory | link _ | device => exact Answers.throw _
    | file content isExecutable =>
      cases Path.fileName? path with
      | none => exact Answers.throw _
      | some fileName =>
        refine (Job.readFile_answers path).bind_ok ((Job.orFail_answers _ _).bind fun bytes _ => ?_)
        cases Json.ofBytes? PipelineConfig.decode bytes with
        | ok config => exact (Job.log_answers _ _).bind_ok (Answers.pure _)
        | error fault => exact Answers.throw _

theorem mapError_bind_eq_ok {β ε ε' : Type} {first : Except ε α} {f : ε → ε'}
    {next : α → Except ε' β} {b : β} (h : (first.mapError f >>= next) = .ok b) :
    ∃ a, first = .ok a ∧ next a = .ok b := by
  cases first with
  | error e => cases h
  | ok a => exact ⟨a, rfl, h⟩

/-- A configuration is loaded from a regular file with a name: it has the bytes of the file, and is
    what they say. -/
theorem LoadedConfig.onDisk_eq_ok_iff {disk : Disk} {path : Path} {config : LoadedConfig} :
    onDisk disk path = .ok config ↔
      (∃ content isExecutable, disk.files.stat disk.directory path =
        .ok (.file content isExecutable)) ∧
      config.path = path ∧ Path.fileName? path = some config.fileName ∧
      disk.files.read disk.directory path = .ok config.bytes ∧
      Json.ofBytes? PipelineConfig.decode config.bytes = .ok config.config := by
  constructor
  · intro h
    unfold onDisk at h
    by_cases hpath : path = ""
    · rw [if_pos hpath] at h
      cases h
    rw [if_neg hpath] at h
    obtain ⟨node, hnode, h⟩ := mapError_bind_eq_ok h
    cases node with
    | directory | link _ | device => cases h
    | file content isExecutable =>
      simp only at h
      split at h
      · cases h
      · next fileName hname =>
        obtain ⟨bytes, hread, h⟩ := mapError_bind_eq_ok h
        obtain ⟨parsed, hdecode, h⟩ := mapError_bind_eq_ok h
        cases h
        exact ⟨⟨content, isExecutable, hnode⟩, rfl, hname, hread, hdecode⟩
  · rintro ⟨⟨content, isExecutable, hnode⟩, rfl, hname, hread, hdecode⟩
    have hpath : config.path ≠ "" := by
      intro hempty
      rw [hempty] at hname
      cases hname
    unfold onDisk
    rw [if_neg hpath, hnode]
    change (match Path.fileName? config.path with | none => _ | some fileName => _) = _
    rw [hname, hread]
    change ((Json.ofBytes? PipelineConfig.decode config.bytes).mapError _ >>= _) = _
    rw [hdecode]
    rfl

end Pipewright
