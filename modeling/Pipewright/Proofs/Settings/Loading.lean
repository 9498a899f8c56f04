import Pipewright.Proofs.Settings.Layers
import Pipewright.Proofs.World.Looking

set_option autoImplicit false

/-! # Loading settings

The settings are loaded from a file that says documented things (`SettingsFile.Declares`) and from
an environment that does. Each of them takes the value of the environment, or else that of the
file, or else its default, whatever the layers say of the other settings of its section
(`load_layers`). Loading fails in one way only, and only because of a value that has won or because
the settings that come out are refused. -/

namespace Pipewright

open Settings Pipewright.Action

/-! ## The file -/

namespace SettingsFile

/-- Whether a path names a file. -/
def isFileOn (disk : Disk) (path : Path) : Bool :=
  match disk.files.stat disk.directory path with
  | .ok (.file ..) => true
  | _ => false

/-- The file at a path, or else at the path with the usual ending. -/
def foundOn (disk : Disk) (path : Path) : Option Path :=
  if isFileOn disk path then some path
  else (upToName path).bind fun path =>
    if isFileOn disk (path ++ ending) then some (path ++ ending) else none

/-- The bytes without the mark that some editors begin a file with. -/
def withoutMark (bytes : Bytes) : Bytes :=
  if [0xEF, 0xBB, 0xBF].isPrefixOf bytes then bytes.drop 3 else bytes

/-- The file at a path is found on the disk, and says these members. -/
def Declares (disk : Disk) (path : Path) (origin : String) (members : List (String × Toml.Value)) :
    Prop :=
  ∃ found bytes, foundOn disk path = some found ∧ relative disk.directory found = origin ∧
    disk.files.read disk.directory found = .ok bytes ∧
    Toml.Value.ofText? (Text.Utf8.decodeLossy (withoutMark bytes)) = some (.table members)

variable {start : World}

theorem isFile_answers (path : Path) :
    (isFile path).Answers start.Quiet (.ok (isFileOn start.disk path)) := by
  unfold isFile isFileOn World.disk
  refine (Job.stat_answers path).bind_ok ?_
  rcases start.files.stat start.directory path with e | _ | _ | _ | _ <;> exact Answers.pure _

theorem find_answers (path : Path) :
    (find path).Answers start.Quiet (.ok (foundOn start.disk path)) := by
  unfold find foundOn
  refine (isFile_answers path).bind_ok ?_
  cases isFileOn start.disk path with
  | true => exact Answers.pure _
  | false =>
    cases upToName path with
    | none => exact Answers.pure _
    | some path =>
      refine (isFile_answers (path ++ ending)).bind_ok ?_
      rw [Option.bind_some]
      cases isFileOn start.disk (path ++ ending) <;> exact Answers.pure _

theorem load_answers {path : Path} {origin : String} {members : List (String × Toml.Value)}
    (h : Declares start.disk path origin members) :
    (load path).Answers start.Quiet (.ok (namedEntriesOf origin members)) := by
  obtain ⟨found, bytes, hfound, horigin, hread, htext⟩ := h
  have hanswers : (Job.readFile found).Answers start.Quiet (.ok (.ok bytes)) :=
    hread ▸ Job.readFile_answers found
  unfold load
  refine (hfound ▸ find_answers path).bind_ok (hanswers.bind_ok ?_)
  refine (Job.orFail_answers _ (.ok bytes)).bind_ok fun world hworld => ?_
  have horigin' : relative world.directory found = origin := hworld.directory_eq ▸ horigin
  rw [runOn_bind_ok (runOn_get world)]
  unfold withoutMark at htext
  simp only [horigin', htext]
  exact ⟨rfl, hworld⟩

end SettingsFile

/-! ## The settings -/

namespace ToolSettings

/-- The file that is named, if one is, says these members. -/
def FileDeclares (disk : Disk) (path : Option Path) (origin : String)
    (members : List (String × Toml.Value)) : Prop :=
  match path with
  | some path => SettingsFile.Declares disk path origin members
  | none => members = []

variable {world : World} {path : Option Path} {origin : String}
  {members : List (String × Toml.Value)} {environment : Dictionary String}

/-- The settings that the layers make up, if they are not refused. -/
def judge (path : Option Path) : Except Mismatch ToolSettings → Except Failure ToolSettings
  | .error mismatch => .error (.config (path.getD noFile) mismatch.message)
  | .ok settings => settings.validate.map fun _ => settings

theorem judge_eq_ok_iff {made : Except Mismatch ToolSettings} {settings : ToolSettings} :
    judge path made = .ok settings ↔ made = .ok settings ∧ settings.validate = .ok () := by
  cases made with
  | error mismatch => simp [judge]
  | ok other =>
    simp only [judge, Except.map_ok_iff]
    constructor
    · rintro ⟨_, hvalid, rfl⟩
      exact ⟨rfl, hvalid⟩
    · rintro ⟨heq, hvalid⟩
      cases heq
      exact ⟨(), hvalid, rfl⟩

/-- What loading does when the file has been read. -/
def settle (path : Option Path) (environment : Dictionary String) (file : List (String × Entry)) :
    Job ToolSettings :=
  match ofLayers? [file, Variable.settings environment] with
  | .error mismatch => throw (.config (path.getD noFile) mismatch.message)
  | .ok settings => do
    ExceptT.mk (pure settings.validate)
    return settings

theorem runOn_settle (file : List (String × Entry)) (world : World) :
    ((settle path environment file).runOn world).1 =
      judge path (ofLayers? [file, Variable.settings environment]) := by
  unfold settle
  cases ofLayers? [file, Variable.settings environment] with
  | error mismatch => rfl
  | ok settings =>
    have hvalidate := runOn_mk_pure settings.validate world
    simp only [judge]
    cases hvalid : settings.validate with
    | error failure =>
      rw [hvalid] at hvalidate
      rw [runOn_bind_error hvalidate]
      rfl
    | ok _ =>
      rw [hvalid] at hvalidate
      rw [runOn_bind_ok hvalidate]
      rfl

/-- Loading makes settings of the layers and judges them. -/
theorem runOn_load (hdeclares : FileDeclares world.disk path origin members) :
    ((load path environment).runOn world).1 =
      (judge path <| ofEntry? <| layers origin members environment) := by
  cases path with
  | none =>
    cases hdeclares
    exact runOn_settle [] world
  | some path =>
    obtain ⟨hresult, -⟩ := SettingsFile.load_answers hdeclares world (.refl world)
    have hload : load (some path) environment =
        SettingsFile.load path >>= settle (some path) environment := rfl
    rw [hload, runOn_bind_ok (Prod.ext hresult rfl)]
    exact runOn_settle _ _

/-- Every documented setting has the value that has won, or its default. -/
def IsLayered (origin : String) (members : List (String × Toml.Value))
    (environment : Dictionary String) (settings : ToolSettings) : Prop :=
  ∀ setting ∈ documented, setting.Takes (setting.winner? origin members environment) settings

instance (settings : ToolSettings) :
    Decidable (IsLayered origin members environment settings) :=
  inferInstanceAs (Decidable (∀ setting ∈ documented, setting.kind.Takes setting.key .default
    (setting.winner? origin members environment) settings))

/-- The winning values determine the settings. -/
theorem IsLayered.unique {one other : ToolSettings} (hfile : IsDocumentedFile members)
    (henvironment : IsDocumentedEnvironment environment)
    (hone : IsLayered origin members environment one)
    (hother : IsLayered origin members environment other) : one = other := by
  have hmade := (ofEntry?_layers_eq_ok_iff hfile henvironment).mpr hone
  rw [(ofEntry?_layers_eq_ok_iff hfile henvironment).mpr hother] at hmade
  exact (Except.ok.inj hmade).symm

theorem load_eq_ok_iff (hdeclares : FileDeclares world.disk path origin members)
    (hfile : IsDocumentedFile members) (henvironment : IsDocumentedEnvironment environment)
    {settings : ToolSettings} :
    ((load path environment).runOn world).1 = .ok settings ↔
      IsLayered origin members environment settings ∧ settings.validate = .ok () := by
  rw [runOn_load hdeclares, judge_eq_ok_iff, ofEntry?_layers_eq_ok_iff hfile henvironment]
  rfl

/-- Variables that do not count as settings are passed over. -/
theorem settings_filter (environment : Dictionary String) :
    Variable.settings (environment.filter isMarked) = Variable.settings environment := by
  induction environment with
  | nil => rfl
  | cons pair rest ih =>
    obtain ⟨name, value⟩ := pair
    cases hkey : Variable.key? name with
    | none =>
      rw [List.filter_cons_of_neg (by simp [isMarked_eq, hkey]), ih]
      simp [Variable.settings, hkey]
    | some key =>
      rw [List.filter_cons_of_pos (by simp [isMarked_eq, hkey])]
      simpa [Variable.settings, hkey] using ih

theorem load_congr {other : Dictionary String}
    (h : other.filter isMarked = environment.filter isMarked) :
    load path other = load path environment := by
  have hsettings : Variable.settings other = Variable.settings environment := by
    rw [← settings_filter other, h, settings_filter]
  unfold load
  rw [hsettings]

end ToolSettings

end Pipewright
