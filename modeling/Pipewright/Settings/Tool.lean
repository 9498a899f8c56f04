import Pipewright.Failure
import Pipewright.Settings.Field
import Pipewright.Text.Blank

set_option autoImplicit false

/-! # The settings of the tool

`ToolSettings` shape how the tool deals with the outside world: which programs it calls, where
templates and sources live under a workspace, how it paces supervision, and what it logs. Every
setting has a default.

* `ToolSettings.decode` and `ToolSettings.toJson` read and write settings as JSON.
* `ToolSettings.validate` refuses settings with which every later stage would fail. -/

namespace Pipewright

open Json Settings

/-- The programs that fetch, build and format. -/
structure ToolchainSettings where
  goBinary : String
  gitBinary : String
  /-- Whether the go tool works on the workspace as its `GOPATH`. -/
  legacyGopath : Bool
  deriving DecidableEq, Repr

namespace ToolchainSettings

def default : ToolchainSettings := ⟨"go", "git", true⟩

def fields : List (SectionField ToolchainSettings) := [
  ⟨"go_binary", .text (·.goBinary) (fun v s => { s with goBinary := v })⟩,
  ⟨"git_binary", .text (·.gitBinary) (fun v s => { s with gitBinary := v })⟩,
  ⟨"legacy_gopath", .flag (·.legacyGopath) (fun v s => { s with legacyGopath := v })⟩]

end ToolchainSettings

/-- Directories below the workspace. -/
structure LayoutSettings where
  sourceDir : String
  templateRoot : String
  deriving DecidableEq, Repr

namespace LayoutSettings

def default : LayoutSettings := ⟨"src", "github.com/gogap/spirit-tool/template"⟩

def fields : List (SectionField LayoutSettings) := [
  ⟨"source_dir", .text (·.sourceDir) (fun v s => { s with sourceDir := v })⟩,
  ⟨"template_root", .text (·.templateRoot) (fun v s => { s with templateRoot := v })⟩]

end LayoutSettings

/-- How supervision is paced, in milliseconds. -/
structure SupervisorSettings where
  tickInterval : Nat
  /-- How long a program may take to stop before it is killed; without it, as long as it likes. -/
  stopTimeout : Option Nat
  deriving DecidableEq, Repr

namespace SupervisorSettings

def default : SupervisorSettings := ⟨1000, none⟩

def fields : List (SectionField SupervisorSettings) := [
  ⟨"tick_interval_ms", .word (·.tickInterval) (fun v s => { s with tickInterval := v })⟩,
  ⟨"stop_timeout_ms", .optionalWord (·.stopTimeout) (fun v s => { s with stopTimeout := v })⟩]

end SupervisorSettings

/-- What is logged, and where. -/
structure LoggingSettings where
  level : Option String
  logDir : Option Path
  json : Bool
  deriving DecidableEq, Repr

namespace LoggingSettings

def default : LoggingSettings := ⟨none, none, false⟩

def fields : List (SectionField LoggingSettings) := [
  ⟨"level", .optionalText (·.level) (fun v s => { s with level := v })⟩,
  ⟨"log_dir", .optionalPath (·.logDir) (fun v s => { s with logDir := v })⟩,
  ⟨"json", .flag (·.json) (fun v s => { s with json := v })⟩]

end LoggingSettings

/-- The settings of the tool. -/
structure ToolSettings where
  toolchain : ToolchainSettings
  layout : LayoutSettings
  supervisor : SupervisorSettings
  logging : LoggingSettings
  deriving DecidableEq, Repr

namespace ToolSettings

def default : ToolSettings := ⟨.default, .default, .default, .default⟩

/-- The names of the sections in reports. -/
def toolchainTitle : String := "struct ToolchainConfig"

def layoutTitle : String := "struct LayoutConfig"

def supervisorTitle : String := "struct SupervisorConfig"

def loggingTitle : String := "struct LoggingConfig"

def title : String := "struct ToolConfig"

def decode : Decoder ToolSettings :=
  (overlayRecord title [
    overlaySlot "toolchain" (fun carrier form =>
      (decodeSection toolchainTitle ToolchainSettings.fields .default carrier form).map
        fun v s => { s with toolchain := v }),
    overlaySlot "layout" (fun carrier form =>
      (decodeSection layoutTitle LayoutSettings.fields .default carrier form).map
        fun v s => { s with layout := v }),
    overlaySlot "supervisor" (fun carrier form =>
      (decodeSection supervisorTitle SupervisorSettings.fields .default carrier form).map
        fun v s => { s with supervisor := v }),
    overlaySlot "logging" (fun carrier form =>
      (decodeSection loggingTitle LoggingSettings.fields .default carrier form).map
        fun v s => { s with logging := v })] default).decode

def toJson (settings : ToolSettings) : Json :=
  .object [
    ("layout", fieldsJson LayoutSettings.fields settings.layout),
    ("logging", fieldsJson LoggingSettings.fields settings.logging),
    ("supervisor", fieldsJson SupervisorSettings.fields settings.supervisor),
    ("toolchain", fieldsJson ToolchainSettings.fields settings.toolchain)]

/-- Refuses a text that is blank. -/
def requireText (field message text : String) : Except Failure Unit :=
  if Text.isBlankText text then .error (.config field message) else .ok ()

/-- Refuses settings with which every later stage would fail. -/
def validate (settings : ToolSettings) : Except Failure Unit := do
  requireText "toolchain.go_binary" "go binary must not be empty" settings.toolchain.goBinary
  requireText "toolchain.git_binary" "git binary must not be empty" settings.toolchain.gitBinary
  requireText "layout.source_dir" "source dir must not be empty" settings.layout.sourceDir
  requireText "layout.template_root" "template root must not be empty" settings.layout.templateRoot
  if settings.supervisor.tickInterval = 0 then
    throw (.config "supervisor.tick_interval_ms" "tick interval must be greater than zero")

end ToolSettings

end Pipewright
