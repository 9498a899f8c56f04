import Pipewright.Package
import Pipewright.Text.Blank

set_option autoImplicit false

/-! # Options of a project

`CreateOptions` says what to make a project from and where.

* `validate` refuses options that no project can be made from, with the first that is wrong.
* `projectDir` is the directory of the project. -/

namespace Pipewright

open Json

/-- What to make a project from, and where. -/
structure CreateOptions where
  /-- The directory under which sources and templates live. -/
  workspace : Path
  /-- The mapping documents, in the order in which they are merged. -/
  sources : List Path
  templateName : String
  /-- Where the project goes, taken from the source directory of the workspace. -/
  projectPath : Path
  /-- Whether a project that is there may be overwritten. -/
  forceWrite : Bool
  /-- Whether packages are fetched. -/
  getPackages : Bool
  /-- Whether packages that are there are fetched again. -/
  updatePackages : Bool
  pins : Pins
  deriving DecidableEq, Repr

namespace CreateOptions

/-- The options that name nothing. -/
def empty : CreateOptions := ⟨"", [], "", "", false, false, false, []⟩

/-- The first pin that lacks its package or its revision. -/
def brokenPin? (pins : Pins) : Option String :=
  (pins.find? (fun pin => pin.1 = "" || pin.2 = "")).map (·.1)

/-- What is wrong with a template name, judged without the blanks around it. -/
def templateNameFault? (name : String) : Option String :=
  let trimmed := Text.trim name
  if trimmed = "" then some "template name is empty"
  else if trimmed.toList.any (fun c => c = '/' || c = '\\') || trimmed = ".." then
    some ("template name " ++ trimmed ++ " must be a single path segment")
  else none

/-- Refuses options that no project can be made from. -/
def validate (options : CreateOptions) : Except Failure Unit := do
  if options.workspace = "" then throw (.validation "workspace" "workspace path is empty")
  if options.sources = [] then throw .noMappingSource
  if let some fault := templateNameFault? options.templateName then
    throw (.validation "template_name" fault)
  if options.projectPath = "" then throw (.validation "project_path" "project path is empty")
  if let some package := brokenPin? options.pins then
    throw (.validation "packages_revision"
      ("revision pin for '" ++ package ++ "' must name both a package and a revision"))

/-- The directory of the project: a relative path is taken from the source root. -/
def projectDir (options : CreateOptions) (sourceRoot : Path) : Path :=
  Path.join sourceRoot options.projectPath

/-! ## Documents -/

/-- The options that have been read. -/
structure Draft where
  workspace : Option Path
  sources : Option (List Path)
  templateName : Option String
  projectPath : Option Path
  forceWrite : Option Bool
  getPackages : Option Bool
  updatePackages : Option Bool
  pins : Option Pins

/-- A slot that may not be missing. -/
def slot {α : Type} (name : String) (get : Draft → Option α) (put : α → Draft → Draft)
    (decode : Decoder α) : Slot Draft :=
  { name, isFilled := fun draft => (get draft).isSome, isRequired := true
    fill := fun carrier form => (decode carrier form).map put }

def record : Record Draft CreateOptions :=
  { title := "struct CreateOptions"
    slots := [
      slot "workspace" (·.workspace) (fun a d => { d with workspace := some a }) Decoder.path,
      slot "sources" (·.sources) (fun a d => { d with sources := some a })
        (Decoder.list Decoder.path),
      slot "template_name" (·.templateName) (fun a d => { d with templateName := some a })
        Decoder.text,
      slot "project_path" (·.projectPath) (fun a d => { d with projectPath := some a })
        Decoder.path,
      slot "force_write" (·.forceWrite) (fun a d => { d with forceWrite := some a }) Decoder.bool,
      slot "get_packages" (·.getPackages) (fun a d => { d with getPackages := some a })
        Decoder.bool,
      slot "update_packages" (·.updatePackages) (fun a d => { d with updatePackages := some a })
        Decoder.bool,
      slot "packages_revision" (·.pins) (fun a d => { d with pins := some a })
        (Decoder.dictionary Decoder.text)]
    empty := ⟨none, none, none, none, none, none, none, none⟩
    finish := fun draft => do
      let workspace ← required "workspace" draft.workspace
      let sources ← required "sources" draft.sources
      let templateName ← required "template_name" draft.templateName
      let projectPath ← required "project_path" draft.projectPath
      let forceWrite ← required "force_write" draft.forceWrite
      let getPackages ← required "get_packages" draft.getPackages
      let updatePackages ← required "update_packages" draft.updatePackages
      let pins ← required "packages_revision" draft.pins
      return {
        workspace, sources, templateName, projectPath, forceWrite, getPackages, updatePackages,
        pins } }

def decode : Decoder CreateOptions := record.decode

def toJson (options : CreateOptions) : Json :=
  .object [
    ("force_write", .bool options.forceWrite),
    ("get_packages", .bool options.getPackages),
    ("packages_revision", .object (options.pins.map fun pin => (pin.1, .string pin.2))),
    ("project_path", .string options.projectPath),
    ("sources", .ofTexts options.sources),
    ("template_name", .string options.templateName),
    ("update_packages", .bool options.updatePackages),
    ("workspace", .string options.workspace)]

end CreateOptions

end Pipewright
